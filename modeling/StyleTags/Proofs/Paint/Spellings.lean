import StyleTags.Proofs.Paint.Grammar

/-!
# Different spellings of a color

The same color can be spelled by several tags: with a mark of either layer, with the mark left
out, with the letters of the mark in either case, or with its six digits packed or apart.  All of
them are read alike, or refused for the same reason (`spellings_agree`).

A reason may name the tag that is refused, but nothing else that is read behind a mark depends on
the whole tag.  `Uniform` says this of a part of the reading, and `TagError.forTag` gives a reason
for another tag.
-/

namespace StyleTags

/-- The same reason, given for another tag. -/
def TagError.forTag (tag : String) : TagError → TagError
  | .refusedBefore _ => .refusedBefore tag
  | .badShape _ => .badShape tag
  | .badDigit channel _ => .badDigit channel tag
  | .badByte channel _ => .badByte channel tag
  | .noSuchColor name => .noSuchColor name
  | .translucent name => .translucent name

/-! ### What does not depend on the whole tag -/

/-- Something is read alike for all tags, or refused for all of them for the same reason. -/
def Uniform {α : Type} (read : String → Except TagError α) : Prop :=
  (∃ value, ∀ tag, read tag = .ok value)
    ∨ ∃ reason : TagError, ∀ tag, read tag = .error (reason.forTag tag)

theorem uniform_ok {α : Type} (value : α) :
  Uniform fun _ => .ok value
  := by
  left
  use value
  intro tag
  rfl

/-- A reason that names no other tag is the same for all tags. -/
theorem uniform_error (α : Type) {bad : String → TagError}
    (hbad : ∀ tag, (bad "").forTag tag = bad tag) :
  Uniform fun tag => (.error (bad tag) : Except TagError α)
  := by
  right
  use bad ""
  intro tag
  rw [hbad]

namespace Color

theorem uniform_named (name : String) :
  Uniform fun _ => named name
  := by
  simp only [named]
  cases Swatch.find? name with
  | none => apply uniform_error Color (fun _ => rfl)
  | some c =>
      by_cases hsolid : c.isSolid
      · simp only [if_pos hsolid]
        apply uniform_ok
      · simp only [if_neg hsolid]
        apply uniform_error Color (fun _ => rfl)

/-- Channels are read alike for all tags if those that cannot be read are refused alike. -/
theorem uniform_channels {bad : String → List Char → TagError}
    (hbad : ∀ channel tag, (bad "" channel).forTag tag = bad tag channel)
    (read : List Char → Option UInt8) (make : UInt8 → UInt8 → UInt8 → Color)
    (x y z : List Char) :
  Uniform fun tag => channels read (bad tag) make x y z
  := by
  simp only [channels]
  cases read x with
  | none => apply uniform_error Color (hbad x)
  | some r =>
      cases read y with
      | none => apply uniform_error Color (hbad y)
      | some g =>
          cases read z with
          | none => apply uniform_error Color (hbad z)
          | some b => apply uniform_ok

theorem uniform_ofChannels (x y z : List Char) :
  Uniform fun tag => ofChannels tag x y z
  := by
  by_cases hshort : x.length = 1 ∧ y.length = 1 ∧ z.length = 1
  · simp only [ofChannels, if_pos hshort]
    apply uniform_channels (fun _ _ => rfl)
  · simp only [ofChannels, if_neg hshort]
    apply uniform_channels (fun _ _ => rfl)

/-- What the fields behind the mark of a layer are read as. -/
def behindMark (tag : String) : List (List Char) → Except TagError Color
  | [name] =>
    match ofPacked? name with
    | some color => .ok color
    | none => named (String.ofList name)
  | [x, y, z] => ofChannels tag x y z
  | _ => .error (.badShape tag)

theorem uniform_behindMark (fields : List (List Char)) :
  Uniform fun tag => behindMark tag fields
  := by
  match fields with
  | [name] =>
      simp only [behindMark]
      cases ofPacked? name with
      | none => apply uniform_named
      | some color => apply uniform_ok
  | [x, y, z] => apply uniform_ofChannels
  | [] => apply uniform_error Color (fun _ => rfl)
  | [x, y] => apply uniform_error Color (fun _ => rfl)
  | _ :: _ :: _ :: _ :: _ => apply uniform_error Color (fun _ => rfl)

end Color

/-! ### Six hexadecimal digits -/

/-- A row of six hexadecimal digits. -/
def Text.SixHexDigits (digits : List Char) : Prop :=
  digits.length = 6 ∧ ∀ c ∈ digits, ∃ v, HexDigit c v

theorem Text.exists_hexByte? {x y : Char} (hx : ∃ v, HexDigit x v) (hy : ∃ v, HexDigit y v) :
  ∃ b, hexByte? [x, y] = some b
  := by
  obtain ⟨v, hv⟩ := hx
  obtain ⟨w, hw⟩ := hy
  obtain ⟨b, hb, -⟩ := (HexByte.two hv hw).exists_hexByte?
  use b

theorem Text.hexDigits_of_hexByte? {x y : Char} {b : UInt8} (h : hexByte? [x, y] = some b) :
  (∃ v, HexDigit x v) ∧ ∃ v, HexDigit y v
  := by
  rw [hexByte?_eq_some_iff] at h
  generalize b.toNat = v at h
  obtain _ | ⟨hx, hy⟩ := h
  exact ⟨⟨_, hx⟩, ⟨_, hy⟩⟩

/-- What is read as a packed color is a row of six hexadecimal digits. -/
theorem Color.sixHexDigits_of_ofPacked? {digits : List Char} {color : Color}
    (h : ofPacked? digits = some color) :
  Text.SixHexDigits digits
  := by
  obtain ⟨x₁, x₀, y₁, y₀, z₁, z₀, r, g, b, rfl, hr, hg, hb, -⟩ := ofPacked?_eq_some_iff.mp h
  obtain ⟨hx₁, hx₀⟩ := Text.hexDigits_of_hexByte? hr
  obtain ⟨hy₁, hy₀⟩ := Text.hexDigits_of_hexByte? hg
  obtain ⟨hz₁, hz₀⟩ := Text.hexDigits_of_hexByte? hb
  constructor
  · rfl
  · simp only [List.forall_mem_cons, List.not_mem_nil, false_imp_iff, implies_true, and_true]
    exact ⟨hx₁, hx₀, hy₁, hy₀, hz₁, hz₀⟩

namespace Paint

/-! ### Reading a tag by its mark -/

theorem ofFields_of_mark {mark : List Char} (hmark : mark = ['f', 'g'] ∨ mark = ['b', 'g'])
    (tag : String) {fields : List (List Char)} (hne : fields ≠ []) :
  ofFields tag (mark :: fields) = (Color.behindMark tag fields).map (⟨.ofMark mark, ·⟩)
  := by
  match fields with
  | [name] =>
      rw [ofFields, if_pos hmark, Color.behindMark]
      cases Color.ofPacked? name with
      | none => rfl
      | some color => rfl
  | [x, y, z] =>
      have htwo : mark.length = 2 := by
        rcases hmark with rfl | rfl
        · rfl
        · rfl
      rw [ofFields, if_pos htwo]
      rfl
  | [x, y] => rfl
  | _ :: _ :: _ :: _ :: _ => rfl

/-- A tag with the mark of a layer is read by the fields behind the mark. -/
theorem ofTag_of_mark {tag : String} {mark : List Char} (fields : List (List Char))
    (hmark : mark = ['f', 'g'] ∨ mark = ['b', 'g']) (hne : fields ≠ [])
    (hfree : ∀ field ∈ fields, ':' ∉ field)
    (htext : tag.toList = mark ++ ':' :: [':'].intercalate fields) :
  ofTag tag = (Color.behindMark tag fields).map (⟨.ofMark mark, ·⟩)
  := by
  rw [← ofFields_of_mark hmark tag hne]
  apply ofTag_eq_ofFields (List.cons_ne_nil _ _)
  · rw [List.forall_mem_cons]
    apply And.intro (colon_not_mem_mark hmark) hfree
  · rw [List.intercalate_cons_of_ne_nil hne, htext, List.append_assoc, List.singleton_append]

/-- Both tags are refused for the same reason. -/
def RefusedAlike (tag tag' : String) : Prop :=
  ∃ reason : TagError, ofTag tag = .error (reason.forTag tag)
    ∧ ofTag tag' = .error (reason.forTag tag')

/-- Two tags that differ in the layer of what is read alike are both read, with the same color, or
refused alike. -/
theorem ok_or_refusedAlike {read : String → Except TagError Color} (h : Uniform read)
    {tag tag' : String} {layer layer' : Layer} (htag : ofTag tag = (read tag).map (⟨layer, ·⟩))
    (htag' : ofTag tag' = (read tag').map (⟨layer', ·⟩)) :
  (∃ color, ofTag tag = .ok ⟨layer, color⟩ ∧ ofTag tag' = .ok ⟨layer', color⟩)
    ∨ RefusedAlike tag tag'
  := by
  rw [RefusedAlike, htag, htag']
  rcases h with ⟨color, hcolor⟩ | ⟨reason, hreason⟩
  · left
    use color
    rw [hcolor, hcolor]
    apply And.intro rfl rfl
  · right
    use reason
    rw [hreason, hreason]
    apply And.intro rfl rfl

/-! ### The spellings -/

/-- The layer of a color shows in the first parameter of its escape sequence only. -/
theorem exists_escape_eq (color : Color) :
  ∃ rest, escape ⟨.foreground, color⟩ = "\x1b[38;" ++ rest
    ∧ escape ⟨.background, color⟩ = "\x1b[48;" ++ rest
  := by
  have hne : color.parameters.map toString ≠ [] := by
    cases color with
    | cube r g b => simp [Color.parameters]
    | rgb r g b => simp [Color.parameters]
  have hsplit : ∀ layer : Layer, escape ⟨layer, color⟩
      = ("\x1b[" ++ toString layer.selector ++ ";")
        ++ (";".intercalate (color.parameters.map toString) ++ "m") := by
    intro layer
    rw [escape_eq, parameters, List.map_cons, String.intercalate_cons_of_ne_nil hne]
    simp only [String.append_assoc]
  use ";".intercalate (color.parameters.map toString) ++ "m"
  rw [hsplit, hsplit]
  apply And.intro rfl rfl

/-- On either layer the same is read behind the mark. -/
theorem layers_agree (rest : String) :
  (∃ color, ofTag ("fg:" ++ rest) = .ok ⟨.foreground, color⟩
      ∧ ofTag ("bg:" ++ rest) = .ok ⟨.background, color⟩)
    ∨ RefusedAlike ("fg:" ++ rest) ("bg:" ++ rest)
  := by
  have hread : ∀ mark, mark = ['f', 'g'] ∨ mark = ['b', 'g'] → ∀ tag : String,
      tag.toList = mark ++ ':' :: rest.toList →
      ofTag tag
        = (Color.behindMark tag (rest.toList.splitOn ':')).map (⟨.ofMark mark, ·⟩) := by
    intro mark hmark tag htext
    apply ofTag_of_mark _ hmark (List.splitOn_ne_nil ':' rest.toList)
    · intro field
      apply Text.not_mem_of_mem_splitOn
    · rw [List.intercalate_splitOn, htext]
  apply ok_or_refusedAlike (Color.uniform_behindMark (rest.toList.splitOn ':'))
  · apply hread ['f', 'g'] (Or.inl rfl)
    apply String.toList_append
  · apply hread ['b', 'g'] (Or.inr rfl)
    apply String.toList_append

/-- The mark of the foreground can be left out of a tag with a name. -/
theorem ofTag_eq_ofTag_foreground {name : String} (hfree : ':' ∉ name.toList)
    (hname : ¬ Text.SixHexDigits name.toList) :
  ofTag name = ofTag ("fg:" ++ name)
  := by
  have hfields : ∀ field ∈ [name.toList], ':' ∉ field := by simpa using hfree
  have hpacked : Color.ofPacked? name.toList = none := by
    rw [Option.eq_none_iff_forall_ne_some]
    intro color hcolor
    apply hname (Color.sixHexDigits_of_ofPacked? hcolor)
  have hbare : ofTag name = ofFields name [name.toList] := by
    apply ofTag_eq_ofFields (List.cons_ne_nil _ _) hfields
    apply List.intercalate_singleton
  have hmarked : ofTag ("fg:" ++ name) = (Color.named name).map (⟨.foreground, ·⟩) := by
    have htext : ("fg:" ++ name).toList = ['f', 'g'] ++ ':' :: [':'].intercalate [name.toList] := by
      rw [List.intercalate_singleton, String.toList_append]
      rfl
    rw [ofTag_of_mark _ (Or.inl rfl) (List.cons_ne_nil _ _) hfields htext, Color.behindMark,
      hpacked, String.ofList_toList]
    rfl
  rw [hbare, hmarked, ofFields, String.ofList_toList]
  cases hnamed : Color.named name with
  | error reason => rfl
  | ok color =>
      -- a name that selects the background by itself is not the name of a color
      rw [← String.ofList_toList (s := name)] at hnamed
      obtain ⟨-, hlayer, -⟩ := Color.plain_of_named hnamed
      rw [hlayer]

/-- Six digits behind the mark of a layer can be packed or be taken apart into three bytes. -/
theorem ofTag_packed_eq_ofTag_apart {mark : List Char}
    (hmark : mark = ['f', 'g'] ∨ mark = ['b', 'g']) {x₁ x₀ y₁ y₀ z₁ z₀ : Char}
    (h : Text.SixHexDigits [x₁, x₀, y₁, y₀, z₁, z₀]) :
  ofTag (String.ofList (mark ++ [':', x₁, x₀, y₁, y₀, z₁, z₀]))
    = ofTag (String.ofList (mark ++ [':', x₁, x₀, ':', y₁, y₀, ':', z₁, z₀]))
  := by
  obtain ⟨-, hdigits⟩ := h
  simp only [List.forall_mem_cons, List.not_mem_nil, false_imp_iff, implies_true, and_true]
    at hdigits
  obtain ⟨hx₁, hx₀, hy₁, hy₀, hz₁, hz₀⟩ := hdigits
  obtain ⟨r, hr⟩ := Text.exists_hexByte? hx₁ hx₀
  obtain ⟨g, hg⟩ := Text.exists_hexByte? hy₁ hy₀
  obtain ⟨b, hb⟩ := Text.exists_hexByte? hz₁ hz₀
  have hxfree := colon_not_mem_hexByte (Text.hexByte?_eq_some_iff.mp hr)
  have hyfree := colon_not_mem_hexByte (Text.hexByte?_eq_some_iff.mp hg)
  have hzfree := colon_not_mem_hexByte (Text.hexByte?_eq_some_iff.mp hb)
  have hpacked : Color.ofPacked? [x₁, x₀, y₁, y₀, z₁, z₀] = some (.rgb r g b) := by
    rw [Color.ofPacked?_eq_some_iff]
    use x₁, x₀, y₁, y₀, z₁, z₀, r, g, b
  have hapart : ∀ tag, Color.ofChannels tag [x₁, x₀] [y₁, y₀] [z₁, z₀] = .ok (.rgb r g b) := by
    intro tag
    rw [Color.ofChannels, if_neg (by simp), Color.channels_eq_ok_iff]
    use r, g, b
  rw [ofTag_of_mark [[x₁, x₀, y₁, y₀, z₁, z₀]] hmark,
    ofTag_of_mark [[x₁, x₀], [y₁, y₀], [z₁, z₀]] hmark]
  · simp only [Color.behindMark, hpacked, hapart]
  · simp
  · simp only [List.forall_mem_cons, List.not_mem_nil, false_imp_iff, implies_true, and_true]
    exact ⟨hxfree, hyfree, hzfree⟩
  · simp [List.intercalate_cons_cons]
  · simp
  · have hall : ':' ∉ [x₁, x₀] ++ [y₁, y₀] ++ [z₁, z₀] := by
      rw [List.mem_append, List.mem_append, not_or, not_or]
      exact ⟨⟨hxfree, hyfree⟩, hzfree⟩
    simpa using hall
  · simp

/-- Behind a mark of two characters three channels are read, whatever the mark is. -/
theorem ofTag_of_channels {tag : String} {mark x y z : List Char} (htwo : mark.length = 2)
    (hfree : ∀ field ∈ [mark, x, y, z], ':' ∉ field)
    (htext : tag.toList = [':'].intercalate [mark, x, y, z]) :
  ofTag tag = (Color.ofChannels tag x y z).map (⟨.ofMark mark, ·⟩)
  := by
  rw [ofTag_eq_ofFields (List.cons_ne_nil _ _) hfree htext.symm, ofFields, if_pos htwo]

/-- The mark of a layer can be written in either case in front of three channels. -/
theorem cases_of_mark_agree {mark x y z : List Char}
    (hmark : mark.map Char.toLower = ['f', 'g'] ∨ mark.map Char.toLower = ['b', 'g'])
    (hx : ':' ∉ x) (hy : ':' ∉ y) (hz : ':' ∉ z) :
  let tag := String.ofList ([':'].intercalate [mark, x, y, z])
  let small := String.ofList ([':'].intercalate [mark.map Char.toLower, x, y, z])
  (∃ paint, ofTag tag = .ok paint ∧ ofTag small = .ok paint) ∨ RefusedAlike tag small
  := by
  intro tag small
  have htwo : (mark.map Char.toLower).length = 2 := by
    rcases hmark with hmark | hmark
    · rw [hmark]
      rfl
    · rw [hmark]
      rfl
  have hsmall : ':' ∉ mark.map Char.toLower := colon_not_mem_mark hmark
  have hlarge : ':' ∉ mark := by
    intro hmem
    apply hsmall (List.mem_map.mpr ⟨':', hmem, rfl⟩)
  have hlayer : Layer.ofMark (mark.map Char.toLower) = Layer.ofMark mark := by
    rw [Layer.ofMark, Layer.ofMark]
    rcases hmark with hmark | hmark
    · rw [hmark]
      rfl
    · rw [hmark]
      rfl
  have hfree : ∀ mark : List Char, ':' ∉ mark → ∀ field ∈ [mark, x, y, z], ':' ∉ field := by
    intro mark hmark
    simp only [List.forall_mem_cons, List.not_mem_nil, false_imp_iff, implies_true, and_true]
    exact ⟨hmark, hx, hy, hz⟩
  have htag : ofTag tag = (Color.ofChannels tag x y z).map (⟨.ofMark mark, ·⟩) := by
    apply ofTag_of_channels _ (hfree mark hlarge) String.toList_ofList
    rw [← htwo, List.length_map]
  have htag' : ofTag small = (Color.ofChannels small x y z).map (⟨.ofMark mark, ·⟩) := by
    rw [← hlayer]
    apply ofTag_of_channels htwo (hfree _ hsmall) String.toList_ofList
  rcases ok_or_refusedAlike (Color.uniform_ofChannels x y z) htag htag' with ⟨color, h⟩ | h
  · left
    use ⟨.ofMark mark, color⟩
  · right
    apply h

/-- On either layer the same is read behind the mark, and of two escape sequences only the first
parameter differs.  The mark of the foreground can be left out of a tag with a name.  Six
hexadecimal digits behind a mark can be packed or be taken apart into three bytes.  The mark in
front of three channels can be written in either case.  What is refused in one of these spellings
is refused in the other for the same reason. -/
theorem spellings_agree :
  (∀ rest : String,
      (∃ tail, (ofTag ("fg:" ++ rest)).map escape = .ok ("\x1b[38;" ++ tail)
          ∧ (ofTag ("bg:" ++ rest)).map escape = .ok ("\x1b[48;" ++ tail))
        ∨ RefusedAlike ("fg:" ++ rest) ("bg:" ++ rest))
    ∧ (∀ name : String, ':' ∉ name.toList → ¬ Text.SixHexDigits name.toList →
      ofTag name = ofTag ("fg:" ++ name))
    ∧ (∀ mark, mark = ['f', 'g'] ∨ mark = ['b', 'g'] → ∀ x₁ x₀ y₁ y₀ z₁ z₀,
      Text.SixHexDigits [x₁, x₀, y₁, y₀, z₁, z₀] →
      ofTag (String.ofList (mark ++ [':', x₁, x₀, y₁, y₀, z₁, z₀]))
        = ofTag (String.ofList (mark ++ [':', x₁, x₀, ':', y₁, y₀, ':', z₁, z₀])))
    ∧ ∀ mark x y z : List Char,
      mark.map Char.toLower = ['f', 'g'] ∨ mark.map Char.toLower = ['b', 'g'] →
      ':' ∉ x → ':' ∉ y → ':' ∉ z →
      let tag := String.ofList ([':'].intercalate [mark, x, y, z])
      let small := String.ofList ([':'].intercalate [mark.map Char.toLower, x, y, z])
      (∃ paint, ofTag tag = .ok paint ∧ ofTag small = .ok paint) ∨ RefusedAlike tag small
  := by
  refine ⟨?layers, ?bare, ?packed, ?capitals⟩
  case layers =>
    intro rest
    rcases layers_agree rest with ⟨color, hforeground, hbackground⟩ | h
    · left
      obtain ⟨tail, htail, htail'⟩ := exists_escape_eq color
      use tail
      rw [hforeground, hbackground, ← htail, ← htail']
      apply And.intro rfl rfl
    · right
      apply h
  case bare => apply ofTag_eq_ofTag_foreground
  case packed =>
    intro mark hmark x₁ x₀ y₁ y₀ z₁ z₀ hdigits
    apply ofTag_packed_eq_ofTag_apart hmark hdigits
  case capitals =>
    intro mark x y z hmark hx hy hz
    apply cases_of_mark_agree hmark hx hy hz

/-- A channel that is refused is given in the reason as it is written, and so is the tag. -/
example :
  ofTag "bG:0g:00:00" = .error (.badByte "0g" "bG:0g:00:00")
    ∧ ofTag "fg:0g:00:00" = .error (.badByte "0g" "fg:0g:00:00")
  := by decide +kernel

end Paint

end StyleTags
