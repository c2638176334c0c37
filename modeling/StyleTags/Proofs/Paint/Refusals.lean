import StyleTags.Proofs.Paint.Spellings

/-!
# Why a tag is refused

A tag that spells no paint is refused for one reason, and its fields tell which.  `Refusal` lists
the reasons by the fields that call for them: three channels behind a mark of two characters are
judged channel by channel from the left, other numbers of fields and other marks by their shape
alone, and what is left by the name in the last field.  Reading refuses a tag exactly for the
reason that is listed (`ofTag_eq_error_iff`).
-/

namespace StyleTags

open Text (DecimalDigit HexByte SixHexDigits)

/-! ### The reasons -/

/-- The first of some fields that is not good: all fields in front of it are. -/
def FirstBad (Good : List Char → Prop) (fields : List (List Char)) (bad : List Char) : Prop :=
  ∃ before after, fields = before ++ bad :: after ∧ (∀ field ∈ before, Good field) ∧ ¬ Good bad

/-- A channel that consists of a decimal digit. -/
def IsDigit (channel : List Char) : Prop :=
  ∃ c v, channel = [c] ∧ DecimalDigit c v

/-- A channel that consists of one or two hexadecimal digits. -/
def IsByte (channel : List Char) : Prop :=
  ∃ v, HexByte channel v

/-- The fields are a name by itself or behind the mark of a layer. -/
def HoldName (fields : List (List Char)) (name : String) : Prop :=
  fields = [name.toList] ∨ ∃ mark, (mark = ['f', 'g'] ∨ mark = ['b', 'g'])
    ∧ fields = [mark, name.toList]

/-- The reasons to refuse a tag, by its fields. -/
inductive Refusal (tag : String) : List (List Char) → TagError → Prop where
  /-- Of three channels of one character each, one is no digit. -/
  | badDigit {mark x y z channel : List Char} (hmark : mark.length = 2)
      (hshort : x.length = 1 ∧ y.length = 1 ∧ z.length = 1)
      (hfirst : FirstBad IsDigit [x, y, z] channel) :
      Refusal tag [mark, x, y, z] (.badDigit (String.ofList channel) tag)
  /-- Of three other channels, one is no byte. -/
  | badByte {mark x y z channel : List Char} (hmark : mark.length = 2)
      (hlong : ¬ (x.length = 1 ∧ y.length = 1 ∧ z.length = 1))
      (hfirst : FirstBad IsByte [x, y, z] channel) :
      Refusal tag [mark, x, y, z] (.badByte (String.ofList channel) tag)
  /-- There are more than two fields, or two of which the first is no mark of a layer. -/
  | badShape {fields : List (List Char)}
      (hchannels : ¬ ∃ mark x y z, mark.length = 2 ∧ fields = [mark, x, y, z])
      (hshape : 2 < fields.length
        ∨ ∃ mark name, fields = [mark, name] ∧ mark ≠ ['f', 'g'] ∧ mark ≠ ['b', 'g']) :
      Refusal tag fields (.badShape tag)
  /-- The color of the name does not cover fully. -/
  | translucent {fields : List (List Char)} {name : String} {c : Swatch}
      (hfields : HoldName fields name) (hname : (name, c) ∈ Swatch.entries)
      (halpha : c.alpha ≠ 255) :
      Refusal tag fields (.translucent name)
  /-- There is no color of the name, which is no packed color behind a mark either. -/
  | noSuchColor {fields : List (List Char)} {name : String}
      (hfields : HoldName fields name) (hname : ∀ c, (name, c) ∉ Swatch.entries)
      (hpacked : fields.length = 2 → ¬ SixHexDigits name.toList) :
      Refusal tag fields (.noSuchColor name)

/-! ### The first bad field -/

section FirstBad

variable {Good : List Char → Prop} {field bad : List Char} {fields : List (List Char)}

theorem not_firstBad_nil :
  ¬ FirstBad Good [] bad
  := by
  rintro ⟨before, after, heq, -⟩
  simp at heq

theorem firstBad_cons_iff :
  FirstBad Good (field :: fields) bad
    ↔ ¬ Good field ∧ bad = field ∨ Good field ∧ FirstBad Good fields bad
  := by
  constructor
  · rintro ⟨before, after, heq, hbefore, hbad⟩
    cases before with
    | nil =>
        obtain ⟨rfl, rfl⟩ := List.cons.inj heq
        left
        exact ⟨hbad, rfl⟩
    | cons first before =>
        obtain ⟨rfl, rfl⟩ := List.cons.inj heq
        rw [List.forall_mem_cons] at hbefore
        right
        use hbefore.1, before, after, rfl, hbefore.2
  · rintro (⟨hbad, rfl⟩ | ⟨hgood, before, after, rfl, hbefore, hbad⟩)
    · use [], fields, rfl
      simpa using hbad
    · use field :: before, after, rfl
      rw [List.forall_mem_cons]
      exact ⟨⟨hgood, hbefore⟩, hbad⟩

end FirstBad

namespace Color

/-! ### Channels and names -/

theorem isDigit_iff {channel : List Char} :
  (level? channel).isSome ↔ IsDigit channel
  := by
  rw [Option.isSome_iff_exists]
  constructor
  · rintro ⟨level, hlevel⟩
    obtain ⟨c, rfl, hc⟩ := level?_eq_some_iff.mp hlevel
    use c, level.toNat
  · rintro ⟨c, v, rfl, hc⟩
    obtain ⟨level, hlevel, -⟩ := exists_level? hc
    use level

theorem isByte_iff {channel : List Char} :
  (Text.hexByte? channel).isSome ↔ IsByte channel
  := by
  rw [Option.isSome_iff_exists]
  constructor
  · rintro ⟨b, hb⟩
    use b.toNat
    apply Text.hexByte?_eq_some_iff.mp hb
  · rintro ⟨v, hv⟩
    obtain ⟨b, hb, -⟩ := hv.exists_hexByte?
    use b

/-- Channels are refused for the first of them that cannot be read. -/
theorem channels_eq_error_iff {read : List Char → Option UInt8} {Good : List Char → Prop}
    (hread : ∀ channel, (read channel).isSome ↔ Good channel) {bad : List Char → TagError}
    {make : UInt8 → UInt8 → UInt8 → Color} {x y z : List Char} {reason : TagError} :
  channels read bad make x y z = .error reason
    ↔ ∃ channel, FirstBad Good [x, y, z] channel ∧ reason = bad channel
  := by
  simp only [firstBad_cons_iff, not_firstBad_nil, ← hread, channels]
  cases read x with
  | none => simpa using eq_comm
  | some r =>
      cases read y with
      | none => simpa using eq_comm
      | some g =>
          cases read z with
          | none => simpa using eq_comm
          | some b => simp

/-- A name is refused if its color does not cover fully, or if there is no color of this name. -/
theorem named_eq_error_iff {name : String} {reason : TagError} :
  named name = .error reason
    ↔ (∃ c, (name, c) ∈ Swatch.entries ∧ c.alpha ≠ 255 ∧ reason = .translucent name)
      ∨ (∀ c, (name, c) ∉ Swatch.entries) ∧ reason = .noSuchColor name
  := by
  simp only [← Swatch.find?_eq_some_iff]
  unfold named Swatch.isSolid
  cases Swatch.find? name with
  | none => simpa using eq_comm
  | some c =>
      by_cases hsolid : c.alpha = 255
      · simp [hsolid]
      · simpa [hsolid] using eq_comm

/-- Six hexadecimal digits are read as a packed color. -/
theorem exists_ofPacked? {digits : List Char} (h : SixHexDigits digits) :
  ∃ color, ofPacked? digits = some color
  := by
  obtain ⟨hlength, hdigits⟩ := h
  match digits with
  | [x₁, x₀, y₁, y₀, z₁, z₀] =>
      obtain ⟨r, hr⟩ := Text.exists_hexByte? (hdigits x₁ (by simp)) (hdigits x₀ (by simp))
      obtain ⟨g, hg⟩ := Text.exists_hexByte? (hdigits y₁ (by simp)) (hdigits y₀ (by simp))
      obtain ⟨b, hb⟩ := Text.exists_hexByte? (hdigits z₁ (by simp)) (hdigits z₀ (by simp))
      use .rgb r g b
      rw [ofPacked?_eq_some_iff]
      use x₁, x₀, y₁, y₀, z₁, z₀, r, g, b

theorem ofPacked?_eq_none_iff {digits : List Char} :
  ofPacked? digits = none ↔ ¬ SixHexDigits digits
  := by
  rw [Option.eq_none_iff_forall_ne_some]
  constructor
  · intro hnone hsix
    obtain ⟨color, hcolor⟩ := exists_ofPacked? hsix
    apply hnone color hcolor
  · intro hsix color hcolor
    apply hsix (sixHexDigits_of_ofPacked? hcolor)

end Color

namespace Paint

/-! ### Fields and tags -/

theorem map_eq_error_iff {result : Except TagError Color} {layer : Layer} {reason : TagError} :
  result.map (⟨layer, ·⟩ : Color → Paint) = .error reason ↔ result = .error reason
  := by
  cases result with
  | error e => simp [Except.map]
  | ok color => simp [Except.map]

/-- A name in the last field calls for the reason that its color gives. -/
theorem refusal_of_named {tag name : String} {fields : List (List Char)} {reason : TagError}
    (hfields : HoldName fields name) (hpacked : fields.length = 2 → ¬ SixHexDigits name.toList)
    (h : Color.named name = .error reason) :
  Refusal tag fields reason
  := by
  rcases Color.named_eq_error_iff.mp h with ⟨c, hname, halpha, rfl⟩ | ⟨hname, rfl⟩
  · apply Refusal.translucent hfields hname halpha
  · apply Refusal.noSuchColor hfields hname hpacked

/-- Fields that are refused call for the reason. -/
theorem refusal_of_ofFields {tag : String} {fields : List (List Char)} {reason : TagError}
    (hne : fields ≠ []) (h : ofFields tag fields = .error reason) :
  Refusal tag fields reason
  := by
  unfold ofFields at h
  split at h
  · next name =>
    apply refusal_of_named _ _ (map_eq_error_iff.mp h)
    · left
      rw [String.toList_ofList]
    · simp
  · next mark name =>
    split at h
    · next hmark =>
      split at h
      · contradiction
      · next hnone =>
        apply refusal_of_named _ _ (map_eq_error_iff.mp h)
        · right
          use mark, hmark
          rw [String.toList_ofList]
        · intro _
          rw [String.toList_ofList]
          apply Color.ofPacked?_eq_none_iff.mp hnone
    · next hmark =>
      cases h
      rw [not_or] at hmark
      apply Refusal.badShape
      · simp
      · right
        use mark, name, rfl, hmark.1, hmark.2
  · next mark x y z =>
    split at h
    · next htwo =>
      rw [map_eq_error_iff, Color.ofChannels] at h
      split at h
      · next hshort =>
        obtain ⟨channel, hfirst, rfl⟩ := (Color.channels_eq_error_iff fun _ => Color.isDigit_iff).mp h
        apply Refusal.badDigit htwo hshort hfirst
      · next hlong =>
        obtain ⟨channel, hfirst, rfl⟩ := (Color.channels_eq_error_iff fun _ => Color.isByte_iff).mp h
        apply Refusal.badByte htwo hlong hfirst
    · next htwo =>
      cases h
      apply Refusal.badShape
      · rintro ⟨mark', x', y', z', htwo', heq⟩
        cases heq
        apply htwo htwo'
      · left
        simp
  · next hone htwo hfour =>
    cases h
    apply Refusal.badShape
    · rintro ⟨mark, x, y, z, -, rfl⟩
      apply hfour mark x y z rfl
    · left
      rcases fields with _ | ⟨mark, _ | ⟨name, _ | ⟨x, rest⟩⟩⟩
      · contradiction
      · apply (hone mark rfl).elim
      · apply (htwo mark name rfl).elim
      · simp

theorem ofFields_of_named {tag name : String} {fields : List (List Char)} {reason : TagError}
    (hfields : HoldName fields name) (hpacked : fields.length = 2 → ¬ SixHexDigits name.toList)
    (h : Color.named name = .error reason) :
  ofFields tag fields = .error reason
  := by
  rcases hfields with rfl | ⟨mark, hmark, rfl⟩
  · rw [ofFields, String.ofList_toList, map_eq_error_iff]
    apply h
  · rw [ofFields, if_pos hmark, Color.ofPacked?_eq_none_iff.mpr (hpacked rfl),
      String.ofList_toList]
    apply map_eq_error_iff.mpr h

/-- Fields are refused for the reason that they call for. -/
theorem ofFields_of_refusal {tag : String} {fields : List (List Char)} {reason : TagError}
    (h : Refusal tag fields reason) :
  ofFields tag fields = .error reason
  := by
  cases h with
  | @badDigit mark x y z channel hmark hshort hfirst =>
      rw [ofFields, if_pos hmark, map_eq_error_iff, Color.ofChannels, if_pos hshort,
        Color.channels_eq_error_iff fun _ => Color.isDigit_iff]
      use channel
  | @badByte mark x y z channel hmark hlong hfirst =>
      rw [ofFields, if_pos hmark, map_eq_error_iff, Color.ofChannels, if_neg hlong,
        Color.channels_eq_error_iff fun _ => Color.isByte_iff]
      use channel
  | badShape hchannels hshape =>
      rcases fields with _ | ⟨mark, _ | ⟨x, _ | ⟨y, _ | ⟨z, _ | ⟨_, _⟩⟩⟩⟩⟩
      · rfl
      · simp at hshape
      · have hmark : ¬ (mark = ['f', 'g'] ∨ mark = ['b', 'g']) := by simpa using hshape
        rw [ofFields, if_neg hmark]
      · rfl
      · have htwo : mark.length ≠ 2 := by simpa using hchannels
        rw [ofFields, if_neg htwo]
      · rfl
  | @translucent _ name c hfields hname halpha =>
      apply ofFields_of_named hfields
      · intro _
        rw [← Color.ofPacked?_eq_none_iff]
        apply (Swatch.name_plain _ hname).2.2
      · rw [Color.named_eq_error_iff]
        left
        use c
  | noSuchColor hfields hname hpacked =>
      apply ofFields_of_named hfields hpacked
      rw [Color.named_eq_error_iff]
      right
      exact ⟨hname, rfl⟩

/-- A tag that is refused calls for the reason. -/
theorem refusal_of_ofTag {tag : String} {reason : TagError} (h : ofTag tag = .error reason) :
  Refusal tag (tag.toList.splitOn ':') reason
  := refusal_of_ofFields (List.splitOn_ne_nil ':' tag.toList) h

/-- A tag is refused exactly for the reason that its fields call for.  If three channels stand
behind a mark of two characters, it is the first of them that is no digit, or no byte.  Otherwise
it is the shape of the tag if this has more than two fields, or two of which the first is no mark
of a layer.  Otherwise it is the name in the last field: either its color does not cover fully, or
it is the name of no color, and is no packed color behind a mark. -/
theorem ofTag_eq_error_iff (tag : String) (reason : TagError) :
  ofTag tag = .error reason ↔ Refusal tag (tag.toList.splitOn ':') reason
  := by
  constructor
  · apply refusal_of_ofTag
  · apply ofFields_of_refusal

/-- One empty channel makes bytes of all three, a channel of one character need not be of one byte,
five fields are too many, and a name is looked for even where it is empty. -/
example :
  ofTag "fg::0:0" = .error (.badByte "" "fg::0:0")
    ∧ ofTag "fg:é:0:x" = .error (.badDigit "é" "fg:é:0:x")
    ∧ ofTag "fg:0:0:0:0" = .error (.badShape "fg:0:0:0:0")
    ∧ ofTag "bg:" = .error (.noSuchColor "")
    ∧ ofTag "Transparent" = .error (.translucent "Transparent")
  := by decide +kernel

end Paint

end StyleTags
