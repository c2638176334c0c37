import StyleTags.Proofs.Paint.Palette
import StyleTags.Proofs.Text.Ascii
import StyleTags.Text.Cut
import Mathlib.Data.List.Basic

/-!
# The grammar of color tags

`Spells` lists the forms of a color tag by the text of the tag, with the rendition
parameters that each of them stands for.  Reading a tag gives an escape sequence exactly for
the tags of these forms, namely the sequence of their parameters, and a tag has no two of
the forms with different parameters (`escape_ofTag_iff_spells`).
-/

namespace StyleTags

open Text (DecimalDigit HexDigit HexByte)

/-! ### The forms of a tag -/

/-- The marks of the background, in every case of their letters. -/
def backgroundMarks : List (List Char) :=
  [['b', 'g'], ['b', 'G'], ['B', 'g'], ['B', 'G']]

/-- The parameter of the layer that a tag selects by what stands before its first colon. -/
def layerCode (tag : List Char) : Nat :=
  if ':' ∈ tag ∧ tag.takeWhile (· ≠ ':') ∈ backgroundMarks then 48 else 38

/-- The forms of a color tag, with the parameters of the color. -/
inductive SpellsColor : List Char → List Nat → Prop where
  /-- Three decimal digits behind a mark of any two characters. -/
  | cube {p q x y z : Char} {a b c : Nat} (hp : p ≠ ':') (hq : q ≠ ':')
      (hx : DecimalDigit x a) (hy : DecimalDigit y b) (hz : DecimalDigit z c) :
      SpellsColor [p, q, ':', x, ':', y, ':', z] [5, 16 + 36 * a + 6 * b + c]
  /-- Three bytes behind a mark of any two characters. -/
  | bytes {p q : Char} {x y z : List Char} {r g b : Nat} (hp : p ≠ ':') (hq : q ≠ ':')
      (hx : HexByte x r) (hy : HexByte y g) (hz : HexByte z b)
      (hlong : ¬ (x.length = 1 ∧ y.length = 1 ∧ z.length = 1)) :
      SpellsColor (p :: q :: ':' :: (x ++ ':' :: (y ++ ':' :: z))) [2, r, g, b]
  /-- Six hexadecimal digits behind a mark of a layer. -/
  | packed {mark : List Char} {x₁ x₀ y₁ y₀ z₁ z₀ : Char} {r g b : Nat}
      (hmark : mark = ['f', 'g'] ∨ mark = ['b', 'g'])
      (hx : HexByte [x₁, x₀] r) (hy : HexByte [y₁, y₀] g) (hz : HexByte [z₁, z₀] b) :
      SpellsColor (mark ++ [':', x₁, x₀, y₁, y₀, z₁, z₀]) [2, r, g, b]
  /-- The name of a solid color of the palette. -/
  | named {name : String} {c : Swatch} (hname : (name, c) ∈ Swatch.entries)
      (hsolid : c.alpha = 255) :
      SpellsColor name.toList [2, c.red.toNat, c.green.toNat, c.blue.toNat]
  /-- The name of a solid color of the palette behind a mark of a layer. -/
  | marked {mark : List Char} {name : String} {c : Swatch}
      (hmark : mark = ['f', 'g'] ∨ mark = ['b', 'g']) (hname : (name, c) ∈ Swatch.entries)
      (hsolid : c.alpha = 255) :
      SpellsColor (mark ++ ':' :: name.toList) [2, c.red.toNat, c.green.toNat, c.blue.toNat]

/-- A tag stands for the parameters of a layer and a color. -/
def Spells (tag : List Char) (parameters : List Nat) : Prop :=
  ∃ color, SpellsColor tag color ∧ parameters = layerCode tag :: color

/-! ### Layers -/

theorem mem_backgroundMarks_iff {mark : List Char} :
  mark ∈ backgroundMarks ↔ mark.map Char.toLower = ['b', 'g']
  := by
  have hb : ∀ c : Char, c.toLower = 'b' ↔ c = 'b' ∨ c = 'B' := fun _ =>
    Text.toLower_eq_iff (by decide)
  have hg : ∀ c : Char, c.toLower = 'g' ↔ c = 'g' ∨ c = 'G' := fun _ =>
    Text.toLower_eq_iff (by decide)
  match mark with
  | [] => simp [backgroundMarks]
  | [p] => simp [backgroundMarks]
  | [p, q] =>
      simp only [backgroundMarks, List.mem_cons, List.not_mem_nil, or_false, List.cons.injEq,
        and_true, List.map_cons, List.map_nil, hb, hg]
      rw [or_and_right, and_or_left, and_or_left, or_assoc]
  | p :: q :: r :: mark => simp [backgroundMarks]

theorem layerCode_of_mark {mark : List Char} (h : ':' ∉ mark) (rest : List Char) :
  layerCode (mark ++ ':' :: rest) = (Layer.ofMark mark).selector
  := by
  rw [layerCode, Text.takeWhile_ne_append_cons h, Layer.ofMark]
  simp only [mem_backgroundMarks_iff]
  by_cases hmark : mark.map Char.toLower = ['b', 'g']
  · simp [hmark, Layer.selector]
  · simp [hmark, Layer.selector]

theorem layerCode_of_not_mem {tag : List Char} (h : ':' ∉ tag) :
  layerCode tag = 38
  := by
  rw [layerCode, if_neg]
  rintro ⟨hmem, -⟩
  apply h hmem

theorem colon_not_mem_mark {mark : List Char} (h : mark = ['f', 'g'] ∨ mark = ['b', 'g']) :
  ':' ∉ mark
  := by
  rcases h with rfl | rfl
  · decide
  · decide

/-! ### Channels -/

theorem not_hexDigit_colon {v : Nat} :
  ¬ HexDigit ':' v
  := by
  intro h
  have hread : Text.hexadecimal? ':' = none := rfl
  rw [Text.hexadecimal?_eq_some_iff.mpr h] at hread
  contradiction

theorem colon_not_mem_decimalDigit {c : Char} {v : Nat} (h : DecimalDigit c v) :
  ':' ∉ [c]
  := by
  rw [List.mem_singleton]
  rintro rfl
  have hread : Text.decimal? ':' = none := rfl
  rw [Text.decimal?_eq_some_iff.mpr h] at hread
  contradiction

theorem colon_not_mem_hexByte {digits : List Char} {v : Nat} (h : HexByte digits v) :
  ':' ∉ digits
  := by
  intro hmem
  cases h with
  | one hx =>
      rw [List.mem_singleton] at hmem
      rw [← hmem] at hx
      apply not_hexDigit_colon hx
  | two hx hy =>
      rw [List.mem_cons, List.mem_singleton] at hmem
      rcases hmem with rfl | rfl
      · apply not_hexDigit_colon hx
      · apply not_hexDigit_colon hy

namespace Color

theorem level?_eq_some_iff {x : List Char} {level : UInt8} :
  level? x = some level ↔ ∃ c, x = [c] ∧ DecimalDigit c level.toNat
  := by
  unfold level?
  split
  · next c =>
    simp only [Option.map_eq_some_iff, Text.decimal?_eq_some_iff]
    constructor
    · rintro ⟨v, hv, rfl⟩
      use c, rfl
      rw [UInt8.toNat_ofNat_of_lt' (lt_of_lt_of_le hv.1 (by decide))]
      apply hv
    · rintro ⟨_, heq, hv⟩
      cases heq
      use level.toNat, hv
      apply UInt8.ofNat_toNat
  · next hx =>
    constructor
    · intro h
      contradiction
    · rintro ⟨c, rfl, -⟩
      apply (hx c rfl).elim

theorem channels_eq_ok_iff {read : List Char → Option UInt8} {bad : List Char → TagError}
    {make : UInt8 → UInt8 → UInt8 → Color} {x y z : List Char} {color : Color} :
  channels read bad make x y z = .ok color
    ↔ ∃ r g b, read x = some r ∧ read y = some g ∧ read z = some b ∧ color = make r g b
  := by
  unfold channels
  split <;> simp_all [eq_comm]

/-- A packed color is read from the digits of its three bytes. -/
theorem ofPacked?_eq_some_iff {digits : List Char} {color : Color} :
  ofPacked? digits = some color
    ↔ ∃ x₁ x₀ y₁ y₀ z₁ z₀ r g b, digits = [x₁, x₀, y₁, y₀, z₁, z₀]
      ∧ Text.hexByte? [x₁, x₀] = some r ∧ Text.hexByte? [y₁, y₀] = some g
      ∧ Text.hexByte? [z₁, z₀] = some b ∧ color = .rgb r g b
  := by
  constructor
  · intro h
    unfold ofPacked? at h
    split at h
    · next x₁ x₀ y₁ y₀ z₁ z₀ =>
      simp only [Option.bind_eq_bind, Option.bind_eq_some_iff, Option.some.injEq] at h
      obtain ⟨r, hr, g, hg, b, hb, rfl⟩ := h
      use x₁, x₀, y₁, y₀, z₁, z₀, r, g, b
    · contradiction
  · rintro ⟨x₁, x₀, y₁, y₀, z₁, z₀, r, g, b, rfl, hr, hg, hb, rfl⟩
    rw [ofPacked?, hr, hg, hb]
    rfl

/-- A decimal digit is read as the level that it spells. -/
theorem exists_level? {c : Char} {v : Nat} (h : DecimalDigit c v) :
  ∃ level, level? [c] = some level ∧ level.toNat = v
  := by
  use UInt8.ofNat v
  constructor
  · rw [level?, Text.decimal?_eq_some_iff.mpr h]
    rfl
  · apply UInt8.toNat_ofNat_of_lt' (lt_of_lt_of_le h.1 (by decide))

/-! ### From reading to the forms -/

theorem spellsColor_of_ofChannels {tag : String} {p q : Char} {x y z : List Char} {color : Color}
    (hp : p ≠ ':') (hq : q ≠ ':') (h : ofChannels tag x y z = .ok color) :
  SpellsColor (p :: q :: ':' :: (x ++ ':' :: (y ++ ':' :: z))) color.parameters
  := by
  rw [ofChannels] at h
  split at h
  · obtain ⟨r, g, b, hr, hg, hb, rfl⟩ := channels_eq_ok_iff.mp h
    obtain ⟨x, rfl, hx⟩ := level?_eq_some_iff.mp hr
    obtain ⟨y, rfl, hy⟩ := level?_eq_some_iff.mp hg
    obtain ⟨z, rfl, hz⟩ := level?_eq_some_iff.mp hb
    apply SpellsColor.cube hp hq hx hy hz
  · next hlong =>
    obtain ⟨r, g, b, hr, hg, hb, rfl⟩ := channels_eq_ok_iff.mp h
    rw [Text.hexByte?_eq_some_iff] at hr hg hb
    apply SpellsColor.bytes hp hq hr hg hb hlong

theorem spellsColor_of_ofPacked? {mark digits : List Char} {color : Color}
    (hmark : mark = ['f', 'g'] ∨ mark = ['b', 'g']) (h : ofPacked? digits = some color) :
  SpellsColor (mark ++ ':' :: digits) color.parameters
  := by
  obtain ⟨x₁, x₀, y₁, y₀, z₁, z₀, r, g, b, rfl, hr, hg, hb, rfl⟩ := ofPacked?_eq_some_iff.mp h
  rw [Text.hexByte?_eq_some_iff] at hr hg hb
  apply SpellsColor.packed hmark hr hg hb

theorem spellsColor_of_named {name : List Char} {color : Color}
    (h : named (String.ofList name) = .ok color) :
  SpellsColor name color.parameters
  := by
  obtain ⟨c, hname, hsolid, rfl⟩ := named_eq_ok_iff.mp h
  have hspells := SpellsColor.named hname hsolid
  rw [String.toList_ofList] at hspells
  apply hspells

theorem spellsColor_of_mark_named {mark name : List Char} {color : Color}
    (hmark : mark = ['f', 'g'] ∨ mark = ['b', 'g'])
    (h : named (String.ofList name) = .ok color) :
  SpellsColor (mark ++ ':' :: name) color.parameters
  := by
  obtain ⟨c, hname, hsolid, rfl⟩ := named_eq_ok_iff.mp h
  have hspells := SpellsColor.marked hmark hname hsolid
  rw [String.toList_ofList] at hspells
  apply hspells

/-- What is the name of a color is nothing else. -/
theorem plain_of_named {name : List Char} {color : Color}
    (h : named (String.ofList name) = .ok color) :
  ':' ∉ name ∧ Layer.ofMark name = .foreground ∧ ofPacked? name = none
  := by
  obtain ⟨c, hname, -, -⟩ := named_eq_ok_iff.mp h
  have hplain := Swatch.name_plain _ hname
  rw [String.toList_ofList] at hplain
  apply hplain

end Color

namespace Paint

/-- The rendition parameters that select a paint. -/
def parameters (paint : Paint) : List Nat :=
  paint.layer.selector :: paint.color.parameters

theorem map_eq_ok_iff {result : Except TagError Color} {layer : Layer} {paint : Paint} :
  result.map (⟨layer, ·⟩ : Color → Paint) = .ok paint
    ↔ ∃ color, result = .ok color ∧ paint = ⟨layer, color⟩
  := by
  cases result with
  | error e => simp [Except.map]
  | ok color => simp [Except.map, eq_comm]

/-- Fields that spell a paint are those of a tag of one of the forms. -/
theorem spells_of_ofFields {tag : String} {fields : List (List Char)} {paint : Paint}
    (hfree : ∀ field ∈ fields, ':' ∉ field) (h : ofFields tag fields = .ok paint) :
  Spells ([':'].intercalate fields) paint.parameters
  := by
  unfold ofFields at h
  split at h
  · next name =>
    obtain ⟨color, hcolor, rfl⟩ := map_eq_ok_iff.mp h
    obtain ⟨hname, hlayer, -⟩ := Color.plain_of_named hcolor
    rw [List.intercalate_singleton]
    use color.parameters, Color.spellsColor_of_named hcolor
    rw [layerCode_of_not_mem hname, parameters, hlayer]
    rfl
  · next mark name =>
    have hmark : ':' ∉ mark := hfree mark (by simp)
    rw [List.intercalate_cons_cons, List.intercalate_singleton, List.append_assoc,
      List.singleton_append]
    split at h
    · next hlayer =>
      split at h
      · next color hpacked =>
        cases h
        use color.parameters, Color.spellsColor_of_ofPacked? hlayer hpacked
        rw [layerCode_of_mark hmark]
        rfl
      · obtain ⟨color, hcolor, rfl⟩ := map_eq_ok_iff.mp h
        use color.parameters, Color.spellsColor_of_mark_named hlayer hcolor
        rw [layerCode_of_mark hmark]
        rfl
    · contradiction
  · next mark x y z =>
    split at h
    · next htwo =>
      obtain ⟨p, q, rfl⟩ := List.length_eq_two.mp htwo
      obtain ⟨color, hcolor, rfl⟩ := map_eq_ok_iff.mp h
      have hmark : ':' ∉ [p, q] := hfree [p, q] (by simp)
      have hp : p ≠ ':' := by
        rintro rfl
        apply hmark List.mem_cons_self
      have hq : q ≠ ':' := by
        rintro rfl
        apply hmark (by simp)
      have hspells := Color.spellsColor_of_ofChannels hp hq hcolor
      simp only [List.intercalate_cons_cons, List.intercalate_singleton, List.append_assoc,
        List.singleton_append]
      use color.parameters, hspells
      rw [layerCode_of_mark hmark]
      rfl
    · contradiction
  · contradiction

/-- A tag that is read as a paint has one of the forms, with the parameters of the paint. -/
theorem spells_of_ofTag {tag : String} {paint : Paint} (h : ofTag tag = .ok paint) :
  Spells tag.toList paint.parameters
  := by
  have hspells := spells_of_ofFields (fun _ => Text.not_mem_of_mem_splitOn) h
  rw [List.intercalate_splitOn] at hspells
  apply hspells

/-! ### From the forms to reading -/

/-- A tag is read by its fields. -/
theorem ofTag_eq_ofFields {tag : String} {fields : List (List Char)} (hne : fields ≠ [])
    (hfree : ∀ field ∈ fields, ':' ∉ field) (h : [':'].intercalate fields = tag.toList) :
  ofTag tag = ofFields tag fields
  := by
  rw [ofTag, ← h, List.splitOn_intercalate ':' hfree hne]

/-- Channels behind a mark of two characters spell their color. -/
theorem exists_ofTag_of_channels {tag : String} {p q : Char} {x y z : List Char} {color : Color}
    (hp : p ≠ ':') (hq : q ≠ ':') (hx : ':' ∉ x) (hy : ':' ∉ y) (hz : ':' ∉ z)
    (htext : tag.toList = p :: q :: ':' :: (x ++ ':' :: (y ++ ':' :: z)))
    (h : Color.ofChannels tag x y z = .ok color) :
  ∃ paint, ofTag tag = .ok paint ∧ paint.parameters = layerCode tag.toList :: color.parameters
  := by
  have hmark : ':' ∉ [p, q] := by simp [hp.symm, hq.symm]
  have hfree : ∀ field ∈ [[p, q], x, y, z], ':' ∉ field := by
    simp only [List.forall_mem_cons, List.not_mem_nil, false_imp_iff, implies_true, and_true]
    exact ⟨hmark, hx, hy, hz⟩
  have hlayer : layerCode tag.toList = (Layer.ofMark [p, q]).selector := by
    rw [htext]
    apply layerCode_of_mark hmark
  use ⟨.ofMark [p, q], color⟩
  constructor
  · rw [ofTag_eq_ofFields (List.cons_ne_nil _ _) hfree, ofFields, if_pos (by rfl), h]
    · rfl
    · simp [htext, List.intercalate_cons_cons]
  · rw [hlayer]
    rfl

/-- Behind a mark of a layer, a packed color or the name of a color spells it. -/
theorem exists_ofTag_of_mark {tag : String} {mark name : List Char} {color : Color}
    (hmark : mark = ['f', 'g'] ∨ mark = ['b', 'g']) (hname : ':' ∉ name)
    (htext : tag.toList = mark ++ ':' :: name)
    (h : Color.ofPacked? name = some color
      ∨ Color.ofPacked? name = none ∧ Color.named (String.ofList name) = .ok color) :
  ∃ paint, ofTag tag = .ok paint ∧ paint.parameters = layerCode tag.toList :: color.parameters
  := by
  have hcolon := colon_not_mem_mark hmark
  have hfree : ∀ field ∈ [mark, name], ':' ∉ field := by
    simp only [List.forall_mem_cons, List.not_mem_nil, false_imp_iff, implies_true, and_true]
    exact ⟨hcolon, hname⟩
  have hfields : ofTag tag = ofFields tag [mark, name] := by
    apply ofTag_eq_ofFields (List.cons_ne_nil _ _) hfree
    simp [htext, List.intercalate_cons_cons]
  use ⟨.ofMark mark, color⟩
  constructor
  · rw [hfields, ofFields, if_pos hmark]
    rcases h with hpacked | ⟨hnone, hnamed⟩
    · rw [hpacked]
    · rw [hnone, hnamed]
      rfl
  · rw [htext, layerCode_of_mark hcolon]
    rfl

/-- The name of a color by itself spells it on the foreground. -/
theorem exists_ofTag_of_named {tag : String} {color : Color}
    (h : Color.named (String.ofList tag.toList) = .ok color) :
  ∃ paint, ofTag tag = .ok paint ∧ paint.parameters = layerCode tag.toList :: color.parameters
  := by
  obtain ⟨hfree, hlayer, -⟩ := Color.plain_of_named h
  have hfields : ofTag tag = ofFields tag [tag.toList] := by
    apply ofTag_eq_ofFields (List.cons_ne_nil _ _)
    · simpa using hfree
    · apply List.intercalate_singleton
  use ⟨.foreground, color⟩
  constructor
  · rw [hfields, ofFields, h, hlayer]
    rfl
  · rw [layerCode_of_not_mem hfree]
    rfl

/-- A tag of one of the forms is read as a paint with the parameters that it stands for. -/
theorem exists_ofTag_of_spells {tag : String} {parameters : List Nat}
    (h : Spells tag.toList parameters) :
  ∃ paint, ofTag tag = .ok paint ∧ paint.parameters = parameters
  := by
  obtain ⟨color, hspells, rfl⟩ := h
  generalize htext : tag.toList = text at hspells ⊢
  cases hspells with
  | @cube p q x y z a b c hp hq hx hy hz =>
      obtain ⟨r, hr, rfl⟩ := Color.exists_level? hx
      obtain ⟨g, hg, rfl⟩ := Color.exists_level? hy
      obtain ⟨b, hb, rfl⟩ := Color.exists_level? hz
      have hread : Color.ofChannels tag [x] [y] [z] = .ok (.cube r g b) := by
        rw [Color.ofChannels, if_pos (by simp), Color.channels_eq_ok_iff]
        use r, g, b
      rw [← htext]
      apply exists_ofTag_of_channels hp hq (colon_not_mem_decimalDigit hx)
        (colon_not_mem_decimalDigit hy) (colon_not_mem_decimalDigit hz) htext hread
  | @bytes p q x y z a b c hp hq hx hy hz hlong =>
      obtain ⟨r, hr, rfl⟩ := hx.exists_hexByte?
      obtain ⟨g, hg, rfl⟩ := hy.exists_hexByte?
      obtain ⟨b, hb, rfl⟩ := hz.exists_hexByte?
      have hread : Color.ofChannels tag x y z = .ok (.rgb r g b) := by
        rw [Color.ofChannels, if_neg hlong, Color.channels_eq_ok_iff]
        use r, g, b
      rw [← htext]
      apply exists_ofTag_of_channels hp hq (colon_not_mem_hexByte hx)
        (colon_not_mem_hexByte hy) (colon_not_mem_hexByte hz) htext hread
  | @packed mark x₁ x₀ y₁ y₀ z₁ z₀ r g b hmark hx hy hz =>
      obtain ⟨r, hr, rfl⟩ := hx.exists_hexByte?
      obtain ⟨g, hg, rfl⟩ := hy.exists_hexByte?
      obtain ⟨b, hb, rfl⟩ := hz.exists_hexByte?
      have hread : Color.ofPacked? [x₁, x₀, y₁, y₀, z₁, z₀] = some (.rgb r g b) := by
        rw [Color.ofPacked?_eq_some_iff]
        use x₁, x₀, y₁, y₀, z₁, z₀, r, g, b
      have hfree : ':' ∉ [x₁, x₀] ++ [y₁, y₀] ++ [z₁, z₀] := by
        rw [List.mem_append, List.mem_append, not_or, not_or]
        exact ⟨⟨colon_not_mem_hexByte hx, colon_not_mem_hexByte hy⟩, colon_not_mem_hexByte hz⟩
      rw [← htext]
      apply exists_ofTag_of_mark hmark hfree htext (Or.inl hread)
  | @named name c hname hsolid =>
      have hread : Color.named (String.ofList tag.toList) = .ok (.rgb c.red c.green c.blue) := by
        rw [htext, String.ofList_toList, Color.named_eq_ok_iff]
        use c
      rw [← htext]
      apply exists_ofTag_of_named hread
  | @marked mark name c hmark hname hsolid =>
      have hread : Color.named (String.ofList name.toList) = .ok (.rgb c.red c.green c.blue) := by
        rw [String.ofList_toList, Color.named_eq_ok_iff]
        use c
      obtain ⟨hfree, -, hpacked⟩ := Color.plain_of_named hread
      rw [← htext]
      apply exists_ofTag_of_mark hmark hfree htext (Or.inr ⟨hpacked, hread⟩)

/-! ### The escape sequence of a tag -/

/-- An escape sequence is written out as its parameters in decimal digits, with semicolons
between them. -/
theorem escape_eq (paint : Paint) :
  paint.escape = "\x1b[" ++ ";".intercalate (paint.parameters.map toString) ++ "m"
  := by
  have hdigits : String.toList ∘ toString = Escape.digits := by
    funext n
    apply String.toList_ofList
  apply String.toList_injective
  rw [escape, String.toList_ofList, String.toList_append, String.toList_append,
    String.toList_intercalate, List.map_map, hdigits]
  rfl

/-- Reading a tag gives exactly the escape sequences of the forms that the tag has, and no
tag has two forms with different parameters. -/
theorem escape_ofTag_iff_spells (tag : String) :
  (∀ sequence, (ofTag tag).map escape = .ok sequence
      ↔ ∃ parameters, Spells tag.toList parameters
        ∧ sequence = "\x1b[" ++ ";".intercalate (parameters.map toString) ++ "m")
    ∧ ∀ first second, Spells tag.toList first → Spells tag.toList second → first = second
  := by
  constructor
  · intro sequence
    constructor
    · intro h
      cases hread : ofTag tag with
      | error e =>
          rw [hread] at h
          contradiction
      | ok paint =>
          rw [hread] at h
          cases h
          use paint.parameters, spells_of_ofTag hread
          apply escape_eq
    · rintro ⟨parameters, hspells, rfl⟩
      obtain ⟨paint, hread, rfl⟩ := exists_ofTag_of_spells hspells
      rw [hread, ← escape_eq]
      rfl
  · intro first second hfirst hsecond
    obtain ⟨paint, hread, rfl⟩ := exists_ofTag_of_spells hfirst
    obtain ⟨paint', hread', rfl⟩ := exists_ofTag_of_spells hsecond
    rw [hread] at hread'
    cases hread'
    rfl

end Paint

end StyleTags
