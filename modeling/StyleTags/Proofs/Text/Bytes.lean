import StyleTags.Text.Bytes
import StyleTags.Text.Cut
import Mathlib.Data.List.Basic
import Mathlib.Tactic.Use

/-!
# Places of characters

`placeOf text n` is the place of a character in the bytes of a text, the number of bytes in front of
it.  These places are the boundaries of the text (`isBoundary_utf8_iff`), and they are in the order
of the characters (`placeOf_lt_iff`), so that slices between them exist (`slice?_placeOf`).

A pattern can only stand at the place of a character, since a byte with which a character begins is
no other byte of any character (`exists_of_utf8_prefix_drop`).  A pattern that is looked for byte by
byte is therefore found where the text is cut at it (`find?_placeOf`).
-/

namespace StyleTags.Text

/-- The place of a character: the number of bytes in front of it. -/
def placeOf (text : List Char) (n : Nat) : Nat :=
  (utf8 (text.take n)).length

variable {text pattern : List Char} {m n place : Nat}

/-! ### Bytes of characters -/

theorem utf8_cons (c : Char) (text : List Char) :
  utf8 (c :: text) = String.utf8EncodeChar c ++ utf8 text
  := List.flatMap_cons

theorem utf8_eq_nil_iff :
  utf8 text = [] ↔ text = []
  := by
  cases text with
  | nil => simp [utf8]
  | cons c text =>
      have := c.utf8Size_pos
      rw [← List.length_eq_zero_iff, utf8_cons, List.length_append, String.length_utf8EncodeChar]
      simp only [reduceCtorEq, iff_false]
      omega

/-- The bytes of a text begin with those of another only if the text begins with it. -/
theorem prefix_of_utf8_prefix (h : utf8 pattern <+: utf8 text) :
  pattern <+: text
  := by
  obtain ⟨rest, hrest⟩ := h
  apply List.isPrefix_of_utf8Encode_append_eq_utf8Encode rest.toByteArray
  rw [List.utf8Encode, List.utf8Encode, ← List.toByteArray_append]
  exact congrArg List.toByteArray hrest

theorem getElem?_utf8_zero (c : Char) (text : List Char) :
  ∃ byte, (utf8 (c :: text))[0]? = some byte ∧ byte.IsUTF8FirstByte
  := by
  have hpos : 0 < (String.utf8EncodeChar c).length := by
    rw [String.length_utf8EncodeChar]
    apply c.utf8Size_pos
  use (String.utf8EncodeChar c)[0]
  constructor
  · rw [utf8_cons, List.getElem?_append_left hpos, List.getElem?_eq_getElem hpos]
  · apply UInt8.isUTF8FirstByte_getElem_utf8EncodeChar.mpr rfl

/-! ### Places -/

theorem placeOf_zero (text : List Char) :
  placeOf text 0 = 0
  := by
  simp [placeOf, utf8]

theorem placeOf_length (text : List Char) :
  placeOf text text.length = (utf8 text).length
  := by
  rw [placeOf, List.take_length]

theorem placeOf_add (text : List Char) (m n : Nat) :
  placeOf text (m + n) = placeOf text m + placeOf (text.drop m) n
  := by
  rw [placeOf, List.take_add, utf8_append, List.length_append]
  rfl

/-- Behind a pattern, as many bytes are in front as it has. -/
theorem placeOf_add_length (h : pattern <+: text.drop m) :
  placeOf text (m + pattern.length) = placeOf text m + (utf8 pattern).length
  := by
  rw [placeOf_add, Nat.add_left_cancel_iff, placeOf, ← List.prefix_iff_eq_take.mp h]

theorem placeOf_lt_placeOf (hmn : m < n) (hn : n ≤ text.length) :
  placeOf text m < placeOf text n
  := by
  obtain ⟨d, rfl⟩ := Nat.exists_eq_add_of_le (Nat.le_of_lt hmn)
  rw [placeOf_add, Nat.lt_add_right_iff_pos, placeOf, List.length_pos_iff, ne_eq, utf8_eq_nil_iff,
    List.take_eq_nil_iff, List.drop_eq_nil_iff]
  omega

/-- The places of characters are in the order of the characters. -/
theorem placeOf_lt_iff (hm : m ≤ text.length) (hn : n ≤ text.length) :
  placeOf text m < placeOf text n ↔ m < n
  := by
  constructor
  · intro h
    rcases Nat.lt_trichotomy m n with hlt | rfl | hgt
    · apply hlt
    · exact absurd h (Nat.lt_irrefl _)
    · exact absurd h (Nat.lt_asymm (placeOf_lt_placeOf hgt hm))
  · intro h
    apply placeOf_lt_placeOf h hn

theorem placeOf_le_iff (hm : m ≤ text.length) (hn : n ≤ text.length) :
  placeOf text m ≤ placeOf text n ↔ m ≤ n
  := by
  rw [← Nat.not_lt, placeOf_lt_iff hn hm, Nat.not_lt]

theorem utf8_eq_append (text : List Char) (n : Nat) :
  utf8 text = utf8 (text.take n) ++ utf8 (text.drop n)
  := by
  rw [← utf8_append, List.take_append_drop]

theorem take_placeOf (text : List Char) (n : Nat) :
  (utf8 text).take (placeOf text n) = utf8 (text.take n)
  := by
  rw [utf8_eq_append text n, placeOf, List.take_left]

theorem drop_placeOf (text : List Char) (n : Nat) :
  (utf8 text).drop (placeOf text n) = utf8 (text.drop n)
  := by
  rw [utf8_eq_append text n, placeOf, List.drop_left]

/-! ### Boundaries and slices -/

theorem isBoundary_append (front bytes : List UInt8) (place : Nat) :
  isBoundary (front ++ bytes) (front.length + place) = isBoundary bytes place
  := by
  rw [isBoundary, isBoundary, List.getElem?_append_right (Nat.le_add_right _ _),
    Nat.add_sub_cancel_left, List.length_append]
  simp only [Nat.add_left_cancel_iff]

theorem isBoundary_placeOf (text : List Char) (n : Nat) :
  isBoundary (utf8 text) (placeOf text n)
  := by
  rw [utf8_eq_append text n, placeOf, ← Nat.add_zero (utf8 _).length, isBoundary_append]
  cases text.drop n with
  | nil => rfl
  | cons c rest =>
      obtain ⟨byte, hbyte, hfirst⟩ := getElem?_utf8_zero c rest
      rw [isBoundary, hbyte]
      simpa using hfirst

/-- The boundaries of a text are the places of its characters, and its end. -/
theorem isBoundary_utf8_iff :
  isBoundary (utf8 text) place ↔ ∃ n ≤ text.length, place = placeOf text n
  := by
  constructor
  · intro h
    induction text generalizing place with
    | nil =>
        use 0, Nat.le_refl 0
        simpa [isBoundary, utf8, placeOf] using h
    | cons c text ih =>
        rcases Nat.lt_or_ge place (String.utf8EncodeChar c).length with hlt | hge
        · -- of the bytes of a character, the first is the only one with which one begins
          rw [utf8_cons, isBoundary, List.getElem?_append_left hlt,
            List.getElem?_eq_getElem hlt] at h
          simp only [UInt8.isUTF8FirstByte_getElem_utf8EncodeChar, decide_eq_true_eq] at h
          use 0, Nat.zero_le _
          rw [h, placeOf_zero]
        · obtain ⟨rest, rfl⟩ := Nat.exists_eq_add_of_le hge
          rw [utf8_cons, isBoundary_append] at h
          obtain ⟨n, hn, rfl⟩ := ih h
          use n + 1, Nat.succ_le_succ hn
          rw [placeOf, placeOf, List.take_succ_cons, utf8_cons, List.length_append]
  · rintro ⟨n, -, rfl⟩
    apply isBoundary_placeOf

theorem le_length_of_isBoundary {bytes : List UInt8} (h : isBoundary bytes place) :
  place ≤ bytes.length
  := by
  unfold isBoundary at h
  split at h
  · next byte hbyte => exact Nat.le_of_lt (List.getElem?_eq_some_iff.mp hbyte).1
  · exact Nat.le_of_eq (of_decide_eq_true h)

/-- There is a slice between boundaries in order, and only there. -/
theorem isSome_slice?_iff {bytes : List UInt8} {start stop : Nat} :
  (slice? bytes start stop).isSome
    ↔ start ≤ stop ∧ isBoundary bytes start ∧ isBoundary bytes stop
  := by
  unfold slice?
  split <;> simp_all

/-- Between characters in order there is a slice. -/
theorem slice?_placeOf (hmn : m ≤ n) (hn : n ≤ text.length) :
  slice? (utf8 text) (placeOf text m) (placeOf text n) = some (utf8 ((text.take n).drop m))
  := by
  have hle := (placeOf_le_iff (Nat.le_trans hmn hn) hn).mpr hmn
  have hplace : placeOf text m = placeOf (text.take n) m := by
    rw [placeOf, placeOf, List.take_take, Nat.min_eq_left hmn]
  rw [slice?, if_pos ⟨hle, isBoundary_placeOf text m, isBoundary_placeOf text n⟩, take_placeOf,
    hplace, drop_placeOf]

/-- What stands in a text from some character on is a slice of its bytes. -/
theorem slice?_part {part rest : List Char} (hm : m ≤ text.length)
    (h : text.drop m = part ++ rest) :
  slice? (utf8 text) (placeOf text m) (placeOf text (m + part.length)) = some (utf8 part)
  := by
  have hlength := congrArg List.length h
  rw [List.length_drop, List.length_append] at hlength
  rw [slice?_placeOf (Nat.le_add_right _ _) (by omega), List.drop_take, Nat.add_sub_cancel_left, h,
    List.take_left]

/-! ### Patterns -/

/-- Where the bytes of a pattern stand in those of a text, a character begins, and the pattern
stands in the text from this character on. -/
theorem exists_of_utf8_prefix_drop (hne : pattern ≠ [])
    (h : utf8 pattern <+: (utf8 text).drop place) :
  ∃ n ≤ text.length, place = placeOf text n ∧ pattern <+: text.drop n
  := by
  obtain ⟨c, cs, rfl⟩ := List.exists_cons_of_ne_nil hne
  have hboundary : isBoundary (utf8 text) place := by
    obtain ⟨byte, hbyte, hfirst⟩ := getElem?_utf8_zero c cs
    obtain ⟨rest, hrest⟩ := h
    have hplace : (utf8 text)[place]? = some byte := by
      rw [← Nat.add_zero place, ← List.getElem?_drop, ← hrest,
        List.getElem?_append_left (List.getElem?_eq_some_iff.mp hbyte).1, hbyte]
    rw [isBoundary, hplace]
    simpa using hfirst
  obtain ⟨n, hn, rfl⟩ := isBoundary_utf8_iff.mp hboundary
  use n, hn, rfl
  apply prefix_of_utf8_prefix
  rwa [drop_placeOf] at h

/-- Byte by byte, a pattern is found where the text is cut at it. -/
theorem firstPlace?_utf8 (hne : pattern ≠ []) :
  firstPlace? (utf8 pattern) (utf8 text)
    = (cut? pattern text).map fun (before, _) => placeOf text before.length
  := by
  cases hcut : cut? pattern text with
  | none =>
      rw [firstPlace?, Option.map_none, List.find?_range_eq_none]
      intro place _
      rw [Bool.not_eq_true', Bool.eq_false_iff, ne_eq, List.isPrefixOf_iff_prefix]
      intro h
      obtain ⟨n, -, -, hstands⟩ := exists_of_utf8_prefix_drop hne h
      apply cut?_eq_none_iff.mp hcut
      exact hstands.isInfix.trans (List.drop_suffix n text).isInfix
  | some parts =>
      obtain ⟨before, after⟩ := parts
      have hlength := length_of_cut? hcut
      rw [firstPlace?, Option.map_some, List.find?_range_eq_some]
      refine ⟨?_, ?_, ?_⟩
      · rw [List.isPrefixOf_iff_prefix, drop_placeOf]
        obtain ⟨rest, hrest⟩ := prefix_drop_of_cut? hcut
        rw [← hrest, utf8_append]
        apply List.prefix_append
      · rw [List.mem_range, Nat.lt_succ_iff, ← placeOf_length, placeOf_le_iff _ (Nat.le_refl _)]
        · omega
        · omega
      · intro place hplace
        rw [Bool.not_eq_true', Bool.eq_false_iff, ne_eq, List.isPrefixOf_iff_prefix]
        intro h
        obtain ⟨n, hn, rfl, hstands⟩ := exists_of_utf8_prefix_drop hne h
        rw [placeOf_lt_iff hn (by omega)] at hplace
        apply not_prefix_of_cut? hcut hplace hstands

/-- From the place of a character on, a pattern is found where the text from this character on is
cut at it. -/
theorem find?_placeOf (hne : pattern ≠ []) (hm : m ≤ text.length) :
  find? (utf8 text) (utf8 pattern) (placeOf text m)
    = (cut? pattern (text.drop m)).map fun (before, _) => placeOf text (m + before.length)
  := by
  rw [find?, ← placeOf_length, slice?_placeOf hm (Nat.le_refl _), List.take_length, Option.bind_some,
    firstPlace?_utf8 hne, Option.map_map]
  congr 1
  funext parts
  exact (placeOf_add text m parts.1.length).symm

/-- A pattern that is found from the place of a character on stands at the place of one. -/
theorem exists_of_find?_placeOf (hne : pattern ≠ []) (hm : m ≤ text.length)
    (h : find? (utf8 text) (utf8 pattern) (placeOf text m) = some place) :
  ∃ n, n + pattern.length ≤ text.length ∧ place = placeOf text n
    ∧ place + (utf8 pattern).length = placeOf text (n + pattern.length)
  := by
  rw [find?_placeOf hne hm, Option.map_eq_some_iff] at h
  obtain ⟨⟨before, after⟩, hcut, rfl⟩ := h
  have hlength := length_of_cut? hcut
  rw [List.length_drop] at hlength
  have hpos := List.length_pos_iff.mpr hne
  have hstands := prefix_drop_of_cut? hcut
  rw [List.drop_drop] at hstands
  use m + before.length
  refine ⟨by omega, rfl, ?_⟩
  rw [placeOf_add_length hstands]

end StyleTags.Text
