import StyleTags.Paint.Bytes
import StyleTags.Proofs.Paint.Refusals
import StyleTags.Proofs.Text.Bytes

/-!
# Hexadecimal digits in bytes

A text whose bytes are hexadecimal digits has one byte to each character, and its characters are
these digits (`all_isHexadecimal_utf8_iff`).  So a channel is judged by its bytes as it is by its
characters, and what is found good can be converted (`byteOf?_utf8`); and a packed color has the
slices that are cut from it, each of which can be converted (`ofPackedBytes?_utf8`).
-/

namespace StyleTags

namespace Text

variable {text digits channel : List Char} {v : Nat}

/-! ### ASCII -/

/-- The bytes of a text in ASCII are the numbers of its characters. -/
theorem utf8_of_ascii (h : ∀ c ∈ text, c.toNat < 128) :
  utf8 text = text.map fun c => UInt8.ofNat c.toNat
  := by
  induction text with
  | nil => rfl
  | cons c text ih =>
      rw [List.forall_mem_cons] at h
      have hc : c.val.toNat ≤ 127 := Nat.le_of_lt_succ h.1
      rw [utf8_cons, ih h.2, String.utf8EncodeChar, if_pos hc]
      rfl

theorem length_utf8_of_ascii (h : ∀ c ∈ text, c.toNat < 128) :
  (utf8 text).length = text.length
  := by
  rw [utf8_of_ascii h, List.length_map]

/-- In a text in ASCII, slices are between the numbers of characters. -/
theorem slice?_of_ascii (h : ∀ c ∈ text, c.toNat < 128) {m : Nat} (hm : m ≤ text.length)
    {part rest : List Char} (hdrop : text.drop m = part ++ rest) :
  slice? (utf8 text) m (m + part.length) = some (utf8 part)
  := by
  have hlength := congrArg List.length hdrop
  rw [List.length_drop, List.length_append] at hlength
  have hplace : ∀ n ≤ text.length, placeOf text n = n := by
    intro n hn
    have htake : ∀ c ∈ text.take n, c.toNat < 128 := fun c hc => h c (List.mem_of_mem_take hc)
    rw [placeOf, length_utf8_of_ascii htake, List.length_take, Nat.min_eq_left hn]
  have hslice := slice?_part hm hdrop
  rw [hplace m hm, hplace (m + part.length) (by omega)] at hslice
  apply hslice

/-! ### Digits -/

theorem HexDigit.toNat_lt {c : Char} (h : HexDigit c v) :
  c.toNat < 128
  := by
  obtain ⟨hv, rfl | rfl⟩ := h
  · interval_cases v <;> decide
  · interval_cases v <;> decide

theorem HexDigit.ne_plus {c : Char} (h : HexDigit c v) :
  UInt8.ofNat c.toNat ≠ 0x2B
  := by
  obtain ⟨hv, rfl | rfl⟩ := h
  · interval_cases v <;> decide
  · interval_cases v <;> decide

/-- A hexadecimal digit is appended to a value. -/
theorem HexDigit.appendDigit?_eq {c : Char} (h : HexDigit c v) {n : Nat} (hn : 16 * n + v < 256) :
  appendDigit? (UInt8.ofNat n) (UInt8.ofNat c.toNat) = some (UInt8.ofNat (16 * n + v))
  := by
  have hc := h.toNat_lt
  have hbyte : (UInt8.ofNat c.toNat).toNat = c.toNat :=
    UInt8.toNat_ofNat_of_lt' (Nat.lt_of_lt_of_le hc (by decide))
  have hvalue : (UInt8.ofNat n).toNat = n :=
    UInt8.toNat_ofNat_of_lt' (Nat.lt_of_le_of_lt (by omega) hn)
  rw [appendDigit?, hbyte, Char.ofNat_toNat, hexadecimal?_eq_some_iff.mpr h, hvalue]
  apply if_pos hn

theorem HexDigit.appendDigit?_zero {c : Char} (h : HexDigit c v) :
  appendDigit? 0 (UInt8.ofNat c.toNat) = some (UInt8.ofNat v)
  := by
  have hn : 16 * 0 + v < 256 := by
    have := h.1
    omega
  have happend := h.appendDigit?_eq hn
  rw [Nat.mul_zero, Nat.zero_add] at happend
  apply happend

/-- Of ASCII, the bytes that are hexadecimal digits are those of hexadecimal digits. -/
theorem isHexadecimal_ofNat {n : Nat} (h : n < 128) :
  isHexadecimal (UInt8.ofNat n) = (hexadecimal? (Char.ofNat n)).isSome
  := by
  revert n
  decide

/-- A character all of whose bytes are hexadecimal digits is in ASCII. -/
theorem toNat_lt_of_all_isHexadecimal {c : Char}
    (h : (String.utf8EncodeChar c).all isHexadecimal) :
  c.toNat < 128
  := by
  by_contra hc
  have hlast : UInt8.ofNat (c.toNat % 64 + 128) ∈ String.utf8EncodeChar c := by
    have hc : ¬ c.val.toNat ≤ 127 := fun hle => hc (Nat.lt_succ_of_le hle)
    rw [String.utf8EncodeChar, if_neg hc]
    split_ifs
    · apply List.mem_of_getLast? rfl
    · apply List.mem_of_getLast? rfl
    · apply List.mem_of_getLast? rfl
  have hbeyond : ∀ n < 64, isHexadecimal (UInt8.ofNat (n + 128)) = false := by decide
  have hdigit := List.all_eq_true.mp h _ hlast
  rw [hbeyond _ (Nat.mod_lt _ (by decide))] at hdigit
  contradiction

/-- The bytes of a text are hexadecimal digits if its characters are. -/
theorem all_isHexadecimal_utf8_iff :
  (utf8 text).all isHexadecimal ↔ ∀ c ∈ text, ∃ v, HexDigit c v
  := by
  have hchar : ∀ c, (String.utf8EncodeChar c).all isHexadecimal ↔ ∃ v, HexDigit c v := by
    intro c
    have hone : c.toNat < 128 →
        ((String.utf8EncodeChar c).all isHexadecimal ↔ ∃ v, HexDigit c v) := by
      intro hc
      have hc' : c.val.toNat ≤ 127 := Nat.le_of_lt_succ hc
      have hbyte := isHexadecimal_ofNat hc
      rw [Char.ofNat_toNat] at hbyte
      simp only [String.utf8EncodeChar, if_pos hc', List.all_cons, List.all_nil, Bool.and_true,
        ← hexadecimal?_eq_some_iff, ← Option.isSome_iff_exists, ← hbyte]
      rfl
    constructor
    · intro h
      apply (hone (toNat_lt_of_all_isHexadecimal h)).mp h
    · rintro ⟨v, hv⟩
      apply (hone hv.toNat_lt).mpr ⟨v, hv⟩
  induction text with
  | nil => simp [utf8]
  | cons c text ih =>
      rw [utf8_cons, List.all_append, Bool.and_eq_true, List.forall_mem_cons]
      apply and_congr (hchar c) ih

theorem ascii_of_hexDigits (h : ∀ c ∈ text, ∃ v, HexDigit c v) :
  ∀ c ∈ text, c.toNat < 128
  := by
  intro c hc
  obtain ⟨v, hv⟩ := h c hc
  apply hv.toNat_lt

/-! ### Bytes -/

/-- One or two digits are converted to the byte that they spell. -/
theorem radix16?_utf8 (h : HexByte digits v) :
  radix16? (utf8 digits) = some (UInt8.ofNat v)
  := by
  cases h with
  | @one x v hx =>
      have hascii : ∀ c ∈ [x], c.toNat < 128 := by simpa using hx.toNat_lt
      rw [utf8_of_ascii hascii, List.map_cons, List.map_nil, radix16?, if_neg (by simp), unsigned,
        if_neg (by simp), List.foldlM_cons, hx.appendDigit?_zero]
      rfl
  | @two x y v w hx hy =>
      have hascii : ∀ c ∈ [x, y], c.toNat < 128 := by simp [hx.toNat_lt, hy.toNat_lt]
      have hn : 16 * v + w < 256 := by
        have := hx.1
        have := hy.1
        omega
      rw [utf8_of_ascii hascii, List.map_cons, List.map_cons, List.map_nil, radix16?,
        if_neg (by simp), unsigned, if_neg (by simp [hx.ne_plus]), List.foldlM_cons,
        hx.appendDigit?_zero, Option.bind_eq_bind, Option.bind_some, List.foldlM_cons,
        hy.appendDigit?_eq hn]
      rfl

/-- What spells a byte is one or two hexadecimal digits. -/
theorem isByte_iff_forall :
  IsByte channel ↔ channel ≠ [] ∧ channel.length ≤ 2 ∧ ∀ c ∈ channel, ∃ v, HexDigit c v
  := by
  constructor
  · rintro ⟨v, hv⟩
    cases hv with
    | one hx =>
        refine ⟨by simp, by simp, ?_⟩
        rw [List.forall_mem_singleton]
        exact ⟨_, hx⟩
    | two hx hy =>
        refine ⟨by simp, by simp, ?_⟩
        rw [List.forall_mem_cons, List.forall_mem_singleton]
        exact ⟨⟨_, hx⟩, ⟨_, hy⟩⟩
  · rintro ⟨hne, hlength, hdigits⟩
    match channel with
    | [] => contradiction
    | [x] =>
        obtain ⟨v, hx⟩ := hdigits x (by simp)
        exact ⟨_, .one hx⟩
    | [x, y] =>
        obtain ⟨v, hx⟩ := hdigits x (by simp)
        obtain ⟨w, hy⟩ := hdigits y (by simp)
        exact ⟨_, .two hx hy⟩
    | _ :: _ :: _ :: _ => simp at hlength

/-- A channel is judged by its bytes as by its characters. -/
theorem writesByte_utf8_iff :
  writesByte (utf8 channel) ↔ IsByte channel
  := by
  simp only [isByte_iff_forall, writesByte, Bool.and_eq_true, decide_eq_true_eq, Bool.not_eq_true',
    List.isEmpty_eq_false_iff, ne_eq, utf8_eq_nil_iff, all_isHexadecimal_utf8_iff, and_assoc]
  apply and_congr_right
  intro _
  apply and_congr_left
  intro hdigits
  rw [length_utf8_of_ascii (ascii_of_hexDigits hdigits)]

/-- A channel is read by its bytes as by its characters. -/
theorem byteOf?_utf8 (channel : List Char) :
  byteOf? (utf8 channel) = hexByte? channel
  := by
  unfold byteOf?
  split
  · next h =>
    obtain ⟨v, hv⟩ := writesByte_utf8_iff.mp h
    obtain ⟨byte, hbyte, hvalue⟩ := hv.exists_hexByte?
    rw [radix16?_utf8 hv, hbyte, (eq_ofNat_iff_toNat_eq hv.lt).mpr hvalue]
  · next h =>
    rw [writesByte_utf8_iff, ← Color.isByte_iff, Option.not_isSome_iff_eq_none] at h
    rw [h]

end Text

namespace Color

open Text (SixHexDigits)

variable {digits : List Char}

/-! ### Packed colors -/

theorem writesPacked_utf8_iff :
  writesPacked (Text.utf8 digits) ↔ SixHexDigits digits
  := by
  simp only [writesPacked, Bool.and_eq_true, decide_eq_true_eq, Text.all_isHexadecimal_utf8_iff,
    SixHexDigits]
  apply and_congr_left
  intro hdigits
  rw [Text.length_utf8_of_ascii (Text.ascii_of_hexDigits hdigits)]

/-- Two hexadecimal digits among others are a slice, which is converted to the byte that they
spell. -/
theorem exists_slice?_pair (h : ∀ c ∈ digits, ∃ v, Text.HexDigit c v) (start : Nat) {x y : Char}
    {rest : List Char} (hdrop : digits.drop start = [x, y] ++ rest) :
  ∃ pair byte, Text.slice? (Text.utf8 digits) start (start + 2) = some pair
    ∧ Text.radix16? pair = some byte ∧ Text.hexByte? [x, y] = some byte
  := by
  have hlength := congrArg List.length hdrop
  simp only [List.length_drop, List.length_append, List.length_cons] at hlength
  have hpair : ∀ c ∈ [x, y], ∃ v, Text.HexDigit c v := by
    intro c hc
    apply h c (List.mem_of_mem_drop (i := start) _)
    rw [hdrop]
    apply List.mem_append_left rest hc
  rw [List.forall_mem_cons, List.forall_mem_singleton] at hpair
  obtain ⟨⟨v, hx⟩, ⟨w, hy⟩⟩ := hpair
  have hbyte := Text.HexByte.two hx hy
  obtain ⟨byte, hread, hvalue⟩ := hbyte.exists_hexByte?
  use Text.utf8 [x, y], byte
  refine ⟨?_, ?_, hread⟩
  · apply Text.slice?_of_ascii (Text.ascii_of_hexDigits h) _ hdrop
    omega
  · rw [Text.radix16?_utf8 hbyte, (Text.eq_ofNat_iff_toNat_eq hbyte.lt).mpr hvalue]

/-- A packed color is read by its bytes as by its characters; the slices that are cut from it
exist. -/
theorem ofPackedBytes?_utf8 (digits : List Char) :
  ofPackedBytes? (Text.utf8 digits) = some (ofPacked? digits)
  := by
  unfold ofPackedBytes?
  split
  · next h =>
    obtain ⟨hlength, hdigits⟩ := writesPacked_utf8_iff.mp h
    match digits with
    | [x₁, x₀, y₁, y₀, z₁, z₀] =>
        obtain ⟨red, r, hred, hr, hr'⟩ := exists_slice?_pair hdigits 0 rfl
        obtain ⟨green, g, hgreen, hg, hg'⟩ := exists_slice?_pair hdigits 2 rfl
        obtain ⟨blue, b, hblue, hb, hb'⟩ := exists_slice?_pair hdigits 4 rfl
        simp only [ofPacked?, hred, hgreen, hblue, hr, hg, hb, hr', hg', hb', Option.bind_eq_bind,
          Option.bind_some]
  · next h =>
    rw [writesPacked_utf8_iff, ← ofPacked?_eq_none_iff] at h
    rw [h]

/-- Any two digits of a packed color are a slice, which can be converted. -/
theorem exists_slice?_of_writesPacked (h : writesPacked (Text.utf8 digits)) {start : Nat}
    (hstart : start + 2 ≤ 6) :
  ∃ pair byte, Text.slice? (Text.utf8 digits) start (start + 2) = some pair
    ∧ Text.radix16? pair = some byte
  := by
  obtain ⟨hlength, hdigits⟩ := writesPacked_utf8_iff.mp h
  have hpair : ((digits.drop start).take 2).length = 2 := by
    rw [List.length_take, List.length_drop, hlength]
    omega
  obtain ⟨x, y, hxy⟩ := List.length_eq_two.mp hpair
  have hdrop : digits.drop start = [x, y] ++ (digits.drop start).drop 2 := by
    rw [← hxy, List.take_append_drop]
  obtain ⟨pair, byte, hslice, hbyte, -⟩ := exists_slice?_pair hdigits start hdrop
  exact ⟨pair, byte, hslice, hbyte⟩

end Color

end StyleTags
