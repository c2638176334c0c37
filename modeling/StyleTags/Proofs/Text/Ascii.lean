import StyleTags.Text.Digits
import Mathlib.Tactic.IntervalCases
import Mathlib.Tactic.SplitIfs

/-!
# Letters and digits of ASCII

A character that is a given letter but for its case is one of two (`toLower_eq_iff`).

`DecimalDigit` and `HexDigit` relate a digit to its value, by the digit in which the value is
printed; `HexByte` relates one or two hexadecimal digits to the byte that they spell.  Reading
gives a value exactly to these digits (`decimal?_eq_some_iff`, `hexadecimal?_eq_some_iff`,
`hexByte?_eq_some_iff`).
-/

namespace StyleTags.Text

theorem toNat_le_iff {a b : Char} :
  a ≤ b ↔ a.toNat ≤ b.toNat
  := Iff.rfl

theorem eq_ofNat_of_toNat_eq {c : Char} {n : Nat} (h : c.toNat = n) :
  c = Char.ofNat n
  := by
  rw [← h, Char.ofNat_toNat]

/-! ### Letters -/

theorem toLower_of_not_capital {c : Char} (h : ¬ ('A' ≤ c ∧ c ≤ 'Z')) :
  c.toLower = c
  := dif_neg h

/-- A character is a small letter but for its case if it is this letter or its capital. -/
theorem toLower_eq_iff {c l : Char} (h : 'a' ≤ l ∧ l ≤ 'z') :
  c.toLower = l ↔ c = l ∨ c = l.toUpper
  := by
  obtain ⟨hlo, hhi⟩ : 97 ≤ l.toNat ∧ l.toNat ≤ 122 := h
  constructor
  · rintro rfl
    by_cases hc : 'A' ≤ c ∧ c ≤ 'Z'
    · right
      obtain ⟨hlo, hhi⟩ : 65 ≤ c.toNat ∧ c.toNat ≤ 90 := hc
      generalize hn : c.toNat = n at hlo hhi
      obtain rfl := eq_ofNat_of_toNat_eq hn
      interval_cases n <;> rfl
    · left
      symm
      apply toLower_of_not_capital hc
  · generalize hn : l.toNat = n at hlo hhi
    obtain rfl := eq_ofNat_of_toNat_eq hn
    rintro (rfl | rfl)
    · interval_cases n <;> rfl
    · interval_cases n <;> rfl

/-! ### Digits -/

/-- A character is the decimal digit of a value. -/
def DecimalDigit (c : Char) (v : Nat) : Prop :=
  v < 10 ∧ c = Nat.digitChar v

/-- A character is the hexadecimal digit of a value, in either case. -/
def HexDigit (c : Char) (v : Nat) : Prop :=
  v < 16 ∧ (c = Nat.digitChar v ∨ c = (Nat.digitChar v).toUpper)

/-- One or two hexadecimal digits spell a byte, the higher one first. -/
inductive HexByte : List Char → Nat → Prop where
  | one {x : Char} {v : Nat} (hx : HexDigit x v) : HexByte [x] v
  | two {x y : Char} {v w : Nat} (hx : HexDigit x v) (hy : HexDigit y w) :
      HexByte [x, y] (16 * v + w)

theorem decimal?_eq_some_iff {c : Char} {v : Nat} :
  decimal? c = some v ↔ DecimalDigit c v
  := by
  constructor
  · intro h
    simp only [decimal?, Option.ite_none_right_eq_some, toNat_le_iff] at h
    obtain ⟨⟨hlo, hhi⟩, hv⟩ := h
    generalize hn : c.toNat = n at hlo hhi hv
    obtain rfl := eq_ofNat_of_toNat_eq hn
    cases hv
    simp only [Char.reduceToNat] at hlo hhi
    constructor
    · simp only [Char.reduceToNat]
      omega
    · interval_cases n <;> rfl
  · rintro ⟨hv, rfl⟩
    interval_cases v <;> rfl

theorem hexadecimal?_eq_some_iff {c : Char} {v : Nat} :
  hexadecimal? c = some v ↔ HexDigit c v
  := by
  constructor
  · intro h
    simp only [hexadecimal?, toNat_le_iff] at h
    generalize hn : c.toNat = n at h
    obtain rfl := eq_ofNat_of_toNat_eq hn
    simp only [Char.reduceToNat] at h
    unfold HexDigit
    split_ifs at h with hdecimal hlower hupper
    · cases h
      obtain ⟨hlo, hhi⟩ := hdecimal
      interval_cases n <;> decide
    · cases h
      obtain ⟨hlo, hhi⟩ := hlower
      interval_cases n <;> decide
    · cases h
      obtain ⟨hlo, hhi⟩ := hupper
      interval_cases n <;> decide
  · rintro ⟨hv, rfl | rfl⟩
    · interval_cases v <;> rfl
    · interval_cases v <;> rfl

theorem HexByte.lt {digits : List Char} {v : Nat} (h : HexByte digits v) :
  v < 256
  := by
  cases h with
  | one hx =>
      have := hx.1
      omega
  | two hx hy =>
      have := hx.1
      have := hy.1
      omega

/-- A number below 256 is the value of the byte made from it. -/
theorem eq_ofNat_iff_toNat_eq {b : UInt8} {v : Nat} (hv : v < 256) :
  UInt8.ofNat v = b ↔ b.toNat = v
  := by
  constructor
  · rintro rfl
    apply UInt8.toNat_ofNat_of_lt hv
  · rintro rfl
    apply UInt8.ofNat_toNat

theorem hexByte?_eq_some_iff {digits : List Char} {b : UInt8} :
  hexByte? digits = some b ↔ HexByte digits b.toNat
  := by
  constructor
  · intro h
    unfold hexByte? at h
    split at h
    · simp only [Option.map_eq_some_iff, hexadecimal?_eq_some_iff] at h
      obtain ⟨v, hx, hb⟩ := h
      have hbyte := HexByte.one hx
      rw [(eq_ofNat_iff_toNat_eq hbyte.lt).mp hb]
      apply hbyte
    · simp only [Option.bind_eq_bind, Option.bind_eq_some_iff, hexadecimal?_eq_some_iff,
        Option.some.injEq] at h
      obtain ⟨v, hx, w, hy, hb⟩ := h
      have hbyte := HexByte.two hx hy
      rw [(eq_ofNat_iff_toNat_eq hbyte.lt).mp hb]
      apply hbyte
    · contradiction
  · intro h
    generalize hv : b.toNat = v at h
    have hb := (eq_ofNat_iff_toNat_eq h.lt).mpr hv
    cases h with
    | one hx =>
        rw [hexByte?, hexadecimal?_eq_some_iff.mpr hx, Option.map_some, hb]
    | two hx hy =>
        rw [hexByte?, hexadecimal?_eq_some_iff.mpr hx, hexadecimal?_eq_some_iff.mpr hy, ← hb]
        rfl

/-- What spells a byte is read as this byte. -/
theorem HexByte.exists_hexByte? {digits : List Char} {v : Nat} (h : HexByte digits v) :
  ∃ b, hexByte? digits = some b ∧ b.toNat = v
  := by
  have hv := UInt8.toNat_ofNat_of_lt' h.lt
  use UInt8.ofNat v
  constructor
  · rw [hexByte?_eq_some_iff, hv]
    apply h
  · apply hv

end StyleTags.Text
