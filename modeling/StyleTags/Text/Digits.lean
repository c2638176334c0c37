/-!
# Digits

The values of ASCII digits, decimal and hexadecimal, and of the bytes that one or two
hexadecimal digits spell.  Digits of other scripts have no value here.
-/

namespace StyleTags.Text

/-- The value of a decimal digit. -/
def decimal? (c : Char) : Option Nat :=
  if '0' ≤ c ∧ c ≤ '9' then some (c.toNat - '0'.toNat) else none

/-- The value of a hexadecimal digit of either case. -/
def hexadecimal? (c : Char) : Option Nat :=
  if '0' ≤ c ∧ c ≤ '9' then some (c.toNat - '0'.toNat)
  else if 'a' ≤ c ∧ c ≤ 'f' then some (c.toNat - 'a'.toNat + 10)
  else if 'A' ≤ c ∧ c ≤ 'F' then some (c.toNat - 'A'.toNat + 10)
  else none

/-- The byte spelled by one or two hexadecimal digits. -/
def hexByte? : List Char → Option UInt8
  | [x] => (hexadecimal? x).map UInt8.ofNat
  | [x, y] => do
    let high ← hexadecimal? x
    let low ← hexadecimal? y
    some (UInt8.ofNat (16 * high + low))
  | _ => none

end StyleTags.Text
