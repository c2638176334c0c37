import StyleTags.Text.Digits
import StyleTags.Text.Utf8

/-!
# Places in the bytes of a text

The parts of a text in UTF-8 are told by the numbers of bytes in front of them, their places.
A slice exists only between places in order that are boundaries of characters (`slice?`), and a
pattern is looked for byte by byte, in the slice from a place on (`find?`).

`radix16?` reads a number in base 16 that fits into a byte.
-/

namespace StyleTags.Text

/-- Whether a place is a boundary of characters: the end of the text, or the place of a first
byte. -/
def isBoundary (bytes : List UInt8) (place : Nat) : Bool :=
  match bytes[place]? with
  | some byte => byte.IsUTF8FirstByte
  | none => place = bytes.length

/-- The bytes from one place to another, if both are boundaries and in order. -/
def slice? (bytes : List UInt8) (start stop : Nat) : Option (List UInt8) :=
  if start ≤ stop ∧ isBoundary bytes start ∧ isBoundary bytes stop then
    some ((bytes.take stop).drop start)
  else
    none

/-- The first place where a pattern stands. -/
def firstPlace? (pattern bytes : List UInt8) : Option Nat :=
  (List.range (bytes.length + 1)).find? fun place => pattern.isPrefixOf (bytes.drop place)

/-- The first place where a pattern stands, from a place on.  Nothing is found from a place that
is no boundary. -/
def find? (bytes pattern : List UInt8) (start : Nat) : Option Nat :=
  (slice? bytes start bytes.length).bind fun rest =>
    (firstPlace? pattern rest).map (start + ·)

theorem le_of_find? {bytes pattern : List UInt8} {start place : Nat}
    (h : find? bytes pattern start = some place) :
  start ≤ place
  := by
  simp only [find?, Option.bind_eq_some_iff, Option.map_eq_some_iff] at h
  obtain ⟨rest, -, n, -, rfl⟩ := h
  apply Nat.le_add_right

/-- Whether a byte is a hexadecimal digit of ASCII. -/
def isHexadecimal (byte : UInt8) : Bool :=
  0x30 ≤ byte && byte ≤ 0x39 || 0x41 ≤ byte && byte ≤ 0x46 || 0x61 ≤ byte && byte ≤ 0x66

/-- The digits of a number, without a plus sign in front of them. -/
def unsigned (bytes : List UInt8) : List UInt8 :=
  if bytes.head? = some 0x2B ∧ 1 < bytes.length then bytes.tail else bytes

/-- The value with one more digit behind it, if the byte is a digit and the value still fits into a
byte. -/
def appendDigit? (value byte : UInt8) : Option UInt8 := do
  let digit ← hexadecimal? (Char.ofNat byte.toNat)
  if 16 * value.toNat + digit < 256 then some (UInt8.ofNat (16 * value.toNat + digit)) else none

/-- The byte whose value is written in base 16, with a plus sign or without. -/
def radix16? (bytes : List UInt8) : Option UInt8 :=
  if bytes.isEmpty then none else (unsigned bytes).foldlM appendDigit? 0

end StyleTags.Text
