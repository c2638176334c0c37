import StyleTags.Paint.Spelling
import StyleTags.Text.Bytes

/-!
# Hexadecimal digits in the bytes of a tag

How bytes and packed colors are read from the bytes of a tag: what is written is judged byte by byte,
and then slices of it are converted.  Where a slice does not exist, the reading of a packed color
breaks down.
-/

namespace StyleTags

/-- Whether some bytes are one or two hexadecimal digits. -/
def Text.writesByte (channel : List UInt8) : Bool :=
  !channel.isEmpty && channel.length ≤ 2 && channel.all isHexadecimal

/-- The byte written by one or two hexadecimal digits. -/
def Text.byteOf? (channel : List UInt8) : Option UInt8 :=
  if writesByte channel then radix16? channel else none

namespace Color

/-- Whether some bytes are six hexadecimal digits. -/
def writesPacked (digits : List UInt8) : Bool :=
  digits.length = 6 && digits.all Text.isHexadecimal

/-- The color packed into six hexadecimal digits, each of its bytes converted from a slice. -/
def ofPackedBytes? (digits : List UInt8) : Option (Option Color) :=
  if writesPacked digits then do
    let red ← Text.slice? digits 0 2
    let green ← Text.slice? digits 2 4
    let blue ← Text.slice? digits 4 6
    some do
      let r ← Text.radix16? red
      let g ← Text.radix16? green
      let b ← Text.radix16? blue
      some (rgb r g b)
  else
    some none

end Color

end StyleTags
