import StyleTags.Paint.Basic
import StyleTags.Paint.Swatch
import StyleTags.Text.Digits
import StyleTags.Text.Quoted

/-!
# How a paint is spelled

A tag spells a paint by fields between colons:

* `mark:d:d:d`, three decimal digits, is an entry of the color cube;
* `mark:h:h:h`, three bytes of one or two hexadecimal digits, is a color by its bytes;
* `fg:hhhhhh` and `bg:hhhhhh` pack the same into six digits;
* `name`, `fg:name` and `bg:name` are solid colors known by name.

A mark is any two characters where three channels follow it.  `Paint.ofTag` reads a
spelling, and `TagError` says why a tag is none.
-/

namespace StyleTags

/-- The reason why a tag has no escape sequence. -/
inductive TagError where
  /-- The tag was refused before. -/
  | refusedBefore (tag : String)
  /-- The number of fields, or the mark in front, fits no spelling. -/
  | badShape (tag : String)
  /-- A channel of one character is no decimal digit. -/
  | badDigit (channel tag : String)
  /-- A channel is not one or two hexadecimal digits. -/
  | badByte (channel tag : String)
  /-- There is no color of the name. -/
  | noSuchColor (name : String)
  /-- The color does not cover fully. -/
  | translucent (name : String)
  deriving DecidableEq, Repr

/-- The wording of a refusal. -/
def TagError.message : TagError → String
  | .refusedBefore tag => "token previously rejected: " ++ tag
  | .badShape tag => "malformed color prefix: " ++ tag
  | .badDigit channel tag =>
    "invalid 8-bit channel " ++ String.ofList (Text.quote channel.toList) ++ " in " ++ tag
  | .badByte channel tag =>
    "invalid hex channel " ++ String.ofList (Text.quote channel.toList) ++ " in " ++ tag
  | .noSuchColor name => "unknown color name: " ++ name
  | .translucent name => "color is not opaque: " ++ name

/-- The layer that a mark selects; the case of its letters does not matter. -/
def Layer.ofMark (mark : List Char) : Layer :=
  if mark.map Char.toLower = ['b', 'g'] then .background else .foreground

namespace Color

/-- The level spelled by a channel of one decimal digit. -/
def level? : List Char → Option UInt8
  | [c] => (Text.decimal? c).map UInt8.ofNat
  | _ => none

/-- Three channels read one after the other; the first that cannot be read is the error. -/
def channels (read : List Char → Option UInt8) (bad : List Char → TagError)
    (make : UInt8 → UInt8 → UInt8 → Color) (x y z : List Char) : Except TagError Color :=
  match read x, read y, read z with
  | none, _, _ => .error (bad x)
  | some _, none, _ => .error (bad y)
  | some _, some _, none => .error (bad z)
  | some r, some g, some b => .ok (make r g b)

/-- The color spelled by three channels of a tag: levels of the cube if each channel is a
single character, bytes otherwise. -/
def ofChannels (tag : String) (x y z : List Char) : Except TagError Color :=
  if x.length = 1 ∧ y.length = 1 ∧ z.length = 1 then
    channels level? (fun c => .badDigit (String.ofList c) tag) cube x y z
  else
    channels Text.hexByte? (fun c => .badByte (String.ofList c) tag) rgb x y z

/-- The color packed into six hexadecimal digits. -/
def ofPacked? : List Char → Option Color
  | [r₁, r₀, g₁, g₀, b₁, b₀] => do
    let r ← Text.hexByte? [r₁, r₀]
    let g ← Text.hexByte? [g₁, g₀]
    let b ← Text.hexByte? [b₁, b₀]
    some (rgb r g b)
  | _ => none

/-- The solid color of a name. -/
def named (name : String) : Except TagError Color :=
  match Swatch.find? name with
  | none => .error (.noSuchColor name)
  | some c => if c.isSolid then .ok (rgb c.red c.green c.blue) else .error (.translucent name)

end Color

namespace Paint

/-- The paint spelled by the fields of a tag. -/
def ofFields (tag : String) : List (List Char) → Except TagError Paint
  | [name] => (Color.named (String.ofList name)).map (⟨.ofMark name, ·⟩)
  | [mark, name] =>
    if mark = ['f', 'g'] ∨ mark = ['b', 'g'] then
      match Color.ofPacked? name with
      | some color => .ok ⟨.ofMark mark, color⟩
      | none => (Color.named (String.ofList name)).map (⟨.ofMark mark, ·⟩)
    else
      .error (.badShape tag)
  | [mark, x, y, z] =>
    if mark.length = 2 then
      (Color.ofChannels tag x y z).map (⟨.ofMark mark, ·⟩)
    else
      .error (.badShape tag)
  | _ => .error (.badShape tag)

/-- The paint that a tag spells. -/
def ofTag (tag : String) : Except TagError Paint :=
  ofFields tag (tag.toList.splitOn ':')

end Paint

end StyleTags
