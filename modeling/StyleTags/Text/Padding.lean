/-!
# Padding

`Padding.apply` fits a text to a column: it is first cut to the greatest length allowed,
then filled up to the width.  A text longer than the width is not cut by it.  In the centre
the odd filling character comes last.
-/

namespace StyleTags.Text

/-- The side of a column to which a text keeps. -/
inductive Alignment where
  | left
  | right
  | centre
  deriving DecidableEq, Repr

/-- How a text is fitted to a column. -/
structure Padding where
  /-- The least number of characters written. -/
  width : Nat := 0
  /-- The side to which the text keeps; the left one if none is chosen. -/
  alignment : Option Alignment := none
  /-- The greatest number of characters of the text that are kept. -/
  limit : Option Nat := none
  /-- What the column is filled with. -/
  fill : Char := ' '
  deriving DecidableEq, Repr

namespace Padding

/-- The number of filling characters before a text, out of `missing` around it. -/
def lead (p : Padding) (missing : Nat) : Nat :=
  match p.alignment with
  | none | some .left => 0
  | some .right => missing
  | some .centre => missing / 2

/-- What is kept of a text. -/
def cut (p : Padding) (text : List Char) : List Char :=
  match p.limit with
  | none => text
  | some n => text.take n

/-- A text fitted to its column. -/
def apply (p : Padding) (text : List Char) : List Char :=
  let kept := p.cut text
  let missing := p.width - kept.length
  List.replicate (p.lead missing) p.fill
    ++ (kept ++ List.replicate (missing - p.lead missing) p.fill)

end Padding

/-- A text moved to the right of a column by spaces. -/
def padLeft (width : Nat) (text : String) : String :=
  let p : Padding := { width, alignment := some .right }
  String.ofList (p.apply text.toList)

end StyleTags.Text
