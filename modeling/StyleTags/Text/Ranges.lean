/-!
# Sets of characters given by ranges

A property of characters is tabulated as a list of ranges of code points, both ends
included.
-/

namespace StyleTags.Text

/-- A table of ranges of code points, both ends included. -/
abbrev Ranges : Type := List (Nat × Nat)

/-- Whether a character lies in one of the ranges. -/
def Ranges.contains (table : Ranges) (c : Char) : Bool :=
  table.any fun (first, last) => first ≤ c.toNat && c.toNat ≤ last

end StyleTags.Text
