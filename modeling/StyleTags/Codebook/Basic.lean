import Std.Data.TreeMap
import Std.Data.TreeSet
import StyleTags.Codebook.Catalog
import StyleTags.Journal.Event

/-!
# The codebook

A codebook knows the escape sequences of some names and has refused some others.  It starts
out with the catalog.  `Codebook.consult` finds the sequence of a tag: one that it neither
knows nor has refused is read as a paint, and the codebook remembers what came of it.
-/

namespace StyleTags

/-- The names met so far, with what is known of them. -/
structure Codebook where
  /-- The escape sequences of the names that have one. -/
  known : Std.TreeMap String String
  /-- The names that were refused. -/
  refused : Std.TreeSet String

/-- What a codebook holds about a name. -/
inductive Status where
  | unknown
  | refused
  | known (escape : String)
  deriving DecidableEq, Repr

namespace Codebook

/-- The codebook that holds the catalog. -/
def initial : Codebook :=
  ⟨.ofList Catalog.entries, ∅⟩

/-- The escape sequence of a name. -/
def find? (book : Codebook) (name : String) : Option String :=
  book.known[name]?

/-- Whether a name has an escape sequence. -/
def has (book : Codebook) (name : String) : Bool :=
  book.known.contains name

/-- Whether a name was refused. -/
def hasRefused (book : Codebook) (name : String) : Bool :=
  book.refused.contains name

/-- A name is given an escape sequence, and is refused no longer. -/
def learn (book : Codebook) (name escape : String) : Codebook :=
  ⟨book.known.insert name escape, book.refused.erase name⟩

/-- A name is refused, unless it has an escape sequence. -/
def refuse (book : Codebook) (name : String) : Codebook :=
  if book.has name then book else { book with refused := book.refused.insert name }

/-- The number of names that have an escape sequence. -/
def size (book : Codebook) : Nat :=
  book.known.size

/-- The number of names that were refused. -/
def refusals (book : Codebook) : Nat :=
  book.refused.size

/-- What the codebook holds about a name. -/
def status (book : Codebook) (name : String) : Status :=
  match book.find? name with
  | some escape => .known escape
  | none => if book.hasRefused name then .refused else .unknown

/-- The escape sequence of a tag, or the reason why it has none.  A tag is worked out at
most once: afterwards the codebook knows it or has refused it. -/
def consult (book : Codebook) (tag : String) : Outcome Codebook (Except TagError String) :=
  match book.find? tag with
  | some escape => ⟨.ok escape, book, []⟩
  | none =>
    if book.hasRefused tag then
      ⟨.error (.refusedBefore tag), book, []⟩
    else
      match Paint.ofTag tag with
      | .ok paint => ⟨.ok paint.escape, book.learn tag paint.escape, [.derived tag paint.escape]⟩
      | .error reason => ⟨.error reason, book.refuse tag, [.refused tag reason]⟩

end Codebook

end StyleTags
