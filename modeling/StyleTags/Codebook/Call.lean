import StyleTags.Codebook.Basic

/-!
# Calls on a codebook

What can be asked of a codebook, as data, so that sequences of calls can be spoken of.
-/

namespace StyleTags.Codebook

/-- What can be asked of a codebook. -/
inductive Call where
  | find (name : String)
  | has (name : String)
  | hasRefused (name : String)
  | learn (name escape : String)
  | refuse (name : String)
  | size
  | refusals
  | consult (tag : String)
  deriving DecidableEq, Repr

/-- What a codebook answers. -/
inductive Answer where
  | done
  | found (escape : Option String)
  | flag (value : Bool)
  | count (value : Nat)
  | resolved (result : Except TagError String)

/-- A call is carried out. -/
def perform (book : Codebook) : Call → Outcome Codebook Answer
  | .find name => ⟨.found (book.find? name), book, []⟩
  | .has name => ⟨.flag (book.has name), book, []⟩
  | .hasRefused name => ⟨.flag (book.hasRefused name), book, []⟩
  | .learn name escape => ⟨.done, book.learn name escape, []⟩
  | .refuse name => ⟨.done, book.refuse name, []⟩
  | .size => ⟨.count book.size, book, []⟩
  | .refusals => ⟨.count book.refusals, book, []⟩
  | .consult tag => (book.consult tag).map .resolved

end StyleTags.Codebook
