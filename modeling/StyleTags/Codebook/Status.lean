import StyleTags.Codebook.Basic

/-!
# What a codebook holds

The two collections of a codebook, seen as one map from names to their status.  Each
operation changes the status of the one name it is about, and only as far as said here: what
is learnt replaces whatever was held (`status_learn`), and a refusal touches only a name of
which nothing was held (`status_refuse`).
-/

namespace StyleTags.Codebook

theorem find?_learn (book : Codebook) (name escape other : String) :
  (book.learn name escape).find? other = if name = other then some escape else book.find? other
  := by
  simp [find?, learn, Std.TreeMap.getElem?_insert]

theorem hasRefused_learn (book : Codebook) (name escape other : String) :
  (book.learn name escape).hasRefused other = (!decide (name = other) && book.hasRefused other)
  := by
  simp only [hasRefused, learn, Std.TreeSet.contains_erase]
  by_cases h : name = other
  · simp [h]
  · simp [h, Std.LawfulEqCmp.compare_eq_iff_eq]

theorem has_eq_isSome (book : Codebook) (name : String) :
  book.has name = (book.find? name).isSome
  := Std.TreeMap.contains_eq_isSome_getElem?

theorem find?_refuse (book : Codebook) (name other : String) :
  (book.refuse name).find? other = book.find? other
  := by
  unfold refuse
  split <;> rfl

theorem hasRefused_refuse (book : Codebook) (name other : String) :
  (book.refuse name).hasRefused other
    = (!book.has name && decide (name = other) || book.hasRefused other)
  := by
  unfold refuse
  split
  · next h => simp [h]
  · next h =>
    simp only [hasRefused, Std.TreeSet.contains_insert]
    by_cases hn : name = other
    · subst hn
      simp [h]
    · simp [hn, Std.LawfulEqCmp.compare_eq_iff_eq]

/-- What is learnt of a name replaces what was held of it. -/
theorem status_learn (book : Codebook) (name escape other : String) :
  (book.learn name escape).status other
    = if name = other then .known escape else book.status other
  := by
  simp only [status, find?_learn, hasRefused_learn]
  by_cases h : name = other
  · simp [h]
  · simp [h]

/-- A refusal marks a name of which nothing was held. -/
theorem status_refuse (book : Codebook) (name other : String) :
  (book.refuse name).status other
    = if name = other ∧ book.status name = .unknown then .refused else book.status other
  := by
  simp only [status, find?_refuse, hasRefused_refuse, has_eq_isSome]
  by_cases h : name = other
  · subst h
    by_cases hf : book.find? name = none
    · by_cases hr : book.hasRefused name = true
      · simp [hf, hr]
      · simp [hf, hr]
    · obtain ⟨escape, he⟩ := Option.ne_none_iff_exists'.mp hf
      simp [he]
  · simp [h]

end StyleTags.Codebook
