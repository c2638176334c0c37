/-!
# Cutting a text at a pattern

`cut? pattern text` splits `text` around the first place where `pattern` stands, into the
part before it and the part after it.  Nothing is lost (`eq_append_of_cut?`), the pattern
stands nowhere earlier (`not_prefix_of_cut?`), and nothing is found only where there is
nothing to find (`cut?_eq_none_iff`).  The fields of a text between separators have no
separator in them (`not_mem_of_mem_splitOn`).
-/

namespace StyleTags.Text

/-- The parts of a text before and after the first place where the pattern stands. -/
def cut? (pattern : List Char) : List Char → Option (List Char × List Char)
  | [] => if pattern.isEmpty then some ([], []) else none
  | c :: cs =>
    if pattern.isPrefixOf (c :: cs) then
      some ([], (c :: cs).drop pattern.length)
    else
      (cut? pattern cs).map fun (before, after) => (c :: before, after)

/-- The two parts and the pattern between them make up the text. -/
theorem eq_append_of_cut? {pattern text before after : List Char}
    (h : cut? pattern text = some (before, after)) :
  text = before ++ (pattern ++ after)
  := by
  induction text generalizing before with
  | nil =>
    simp only [cut?] at h
    split at h <;> simp_all
  | cons c cs ih =>
    simp only [cut?] at h
    split at h
    · next hp =>
      simp only [Option.some.injEq, Prod.mk.injEq] at h
      obtain ⟨rfl, rfl⟩ := h
      rw [List.isPrefixOf_iff_prefix] at hp
      simpa using List.prefix_iff_eq_append.mp hp |>.symm
    · simp only [Option.map_eq_some_iff, Prod.exists, Prod.mk.injEq] at h
      obtain ⟨u, v, hu, rfl, rfl⟩ := h
      rw [List.cons_append, ← ih hu]

/-- The pattern does not stand before the place of the cut. -/
theorem not_prefix_of_cut? {pattern text before after : List Char}
    (h : cut? pattern text = some (before, after)) {n : Nat} (hn : n < before.length) :
  ¬ pattern <+: text.drop n
  := by
  induction text generalizing before n with
  | nil =>
    simp only [cut?] at h
    split at h <;> simp_all
  | cons c cs ih =>
    simp only [cut?] at h
    split at h
    · simp only [Option.some.injEq, Prod.mk.injEq] at h
      simp [← h.1] at hn
    · next hp =>
      simp only [Option.map_eq_some_iff, Prod.exists, Prod.mk.injEq] at h
      obtain ⟨u, v, hu, rfl, rfl⟩ := h
      cases n with
      | zero => simpa [List.isPrefixOf_iff_prefix] using hp
      | succ n => exact ih hu (by simpa using hn)

/-- There is no cut exactly where the pattern stands nowhere in the text. -/
theorem cut?_eq_none_iff {pattern text : List Char} :
  cut? pattern text = none ↔ ¬ pattern <:+: text
  := by
  induction text with
  | nil => cases pattern <;> simp [cut?]
  | cons c cs ih =>
    simp only [cut?, List.infix_cons_iff, ← List.isPrefixOf_iff_prefix]
    split <;> simp_all

/-- What follows the cut is shorter than the text by at least the pattern. -/
theorem length_of_cut? {pattern text before after : List Char}
    (h : cut? pattern text = some (before, after)) :
  text.length = before.length + pattern.length + after.length
  := by
  rw [eq_append_of_cut? h]
  simp [Nat.add_assoc]

/-- Behind the cut the text goes on with the part after it. -/
theorem drop_of_cut? {pattern text before after : List Char}
    (h : cut? pattern text = some (before, after)) (n : Nat) :
  text.drop (before.length + pattern.length + n) = after.drop n
  := by
  rw [eq_append_of_cut? h, ← List.append_assoc, ← List.length_append,
    List.drop_length_add_append]

/-- The pattern stands where the text is cut. -/
theorem prefix_drop_of_cut? {pattern text before after : List Char}
    (h : cut? pattern text = some (before, after)) :
  pattern <+: text.drop before.length
  := by
  rw [eq_append_of_cut? h, List.drop_left]
  apply List.prefix_append

/-- The text is cut at the first of the places where the pattern stands. -/
theorem length_le_of_cut? {pattern text before after : List Char}
    (h : cut? pattern text = some (before, after)) {n : Nat} (hn : pattern <+: text.drop n) :
  before.length ≤ n
  := by
  rcases Nat.lt_or_ge n before.length with hlt | hge
  · apply (not_prefix_of_cut? h hlt hn).elim
  · apply hge

/-- Up to the first place of a character stands what was put before it. -/
theorem takeWhile_ne_append_cons {c : Char} {before : List Char} (h : c ∉ before)
    (after : List Char) :
  (before ++ c :: after).takeWhile (· ≠ c) = before
  := by
  rw [List.takeWhile_append_of_pos, List.takeWhile_cons_of_neg, List.append_nil]
  · simp
  · intro a ha
    simpa using ne_of_mem_of_not_mem ha h

/-- A separator is in none of the fields that it separates. -/
theorem not_mem_of_mem_splitOn {sep : Char} {text field : List Char}
    (h : field ∈ text.splitOn sep) :
  sep ∉ field
  := by
  induction text generalizing field with
  | nil =>
      obtain rfl : field = [] := by simpa using h
      apply List.not_mem_nil
  | cons c cs ih =>
      rw [List.splitOn_cons_eq_if_modifyHead] at h
      split at h
      · rcases List.mem_cons.mp h with rfl | hmem
        · apply List.not_mem_nil
        · apply ih hmem
      · next hc =>
        obtain ⟨first, fields, heq⟩ := List.exists_cons_of_ne_nil (List.splitOn_ne_nil sep cs)
        rw [heq, List.modifyHead_cons] at h
        rw [heq] at ih
        rcases List.mem_cons.mp h with rfl | hmem
        · have hne : c ≠ sep := by simpa using hc
          apply List.not_mem_cons_of_ne_of_not_mem hne.symm
          apply ih List.mem_cons_self
        · apply ih (List.mem_cons_of_mem _ hmem)

end StyleTags.Text
