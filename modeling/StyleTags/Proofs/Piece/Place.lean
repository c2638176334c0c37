import StyleTags.Piece
import Mathlib.Data.List.Basic

/-!
# Where the pieces of a text stand

A row of pieces, written out between two delimiting texts, is a text, and every piece of
the row has a place in it: the number of characters before the piece.  `Piece.placed`
gives the places of all pieces of a row, and `Piece.tags` those of its tags.  What is
written of a piece stands at its place (`written_prefix_of_mem_placed`), every place of the
text lies in a piece (`exists_placed_of_lt`), and later pieces have later places
(`pairwise_placed`).
-/

namespace StyleTags.Piece

/-- A piece as it is written between two delimiting texts. -/
def written (opening closing : List Char) : Piece → List Char
  | .plain text => text
  | .tag name => opening ++ (name ++ closing)

/-- A row of pieces, each with the place where it begins, if the row begins at `start`. -/
def placed (opening closing : List Char) : Nat → List Piece → List (Nat × Piece)
  | _, [] => []
  | start, p :: row =>
    (start, p) :: placed opening closing (start + (p.written opening closing).length) row

/-- The tags of a row, each by the place where it begins and by its name. -/
def tags (opening closing : List Char) (row : List Piece) : List (Nat × List Char) :=
  (placed opening closing 0 row).filterMap fun (i, p) =>
    match p with
    | .plain _ => none
    | .tag name => some (i, name)

theorem source_eq_written (d : Delimiters) :
  d.source = written d.opening.chars d.closing.chars
  := by
  funext p
  cases p with
  | plain text => rfl
  | tag name => apply List.append_assoc

variable {opening closing : List Char}

theorem flatMap_written_run (text : List Char) :
  (run text).flatMap (written opening closing) = text
  := by
  cases text <;> simp [run, written]

/-- The pieces of a row that follow another begin where that one ends. -/
theorem placed_append (start : Nat) (row row' : List Piece) :
  placed opening closing start (row ++ row')
    = placed opening closing start row
      ++ placed opening closing (start + (row.flatMap (written opening closing)).length) row'
  := by
  induction row generalizing start with
  | nil => rfl
  | cons p row ih =>
      simp only [List.cons_append, placed, ih, List.flatMap_cons, List.length_append,
        Nat.add_assoc]

/-- A row that begins later has all its places moved by as much. -/
theorem mem_placed_iff {start i : Nat} {p : Piece} {row : List Piece} :
  (i, p) ∈ placed opening closing start row
    ↔ ∃ j, i = start + j ∧ (j, p) ∈ placed opening closing 0 row
  := by
  induction row generalizing start i with
  | nil => simp [placed]
  | cons q row ih =>
      simp only [placed, List.mem_cons, Prod.mk.injEq, Nat.zero_add]
      constructor
      · rintro (⟨rfl, rfl⟩ | h)
        · use 0
          simp
        · obtain ⟨j, rfl, hj⟩ := ih.mp h
          use (q.written opening closing).length + j
          constructor
          · apply Nat.add_assoc
          · right
            apply ih.mpr
            use j
      · rintro ⟨j, rfl, ⟨rfl, rfl⟩ | h⟩
        · left
          simp
        · right
          obtain ⟨k, rfl, hk⟩ := ih.mp h
          apply ih.mpr
          use k
          constructor
          · symm
            apply Nat.add_assoc
          · apply hk

/-- What is written of a piece stands at its place. -/
theorem written_prefix_of_mem_placed {i : Nat} {p : Piece} {row : List Piece}
    (h : (i, p) ∈ placed opening closing 0 row) :
  p.written opening closing <+: (row.flatMap (written opening closing)).drop i
  := by
  induction row generalizing i with
  | nil => simp [placed] at h
  | cons q row ih =>
      simp only [placed, List.mem_cons, Prod.mk.injEq] at h
      rcases h with ⟨rfl, rfl⟩ | h
      · apply List.prefix_append
      · obtain ⟨j, rfl, hj⟩ := mem_placed_iff.mp h
        rw [Nat.zero_add, List.flatMap_cons, List.drop_length_add_append]
        apply ih hj

/-- Every place of a text lies in one of its pieces. -/
theorem exists_placed_of_lt {j : Nat} {row : List Piece}
    (h : j < (row.flatMap (written opening closing)).length) :
  ∃ i p, (i, p) ∈ placed opening closing 0 row
    ∧ i ≤ j ∧ j < i + (p.written opening closing).length
  := by
  induction row generalizing j with
  | nil => simp at h
  | cons q row ih =>
      by_cases hj : j < (q.written opening closing).length
      · use 0, q
        simp [placed, hj]
      · rw [List.flatMap_cons, List.length_append] at h
        have hrest : j - (q.written opening closing).length
            < (row.flatMap (written opening closing)).length := by
          omega
        obtain ⟨i, p, hp, hle, hlt⟩ := ih hrest
        use (q.written opening closing).length + i, p
        constructor
        · apply List.mem_cons_of_mem
          rw [Nat.zero_add]
          apply mem_placed_iff.mpr
          use i
        · omega

/-- Where nothing is written as the empty text, later pieces have later places. -/
theorem pairwise_placed (start : Nat) {row : List Piece}
    (h : ∀ p ∈ row, p.written opening closing ≠ []) :
  (placed opening closing start row).Pairwise (fun a b => a.1 < b.1)
  := by
  induction row generalizing start with
  | nil => apply List.Pairwise.nil
  | cons q row ih =>
      apply List.Pairwise.cons
      · rintro ⟨i, p⟩ hp
        obtain ⟨j, rfl, -⟩ := mem_placed_iff.mp hp
        have := List.length_pos_iff.mpr (h q List.mem_cons_self)
        dsimp only
        omega
      · apply ih
        intro p hp
        apply h p (List.mem_cons_of_mem q hp)

/-- A tag of a row that begins with a run and a tag is that tag, or one of the tags behind
it. -/
theorem mem_placed_run_append_iff {i : Nat} {before name name' : List Char} {row : List Piece} :
  (i, .tag name') ∈ placed opening closing 0 (run before ++ .tag name :: row)
    ↔ i = before.length ∧ name' = name
      ∨ ∃ j, i = (before ++ (opening ++ (name ++ closing))).length + j
        ∧ (j, .tag name') ∈ placed opening closing 0 row
  := by
  have hrun : (i, .tag name') ∉ placed opening closing 0 (run before) := by
    intro h
    cases before with
    | nil => simp [run, placed] at h
    | cons c cs => simp [run, placed] at h
  rw [placed_append, flatMap_written_run, placed, Nat.zero_add, List.length_append,
    ← mem_placed_iff]
  simp only [written, List.mem_append, hrun, false_or, List.mem_cons, Prod.mk.injEq, tag.injEq]

theorem mem_tags_iff {i : Nat} {name : List Char} {row : List Piece} :
  (i, name) ∈ tags opening closing row ↔ (i, .tag name) ∈ placed opening closing 0 row
  := by
  simp only [tags, List.mem_filterMap, Prod.exists]
  constructor
  · rintro ⟨j, p, hp, hsome⟩
    cases p with
    | plain text => contradiction
    | tag name' =>
        cases hsome
        apply hp
  · intro h
    use i, .tag name

/-- The pieces of a row with their places are the pieces of the row. -/
theorem mem_of_mem_placed {i : Nat} {p : Piece} {row : List Piece}
    (h : (i, p) ∈ placed opening closing 0 row) :
  p ∈ row
  := by
  induction row generalizing i with
  | nil => simp [placed] at h
  | cons q row ih =>
      rcases List.mem_cons.mp h with h | h
      · rw [(Prod.mk.inj h).2]
        apply List.mem_cons_self
      · obtain ⟨j, -, hj⟩ := mem_placed_iff.mp h
        apply List.mem_cons_of_mem q (ih hj)

/-- Every piece of a row has a place. -/
theorem exists_mem_placed {p : Piece} {row : List Piece} (h : p ∈ row) :
  ∃ i, (i, p) ∈ placed opening closing 0 row
  := by
  induction row with
  | nil => contradiction
  | cons q row ih =>
      rcases List.mem_cons.mp h with rfl | hrest
      · use 0
        apply List.mem_cons_self
      · obtain ⟨i, hi⟩ := ih hrest
        use (q.written opening closing).length + i
        apply List.mem_cons_of_mem
        rw [Nat.zero_add]
        apply mem_placed_iff.mpr
        use i

end StyleTags.Piece
