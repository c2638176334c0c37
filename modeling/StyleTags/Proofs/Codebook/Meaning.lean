import StyleTags.Codebook.Status
import StyleTags.Proofs.Piece.Place
import StyleTags.Proofs.Table
import StyleTags.Renderer.Basic

/-!
# What the entries of a codebook mean

The escape sequence of a name does not depend on what a codebook has met: it is the one in
the catalog if there is one, and else the one of the paint that the name spells
(`escapeOf`).  A codebook that starts with the catalog and is only consulted holds exactly
this of the names of the catalog and of those that it was consulted about (`Codebook.Met`),
and it knows nothing of all others.  A row of pieces is therefore rendered as if each of its
tags had been worked out anew (`Codebook.answer_render`).
-/

namespace StyleTags

/-- The escape sequence of a name, or the reason why it has none, worked out anew. -/
def escapeOf (name : String) : Except TagError String :=
  match Catalog.find? name with
  | some escape => .ok escape
  | none => (Paint.ofTag name).map Paint.escape

/-- What is held of a name once it was worked out. -/
def Status.settled (name : String) : Status :=
  match escapeOf name with
  | .ok escape => .known escape
  | .error _ => .refused

namespace Piece

/-- What is shown of a piece, worked out anew. -/
def shown (opening closing : List Char) (mode : Mode) : Piece → List Char
  | .plain text => text
  | .tag name =>
    match escapeOf (String.ofList name) with
    | .ok escape => if mode = .interpret then escape.toList else []
    | .error _ => written opening closing (.tag name)

/-- The name of a piece that is a tag. -/
def name? : Piece → Option String
  | .plain _ => none
  | .tag name => some (String.ofList name)

/-- The names of the tags of a row. -/
def names (row : List Piece) : List String :=
  row.filterMap name?

end Piece

namespace Catalog

theorem nodup_names :
  (entries.map Prod.fst).Nodup
  := by decide +kernel

end Catalog

namespace Codebook

/-- Of the names of the catalog, and of the names that were met, a codebook holds what they
come to; of all others it holds nothing. -/
def Met (book : Codebook) (met : List String) : Prop :=
  ∀ name, book.status name
    = if (Catalog.find? name).isSome ∨ name ∈ met then Status.settled name else .unknown

/-! ### The catalog -/

theorem find?_initial (name : String) :
  initial.find? name = Catalog.find? name
  := Table.getElem?_ofList Catalog.nodup_names

theorem hasRefused_initial (name : String) :
  initial.hasRefused name = false
  := Std.TreeSet.contains_emptyc

theorem status_initial (name : String) :
  initial.status name
    = match Catalog.find? name with
      | some escape => .known escape
      | none => .unknown
  := by
  rw [status, find?_initial, hasRefused_initial]
  rfl

/-- At the start no names were met. -/
theorem met_initial :
  initial.Met []
  := by
  intro name
  rw [status_initial, Status.settled, escapeOf]
  cases Catalog.find? name with
  | none => rfl
  | some escape => rfl

/-! ### Consulting -/

/-- What a codebook holds of a name decides what it answers and what becomes of it. -/
theorem consult_eq (book : Codebook) (tag : String) :
  book.consult tag
    = match book.status tag with
      | .known escape => ⟨.ok escape, book, []⟩
      | .refused => ⟨.error (.refusedBefore tag), book, []⟩
      | .unknown =>
        match Paint.ofTag tag with
        | .ok paint => ⟨.ok paint.escape, book.learn tag paint.escape, [.derived tag paint.escape]⟩
        | .error reason => ⟨.error reason, book.refuse tag, [.refused tag reason]⟩
  := by
  unfold consult status
  cases book.find? tag with
  | some escape => rfl
  | none =>
      cases book.hasRefused tag with
      | true => rfl
      | false => rfl

variable {book : Codebook} {met : List String}

/-- What is held of a name is held of it again when it is met again. -/
theorem Met.append_of_held (h : book.Met met) {tag : String}
    (hheld : (Catalog.find? tag).isSome ∨ tag ∈ met) :
  book.Met (met ++ [tag])
  := by
  intro name
  by_cases hname : name = tag
  · rw [h name, hname, if_pos hheld, if_pos (by simp)]
  · simp only [h name, List.mem_append, List.mem_singleton, hname, or_false]

/-- A name of which nothing is held is met by holding what it comes to. -/
theorem Met.append_of_status (h : book.Met met) {book' : Codebook} {tag : String}
    (hbook : ∀ name, book'.status name
      = if tag = name then Status.settled tag else book.status name) :
  book'.Met (met ++ [tag])
  := by
  intro name
  rw [hbook name]
  by_cases hname : tag = name
  · rw [if_pos hname, hname, if_pos (by simp)]
  · simp only [hname, if_false, h name, List.mem_append, List.mem_singleton, Ne.symm hname,
      or_false]

theorem escapeOf_of_find?_eq_none {tag : String} (h : Catalog.find? tag = none) :
  escapeOf tag = (Paint.ofTag tag).map Paint.escape
  := by
  rw [escapeOf, h]

theorem met_consult (h : book.Met met) (tag : String) :
  (book.consult tag).state.Met (met ++ [tag])
  := by
  rw [consult_eq]
  have hstatus := h tag
  split at hstatus
  · next hheld =>
    rw [hstatus, Status.settled]
    cases escapeOf tag with
    | ok escape => apply h.append_of_held hheld
    | error reason => apply h.append_of_held hheld
  · next hnot =>
    rw [not_or, Option.not_isSome_iff_eq_none] at hnot
    have hanew := escapeOf_of_find?_eq_none hnot.1
    rw [hstatus]
    cases hread : Paint.ofTag tag with
    | ok paint =>
        apply h.append_of_status
        intro name
        rw [status_learn, Status.settled, hanew, hread]
        rfl
    | error reason =>
        apply h.append_of_status
        intro name
        rw [status_refuse, Status.settled, hanew, hread, hstatus]
        simp [Except.map]

/-- The answer is the escape sequence worked out anew; an error is told only once. -/
theorem answer_consult (h : book.Met met) (tag : String) :
  (book.consult tag).answer
    = match escapeOf tag with
      | .ok escape => .ok escape
      | .error reason => .error (if tag ∈ met then .refusedBefore tag else reason)
  := by
  rw [consult_eq]
  have hstatus := h tag
  split at hstatus
  · next hheld =>
    rw [hstatus, Status.settled]
    cases hanew : escapeOf tag with
    | ok escape => rfl
    | error reason =>
        have hmet : tag ∈ met := by
          rcases hheld with hcatalog | hmet
          · obtain ⟨escape, hescape⟩ := Option.isSome_iff_exists.mp hcatalog
            rw [escapeOf, hescape] at hanew
            contradiction
          · apply hmet
        simp only [hmet, if_true]
  · next hnot =>
    rw [not_or, Option.not_isSome_iff_eq_none] at hnot
    rw [hstatus, escapeOf_of_find?_eq_none hnot.1]
    cases Paint.ofTag tag with
    | ok paint => rfl
    | error reason => simp [Except.map, hnot.2]

/-! ### Rendering -/

variable {d : Delimiters} {mode : Mode}

/-- Rendering a row meets the names of its tags. -/
theorem met_render (h : book.Met met) (row : List Piece) :
  (book.render d mode row).state.Met (met ++ Piece.names row)
  := by
  induction row generalizing book met with
  | nil =>
      rw [Piece.names, List.filterMap_nil, List.append_nil]
      apply h
  | cons p row ih =>
      cases p with
      | plain text => apply ih h
      | tag name =>
          have hafter := ih (met_consult h (String.ofList name))
          rw [List.append_assoc] at hafter
          apply hafter

/-- A row is rendered as if each of its tags had been worked out anew. -/
theorem answer_render (h : book.Met met) (row : List Piece) :
  (book.render d mode row).answer
    = row.flatMap (Piece.shown d.opening.chars d.closing.chars mode)
  := by
  induction row generalizing book met with
  | nil => rfl
  | cons p row ih =>
      rw [List.flatMap_cons]
      cases p with
      | plain text =>
          rw [← ih h]
          rfl
      | tag name =>
          rw [← ih (met_consult h (String.ofList name)), render, answer_consult h, Piece.shown,
            Piece.source_eq_written]
          cases escapeOf (String.ofList name) with
          | ok escape => rfl
          | error reason => rfl

end Codebook

end StyleTags
