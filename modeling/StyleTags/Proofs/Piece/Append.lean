import StyleTags.Proofs.Piece.Overlap

/-!
# Text put behind a text

What the search finds in a text it also finds with more text behind: a pattern that stands in the
text is cut at the same place (`Text.cut?_append_right`).  The walk, however, could come to an
opening delimiter that reaches from the text into what follows it.  As it begins before the closing
delimiter it would contain that one, so that nothing changes for delimiters of which the opening
one does not contain the closing one (`innermost?_append_right`).

For such delimiters all pieces up to the last tag of a text stay as they are, and scanning goes on
from behind that tag (`exists_pieces_append`).
-/

namespace StyleTags

namespace Text

variable {pattern text before after : List Char}

/-- A text is cut at the same place with more behind it. -/
theorem cut?_append_right (h : cut? pattern text = some (before, after)) (more : List Char) :
  cut? pattern (text ++ more) = some (before, after ++ more)
  := by
  induction text generalizing before with
  | nil =>
      simp only [cut?, Option.ite_none_right_eq_some, List.isEmpty_iff, Option.some.injEq,
        Prod.mk.injEq] at h
      obtain ⟨rfl, rfl, rfl⟩ := h
      cases more with
      | nil => rfl
      | cons c cs => simp [cut?]
  | cons c cs ih =>
      have hlen := length_of_cut? h
      have hsame : pattern <+: c :: cs ++ more ↔ pattern <+: c :: cs := by
        constructor
        · intro hp
          apply List.prefix_of_prefix_length_le hp (List.prefix_append _ _)
          omega
        · intro hp
          apply hp.trans (List.prefix_append _ _)
      rw [List.cons_append] at hsame ⊢
      simp only [cut?, List.isPrefixOf_iff_prefix, hsame] at h ⊢
      split at h
      · next hp =>
        cases h
        rw [if_pos hp, ← List.cons_append, List.drop_append_of_le_length hp.length_le]
      · next hp =>
        simp only [Option.map_eq_some_iff, Prod.exists, Prod.mk.injEq] at h
        obtain ⟨u, v, hu, rfl, rfl⟩ := h
        rw [if_neg hp, ih hu]
        rfl

/-- A pattern that stands in a text only with more behind it reaches beyond the text. -/
theorem length_lt_of_cut?_append {more : List Char} (hnone : cut? pattern text = none)
    (h : cut? pattern (text ++ more) = some (before, after)) :
  text.length < before.length + pattern.length
  := by
  apply Nat.lt_of_not_le
  intro hle
  have hstands := prefix_drop_of_cut? h
  rw [List.drop_append_of_le_length (by omega)] at hstands
  apply cut?_eq_none_iff.mp hnone
  apply List.IsInfix.trans _ (List.drop_suffix before.length text).isInfix
  apply List.IsPrefix.isInfix
  apply List.prefix_of_prefix_length_le hstands (List.prefix_append _ _)
  rw [List.length_drop]
  omega

/-- What reaches from inside a text beyond it contains all that stands behind its beginning in the
text. -/
theorem infix_of_reaching {inner outer more : List Char} {i n : Nat}
    (houter : outer <+: (text ++ more).drop i) (hlen : text.length ≤ i + outer.length)
    (hin : i ≤ n) (hinner : inner <+: text.drop n) :
  inner <:+: outer
  := by
  have hrest : text.drop i <+: outer := by
    apply List.prefix_of_prefix_length_le _ houter
    · rw [List.length_drop]
      omega
    · rw [List.drop_append]
      apply List.prefix_append
  obtain ⟨k, rfl⟩ := Nat.exists_eq_add_of_le hin
  rw [← List.drop_drop] at hinner
  apply hinner.isInfix.trans
  apply (List.drop_suffix k _).isInfix.trans hrest.isInfix

end Text

namespace Piece

variable {opening closing : List Char}

theorem tags_prefix_append (row row' : List Piece) :
  tags opening closing row <+: tags opening closing (row ++ row')
  := by
  rw [tags, tags, placed_append, List.filterMap_append]
  apply List.prefix_append

theorem tags_append_run (row : List Piece) (last : List Char) :
  tags opening closing (row ++ run last) = tags opening closing row
  := by
  rw [tags, tags, placed_append, List.filterMap_append, List.append_right_eq_self]
  cases last with
  | nil => rfl
  | cons c cs => rfl

end Piece

namespace Delimiters

open Piece

/-! ### The search for the first tag -/

/-- The walk up to a closing delimiter does not depend on what follows the text. -/
theorem innermost?_append_right {opening closing : Delimiter} {text : List Char} {n : Nat}
    (hstands : closing.chars <+: text.drop n) (hfree : ¬ closing.chars <:+: opening.chars)
    (more : List Char) :
  innermost? opening (text ++ more) n = innermost? opening text n
  := by
  have hn : ∀ {text : List Char} {n : Nat}, closing.chars <+: text.drop n → n ≤ text.length := by
    intro text n hstands
    have hlen := hstands.length_le
    have := closing.length_pos
    rw [List.length_drop] at hlen
    omega
  fun_induction innermost? opening text n with
  | case1 text n hcut =>
      rw [innermost?]
      split
      · rw [List.take_append_of_le_length (hn hstands)]
      · next skipped tail hcut' =>
        -- an opening delimiter that reaches beyond the text begins behind the closing one
        have hlen := Text.length_lt_of_cut?_append hcut hcut'
        have hbehind : n ≤ skipped.length := by
          apply Nat.le_of_not_le
          intro hin
          apply hfree
          apply Text.infix_of_reaching (Text.prefix_drop_of_cut? hcut') hlen.le hin hstands
        have := opening.length_pos
        rw [if_neg (by omega), if_neg (by omega), List.take_append_of_le_length (hn hstands)]
  | case2 text n skipped tail hcut hle ih =>
      rw [innermost?_of_cut? (Text.cut?_append_right hcut more), if_pos hle, ih]
      rw [← Text.drop_of_cut? hcut, Nat.add_sub_cancel' hle]
      apply hstands
  | case3 text n skipped tail hcut hgt hlt =>
      rw [innermost?_of_cut? (Text.cut?_append_right hcut more), if_neg hgt, if_pos hlt]
  | case4 text n skipped tail hcut hgt hge =>
      rw [innermost?_of_cut? (Text.cut?_append_right hcut more), if_neg hgt, if_neg hge,
        List.take_append_of_le_length (hn hstands)]

variable {d : Delimiters} {text : List Char}

theorem closed_of_nextTag?_eq_some {f : Found} (h : d.nextTag? text = some f) :
  Closed d.opening.chars d.closing.chars text
  := by
  use f.before, f.name, f.rest
  rw [eq_append_of_nextTag? h]
  simp only [source, List.append_assoc]

/-- Where an opening delimiter is closed, the search for the first tag does not depend on what
follows the text. -/
theorem nextTag?_append_right (hclosed : Closed d.opening.chars d.closing.chars text)
    (hfree : ¬ d.closing.chars <:+: d.opening.chars) (more : List Char) :
  d.nextTag? (text ++ more)
    = (d.nextTag? text).map fun f => { f with rest := f.rest ++ more }
  := by
  obtain ⟨before, tail, body, rest, hb, hc⟩ := hclosed.exists_cut?
  have hwalk := innermost?_append_right (Text.prefix_drop_of_cut? hc) hfree more
  simp only [nextTag?, hb, hc, Text.cut?_append_right hb more, Text.cut?_append_right hc more,
    hwalk]
  cases innermost? d.opening tail body.length with
  | none => rfl
  | some walked =>
      by_cases hname : walked.2.isEmpty
      · simp only [hname, if_true, Option.map_none]
      · simp only [hname]
        rfl

/-- With more text behind a text, its pieces stay as they are up to its last tag, and scanning
goes on from behind this tag. -/
theorem exists_pieces_append (hfree : ¬ d.closing.chars <:+: d.opening.chars)
    (text more : List Char) :
  ∃ row last, d.pieces text = row ++ run last ∧ d.nextTag? last = none
    ∧ (∀ text, row.getLast? ≠ some (.plain text))
    ∧ d.pieces (text ++ more) = row ++ d.pieces (last ++ more)
  := by
  induction text using pieces.induct d with
  | case1 text h =>
      use [], text
      rw [pieces_of_nextTag?_eq_none h]
      simp [h]
  | case2 text f h ih =>
      obtain ⟨row, last, hrow, hnone, htag, hmore⟩ := ih
      have hfirst := nextTag?_append_right (closed_of_nextTag?_eq_some h) hfree more
      rw [h, Option.map_some] at hfirst
      use run f.before ++ .tag f.name :: row, last
      rw [pieces_of_nextTag?_eq_some h, pieces_of_nextTag?_eq_some hfirst, hrow, hmore]
      refine ⟨?_, hnone, ?_, ?_⟩
      · simp only [List.append_assoc, List.cons_append]
      · simpa only [ne_eq, getLast?_eq_plain_iff] using htag
      · simp only [List.append_assoc, List.cons_append]

/-! ### What becomes of the pieces -/

variable {more : List Char}

/-- The tags of a text are the first ones of a longer text. -/
theorem tags_prefix_tags_append (hfree : ¬ d.closing.chars <:+: d.opening.chars)
    (text more : List Char) :
  tags d.opening.chars d.closing.chars (d.pieces text)
    <+: tags d.opening.chars d.closing.chars (d.pieces (text ++ more))
  := by
  obtain ⟨row, last, hrow, -, -, hmore⟩ := exists_pieces_append hfree text more
  rw [hrow, hmore, tags_append_run]
  apply tags_prefix_append

/-- A text is scanned by itself behind a tag that ends another. -/
theorem pieces_append_of_tag (hfree : ¬ d.closing.chars <:+: d.opening.chars) {name : List Char}
    (hlast : (d.pieces text).getLast? = some (.tag name)) :
  d.pieces (text ++ more) = d.pieces text ++ d.pieces more
  := by
  obtain ⟨row, last, hrow, -, -, hmore⟩ := exists_pieces_append hfree text more
  cases last with
  | nil =>
      rw [run, if_pos (by rfl), List.append_nil] at hrow
      rw [hmore, hrow, List.nil_append]
  | cons c cs =>
      rw [hrow, run, if_neg (by simp), List.getLast?_concat] at hlast
      cases hlast

/-- Where scanning ended although an opening delimiter is closed, it ends with more text behind,
too. -/
theorem pieces_append_of_closed (hfree : ¬ d.closing.chars <:+: d.opening.chars)
    {last : List Char} (hlast : (d.pieces text).getLast? = some (.plain last))
    (hclosed : Closed d.opening.chars d.closing.chars last) :
  d.pieces (text ++ more) = (d.pieces text).dropLast ++ [.plain (last ++ more)]
  := by
  obtain ⟨row, left, hrow, hnone, htag, hmore⟩ := exists_pieces_append hfree text more
  cases left with
  | nil =>
      rw [hrow, run, if_pos (by rfl), List.append_nil] at hlast
      apply (htag last hlast).elim
  | cons c cs =>
      rw [run, if_neg (by simp)] at hrow
      rw [hrow, List.getLast?_concat] at hlast
      cases hlast
      have hnone' := nextTag?_append_right hclosed hfree more
      rw [hnone, Option.map_none] at hnone'
      rw [hmore, hrow, List.dropLast_concat, pieces_of_nextTag?_eq_none hnone']
      rfl

end Delimiters

end StyleTags
