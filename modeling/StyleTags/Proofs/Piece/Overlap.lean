import StyleTags.Proofs.Piece.Division

/-!
# Delimiters that overlap

Delimiters of several characters may overlap themselves and each other, and then a text can be
read in more than one way.  The search for tags settles this by the order in which it looks for
them.

An opening delimiter that begins inside another one is never looked at, so that the opening
delimiter of a tag need not be the last one before the closing delimiter.  Any later one overlaps
it, though (`later_opening_overlaps`).

Scanning can end although an opening delimiter of the text that is left is closed.  It does so
only where there is no room for a name: at an opening delimiter with a closing one right behind
it, or at one that overlaps the closing delimiter of another (`adjacent_or_crossed_in_last_run`).
-/

namespace StyleTags

/-- Without its first `n` characters, a pattern stands `n` places further on. -/
theorem Text.drop_prefix_drop {pattern text : List Char} {i : Nat} (h : pattern <+: text.drop i)
    (n : Nat) :
  pattern.drop n <+: text.drop (i + n)
  := by
  obtain ⟨rest, hrest⟩ := h
  rw [← List.drop_drop, ← hrest, List.drop_append]
  apply List.prefix_append

namespace Piece

variable {opening closing : List Char}

/-! ### Openings inside an opening -/

/-- An opening delimiter that begins behind that of a tag, but before the closing delimiter,
overlaps that of the tag. -/
theorem Divides.later_opening {text : List Char} {row : List Piece}
    (h : Divides opening closing text row) {i j : Nat} {name : List Char}
    (htag : (i, .tag name) ∈ placed opening closing 0 row) (hij : i < j)
    (hj : j < i + opening.length + name.length) (hstands : opening <+: text.drop j) :
  j < i + opening.length ∧ opening.drop (j - i) <+: opening
  := by
  have hinside : j < i + opening.length := by
    apply Nat.lt_of_not_le
    intro hle
    obtain ⟨n, rfl⟩ := Nat.exists_eq_add_of_le hle
    apply (h.inside i name htag n _).1 hstands
    omega
  constructor
  · apply hinside
  · have htagged := written_prefix_of_mem_placed htag
    rw [h.written_eq] at htagged
    have hown := Text.drop_prefix_drop ((List.prefix_append _ _).trans htagged) (j - i)
    rw [Nat.add_sub_cancel' hij.le] at hown
    apply List.prefix_of_prefix_length_le hown hstands
    simp

/-- Between the opening delimiter of a tag and the closing one another opening delimiter begins
only if it overlaps the first.  If the opening delimiter does not overlap itself, that of a tag is
the last before the closing delimiter. -/
theorem later_opening_overlaps (opening closing text : String) :
  let o := opening.toList
  let row := placed o closing.toList 0 (scan opening closing text)
  (∀ i j name, (i, .tag name) ∈ row → i < j → j < i + o.length + name.length →
      o <+: text.toList.drop j → j < i + o.length ∧ o.drop (j - i) <+: o)
    ∧ ((∀ n, 0 < n → n < o.length → ¬ o.drop n <+: o) →
      ∀ i j name, (i, .tag name) ∈ row → i < j → j < i + o.length + name.length →
        ¬ o <+: text.toList.drop j)
  := by
  intro o row
  have h : Divides o closing.toList text.toList (scan opening closing text) :=
    divides_scan opening closing text
  constructor
  · intro i j name htag hij hj hstands
    apply h.later_opening htag hij hj hstands
  · intro hfree i j name htag hij hj hstands
    obtain ⟨hlt, hoverlap⟩ := h.later_opening htag hij hj hstands
    apply hfree (j - i) _ _ hoverlap
    · omega
    · omega

/-- The opening delimiter of a tag is not always the last before the closing one. -/
theorem opening_not_always_last :
  ¬ ∀ opening closing text : String, opening ≠ "" → closing ≠ "" → ∀ i j name,
      (i, .tag name) ∈ placed opening.toList closing.toList 0 (scan opening closing text) →
      i < j → j + opening.toList.length ≤ i + opening.toList.length + name.length →
      ¬ opening.toList <+: text.toList.drop j
  := by
  intro h
  have hlast := h "aa" "]" "aaab]" (by decide) (by decide) 0 1 ['a', 'b'] (by decide +kernel)
  apply hlast
  · decide
  · decide
  · decide

/-! ### Where scanning ends -/

/-- An opening delimiter of the text is closed: a closing one stands behind it. -/
def Closed (opening closing text : List Char) : Prop :=
  ∃ before between after, text = before ++ (opening ++ (between ++ (closing ++ after)))

/-- Behind an opening delimiter of the text there is another, which reaches beyond the beginning of
a closing one. -/
def Crossed (opening closing text : List Char) : Prop :=
  ∃ i j k, i + opening.length ≤ j ∧ j < k ∧ k < j + opening.length
    ∧ opening <+: text.drop i ∧ opening <+: text.drop j ∧ closing <+: text.drop k

/-- Where an opening delimiter is closed, the first one and a closing one behind it are found. -/
theorem Closed.exists_cut? {text : List Char} (h : Closed opening closing text) :
  ∃ before tail body rest,
    Text.cut? opening text = some (before, tail) ∧ Text.cut? closing tail = some (body, rest)
  := by
  obtain ⟨outside, inside, after, htext⟩ := h
  have ho : opening <+: text.drop outside.length := by
    rw [htext, List.drop_left]
    apply List.prefix_append
  have hinfix : opening <:+: text := ho.isInfix.trans (List.drop_suffix _ _).isInfix
  obtain ⟨⟨before, tail⟩, hb⟩ :=
    Option.ne_none_iff_exists'.mp fun hnone => Text.cut?_eq_none_iff.mp hnone hinfix
  obtain ⟨n, hn⟩ := Nat.exists_eq_add_of_le (Text.length_le_of_cut? hb ho)
  -- what stands behind the opening delimiter that is closed, seen from behind the first one
  have hbehind : tail.drop n = inside ++ (closing ++ after) := by
    rw [← Text.drop_of_cut? hb, htext, Nat.add_right_comm, ← hn, ← List.append_assoc,
      ← List.length_append, List.drop_left]
  have hinfix : closing <:+: tail := by
    apply List.IsInfix.trans _ (List.drop_suffix n tail).isInfix
    rw [hbehind]
    use inside, after
    apply List.append_assoc
  obtain ⟨⟨body, rest⟩, hc⟩ :=
    Option.ne_none_iff_exists'.mp fun hnone => Text.cut?_eq_none_iff.mp hnone hinfix
  use before, tail, body, rest

/-- The run behind the last tag of a row is the run behind the last tag of what follows the first
one. -/
theorem getLast?_eq_plain_iff {before name last : List Char} {row : List Piece} :
  (run before ++ .tag name :: row).getLast? = some (.plain last)
    ↔ row.getLast? = some (.plain last)
  := by
  rw [List.getLast?_append, List.getLast?_cons, Option.some_or]
  cases row.getLast? with
  | none => simp
  | some p => simp

end Piece

namespace Delimiters

open Piece

variable {d : Delimiters} {text : List Char}

/-- The walk fails only at an opening delimiter that reaches beyond the closing one. -/
theorem exists_prefix_drop_of_innermost?_eq_none {opening : Delimiter} {n : Nat}
    (h : innermost? opening text n = none) :
  ∃ i < n, n < i + opening.chars.length ∧ opening.chars <+: text.drop i
  := by
  fun_induction innermost? opening text n with
  | case1 text n hcut => contradiction
  | case2 text n skipped tail hcut hn ih =>
      rw [Option.map_eq_none_iff] at h
      obtain ⟨i, hi, hlt, hstands⟩ := ih h
      use skipped.length + opening.chars.length + i
      rw [Text.drop_of_cut? hcut]
      constructor
      · omega
      constructor
      · omega
      · apply hstands
  | case3 text n skipped tail hcut hn hlt =>
      use skipped.length, hlt
      constructor
      · omega
      · apply Text.prefix_drop_of_cut? hcut
  | case4 text n skipped tail hcut hn hge => contradiction

/-- Where an opening delimiter is closed and there is no tag, two delimiters stand next to each
other or overlap. -/
theorem adjacent_or_crossed_of_nextTag?_eq_none (h : d.nextTag? text = none)
    (hclosed : Closed d.opening.chars d.closing.chars text) :
  d.opening.chars ++ d.closing.chars <:+: text
    ∨ Crossed d.opening.chars d.closing.chars text
  := by
  obtain ⟨before, tail, body, rest, hb, hc⟩ := hclosed.exists_cut?
  rcases cases_of_nextTag?_eq_none h with
    hnone | ⟨before', tail', hb', hnone | ⟨body', rest', hc', hwalk | ⟨passed, hwalk⟩⟩⟩
  · rw [hb] at hnone
    contradiction
  · cases hb.symm.trans hb'
    rw [hc] at hnone
    contradiction
  · -- the walk ends at an opening delimiter that overlaps the closing one
    right
    cases hb.symm.trans hb'
    cases hc.symm.trans hc'
    obtain ⟨j, hj, hlt, hstands⟩ := exists_prefix_drop_of_innermost?_eq_none hwalk
    use before.length, before.length + d.opening.chars.length + j,
      before.length + d.opening.chars.length + body.length
    rw [Text.drop_of_cut? hb, Text.drop_of_cut? hb]
    refine ⟨?_, ?_, ?_, Text.prefix_drop_of_cut? hb, hstands, Text.prefix_drop_of_cut? hc⟩
    · omega
    · omega
    · omega
  · -- the walk ends at an opening delimiter that stands right before the closing one
    left
    cases hb.symm.trans hb'
    cases hc.symm.trans hc'
    have hbody := append_take_of_innermost? hwalk
    rw [Text.eq_append_of_cut? hc, List.take_left, List.append_nil] at hbody
    use before ++ passed, rest
    calc (before ++ passed) ++ (d.opening.chars ++ d.closing.chars) ++ rest
      _ = before ++ ((passed ++ d.opening.chars) ++ (d.closing.chars ++ rest)) := by
        simp only [List.append_assoc]
      _ = before ++ (d.opening.chars ++ tail) := by
        rw [← hbody, Text.eq_append_of_cut? hc, List.append_assoc]
      _ = text := (Text.eq_append_of_cut? hb).symm

/-- Behind the last tag there is no other. -/
theorem nextTag?_eq_none_of_getLast? {run : List Char}
    (h : (d.pieces text).getLast? = some (.plain run)) :
  d.nextTag? run = none
  := by
  induction text using pieces.induct d with
  | case1 text hnone =>
      rw [pieces_of_nextTag?_eq_none hnone] at h
      cases (eq_of_mem_run (List.mem_of_getLast? h)).1
      apply hnone
  | case2 text f hf ih =>
      rw [pieces_of_nextTag?_eq_some hf, getLast?_eq_plain_iff] at h
      apply ih h

end Delimiters

namespace Piece

/-- Where scanning ends with a run in which an opening delimiter is closed, an opening delimiter
of the run has a closing one right behind it, or another opening delimiter overlaps a closing
one. -/
theorem adjacent_or_crossed_in_last_run {opening closing text : String} {last : List Char}
    (ho : opening ≠ "") (hc : closing ≠ "")
    (hlast : (scan opening closing text).getLast? = some (.plain last))
    (hclosed : Closed opening.toList closing.toList last) :
  opening.toList ++ closing.toList <:+: last ∨ Crossed opening.toList closing.toList last
  := by
  obtain ⟨d, hd, -, -⟩ := Delimiters.exists_ofStrings_eq_ok ho hc
  obtain ⟨hopening, hclosing⟩ := Delimiters.ofStrings_eq_ok_iff.mp hd
  rw [scan_eq_pieces hd] at hlast
  rw [← hopening, ← hclosing] at hclosed ⊢
  apply Delimiters.adjacent_or_crossed_of_nextTag?_eq_none _ hclosed
  apply Delimiters.nextTag?_eq_none_of_getLast? hlast

/-- The second of two opening delimiters shares a character with the closing one. -/
theorem crossed_in_last_run :
  let last := "<%x<%>".toList
  "<%" ≠ "" ∧ "%>" ≠ "" ∧ (scan "<%" "%>" "<%r%><%x<%>").getLast? = some (.plain last)
    ∧ Closed "<%".toList "%>".toList last ∧ Crossed "<%".toList "%>".toList last
  := by
  intro last
  have ho : "<%" ≠ "" := by decide
  have hc : "%>" ≠ "" := by decide
  have hlast : (scan "<%" "%>" "<%r%><%x<%>").getLast? = some (.plain last) := by decide +kernel
  have hclosed : Closed "<%".toList "%>".toList last := by
    use [], ['x', '<'], []
    rfl
  have hcrossed := adjacent_or_crossed_in_last_run ho hc hlast hclosed
  exact ⟨ho, hc, hlast, hclosed, hcrossed.resolve_left (by decide)⟩

/-- Where scanning ends although an opening delimiter is closed, no opening delimiter need have a
closing one right behind it. -/
theorem last_run_not_always_adjacent :
  ¬ ∀ (opening closing text : String) (last : List Char), opening ≠ "" → closing ≠ "" →
      (scan opening closing text).getLast? = some (.plain last) →
      Closed opening.toList closing.toList last →
      opening.toList ++ closing.toList <:+: last
  := by
  intro h
  have hclosed : Closed "<%".toList "%>".toList "<%x<%>".toList := by
    use [], ['x', '<'], []
    rfl
  have hinfix := h "<%" "%>" "<%x<%>" "<%x<%>".toList (by decide) (by decide)
    (by decide +kernel) hclosed
  revert hinfix
  decide

end Piece

end StyleTags
