import StyleTags.Search
import StyleTags.Proofs.Piece.FirstTag
import StyleTags.Proofs.Text.Bytes

/-!
# The next tag of a search

A search that stands at the place of a character (`At`) finds over the bytes what is found over the
characters: the walk from opening delimiter to opening delimiter is the same
(`Walk.last_eq`), and so is the next tag (`At.span?_eq`).  The places of that tag are
places of characters, with the delimiters and the name between them (`At.exists_parts`).
-/

namespace StyleTags

open Text (utf8 placeOf)

namespace Search

/-- A search of a text stands at the place of a character. -/
structure At (opening closing text : List Char) (n : Nat) (s : Search) : Prop where
  opening_eq : s.opening = utf8 opening
  closing_eq : s.closing = utf8 closing
  text_eq : s.text = utf8 text
  cursor_eq : s.cursor = placeOf text n
  le_length : n ≤ text.length

variable {s : Search} {opening closing text : List Char} {n : Nat}

theorem at_ofStrings (opening closing text : String) :
  (ofStrings opening closing text).At opening.toList closing.toList text.toList 0
  := by
  constructor
  case cursor_eq => exact (Text.placeOf_zero _).symm
  case le_length => apply Nat.zero_le
  all_goals rfl

/-! ### The walk -/

/-- Where a text from some character on is cut at a delimiter, this stands behind what is skipped,
and the rest behind it. -/
theorem drop_of_cut?_drop {o : Delimiter} {m : Nat} {skipped tail rest : List Char}
    (htail : text.drop m = tail) (hcut : Text.cut? o.chars tail = some (skipped, rest)) :
  o.chars <+: text.drop (m + skipped.length)
    ∧ text.drop (m + skipped.length + o.chars.length) = rest
  := by
  rw [Nat.add_assoc, ← List.drop_drop, ← List.drop_drop, htail]
  constructor
  · apply Text.prefix_drop_of_cut? hcut
  · apply Text.drop_of_cut? hcut 0

theorem last_of_later?_eq_none (h : s.opening ≠ []) {k i : Nat} (hnone : s.later? k i = none) :
  s.last h k i = i
  := by
  rw [last]
  split <;> simp_all

theorem last_of_later?_eq_some (h : s.opening ≠ []) {k i next : Nat}
    (hnext : s.later? k i = some next) :
  s.last h k i = s.last h k next
  := by
  rw [last]
  split <;> simp_all

/-- A walk stands at an opening delimiter.  There are `n` characters from there to the end of the
walk, which are the first of what is behind the delimiter. -/
structure Walk (s : Search) (o : Delimiter) (text : List Char) (m stop n : Nat)
    (tail : List Char) : Prop where
  opening_eq : s.opening = utf8 o.chars
  text_eq : s.text = utf8 text
  stands : o.chars <+: text.drop m
  drop_eq : text.drop (m + o.chars.length) = tail
  stop_eq : m + o.chars.length + n = stop
  stop_le : stop ≤ text.length

section Walk

variable {o : Delimiter} {m stop : Nat} {tail skipped rest passed name : List Char}

/-- The next opening delimiter is where the rest is cut at it. -/
theorem Walk.later?_eq (w : s.Walk o text m stop n tail) (k : Nat) :
  s.later? k (placeOf text m)
    = ((Text.cut? o.chars tail).map
        fun (skipped, _) => placeOf text (m + o.chars.length + skipped.length)).filter (· < k)
  := by
  have hle : m + o.chars.length ≤ text.length := by
    have := w.stop_eq
    have := w.stop_le
    omega
  rw [later?, w.opening_eq, w.text_eq, ← Text.placeOf_add_length w.stands,
    Text.find?_placeOf o.nonempty hle, w.drop_eq]

/-- It counts if it begins in front of the end of the walk. -/
theorem Walk.later?_of_cut? (w : s.Walk o text m stop n tail)
    (hcut : Text.cut? o.chars tail = some (skipped, rest)) :
  s.later? (placeOf text stop) (placeOf text m)
    = if skipped.length < n then some (placeOf text (m + o.chars.length + skipped.length)) else none
  := by
  have hlength := Text.length_of_cut? hcut
  rw [← w.drop_eq, List.length_drop] at hlength
  have hpos := o.length_pos
  have hlt : m + o.chars.length + skipped.length < stop ↔ skipped.length < n := by
    rw [← w.stop_eq]
    omega
  rw [w.later?_eq, hcut, Option.map_some, Option.filter_some]
  simp only [Text.placeOf_lt_iff (show m + o.chars.length + skipped.length ≤ text.length by omega)
    w.stop_le, hlt, decide_eq_true_eq]

theorem Walk.last_of_cut? (w : s.Walk o text m stop n tail) (h : s.opening ≠ [])
    (hcut : Text.cut? o.chars tail = some (skipped, rest)) (hlt : skipped.length < n) :
  s.last h (placeOf text stop) (placeOf text m)
    = s.last h (placeOf text stop) (placeOf text (m + o.chars.length + skipped.length))
  := by
  apply last_of_later?_eq_some
  rw [w.later?_of_cut? hcut, if_pos hlt]

/-- If the next opening delimiter ends in front of the end of the walk, the walk goes on there. -/
theorem Walk.next (w : s.Walk o text m stop n tail)
    (hcut : Text.cut? o.chars tail = some (skipped, rest))
    (hle : skipped.length + o.chars.length ≤ n) :
  s.Walk o text (m + o.chars.length + skipped.length) stop
    (n - (skipped.length + o.chars.length)) rest
  := by
  obtain ⟨hstands, hdrop⟩ := drop_of_cut?_drop w.drop_eq hcut
  constructor
  case opening_eq => apply w.opening_eq
  case text_eq => apply w.text_eq
  case stands => apply hstands
  case drop_eq => apply hdrop
  case stop_eq =>
    rw [← w.stop_eq]
    omega
  case stop_le => apply w.stop_le

/-- The walk over the bytes ends at the opening delimiter where the walk over the characters
does. -/
theorem Walk.last_eq (w : s.Walk o text m stop n tail) (h : s.opening ≠ [])
    (hwalk : Delimiters.innermost? o tail n = some (passed, name)) :
  s.last h (placeOf text stop) (placeOf text m) = placeOf text (m + passed.length)
  := by
  fun_induction Delimiters.innermost? o tail n generalizing m passed with
  | case1 tail n hcut =>
      cases hwalk
      apply last_of_later?_eq_none
      rw [w.later?_eq, hcut]
      rfl
  | case2 tail n skipped rest hcut hle ih =>
      simp only [Option.map_eq_some_iff, Prod.exists, Prod.mk.injEq] at hwalk
      obtain ⟨passed', name', hwalk, rfl, rfl⟩ := hwalk
      have hpos := o.length_pos
      rw [w.last_of_cut? h hcut (by omega), ih (w.next hcut hle) hwalk]
      simp only [List.length_append, Nat.add_assoc]
  | case3 tail n skipped rest hcut hle hlt => contradiction
  | case4 tail n skipped rest hcut hle hge =>
      cases hwalk
      apply last_of_later?_eq_none
      rw [w.later?_of_cut? hcut, if_neg hge]

/-- Where the walk over the characters fails, the walk over the bytes ends at an opening delimiter
that reaches beyond the closing one. -/
theorem Walk.lt_last_add_length (w : s.Walk o text m stop n tail) (h : s.opening ≠ [])
    (hwalk : Delimiters.innermost? o tail n = none) :
  placeOf text stop < s.last h (placeOf text stop) (placeOf text m) + s.opening.length
  := by
  fun_induction Delimiters.innermost? o tail n generalizing m with
  | case1 tail n hcut => contradiction
  | case2 tail n skipped rest hcut hle ih =>
      rw [Option.map_eq_none_iff] at hwalk
      have hpos := o.length_pos
      rw [w.last_of_cut? h hcut (by omega)]
      apply ih (w.next hcut hle) hwalk
  | case3 tail n skipped rest hcut hle hlt =>
      obtain ⟨hstands, -⟩ := drop_of_cut?_drop w.drop_eq hcut
      have hreach := hstands.length_le
      rw [List.length_drop] at hreach
      have hpos := o.length_pos
      have hstop := w.stop_eq
      rw [w.last_of_cut? h hcut hlt]
      calc placeOf text stop
        _ < placeOf text (m + o.chars.length + skipped.length + o.chars.length) := by
          apply Text.placeOf_lt_placeOf
          · omega
          · omega
        _ = placeOf text (m + o.chars.length + skipped.length) + s.opening.length := by
          rw [w.opening_eq, Text.placeOf_add_length hstands]
        _ ≤ s.last h _ (placeOf text (m + o.chars.length + skipped.length)) + s.opening.length := by
          apply Nat.add_le_add_right (le_last h _ _)
  | case4 tail n skipped rest hcut hle hge => contradiction

/-- The walk over the characters ends at an opening delimiter. -/
theorem Walk.stands_last (w : s.Walk o text m stop n tail)
    (hwalk : Delimiters.innermost? o tail n = some (passed, name)) :
  o.chars <+: text.drop (m + passed.length)
  := by
  have hdrop : text.drop m = o.chars ++ tail := by
    rw [← w.drop_eq, ← List.drop_drop, ← List.prefix_iff_eq_append.mp w.stands, List.drop_left]
  rw [← List.drop_drop, hdrop, ← List.take_append_drop n tail, ← List.append_assoc,
    Delimiters.append_take_of_innermost? hwalk, List.append_assoc, List.append_assoc,
    List.drop_left]
  apply List.prefix_append

/-- What the walk passes and the name are what is between the first opening delimiter and the end
of the walk. -/
theorem Walk.length_eq (w : s.Walk o text m stop n tail)
    (hwalk : Delimiters.innermost? o tail n = some (passed, name)) :
  m + passed.length + o.chars.length + name.length = stop
  := by
  have hle : n ≤ tail.length := by
    have := w.stop_eq
    have := w.stop_le
    rw [← w.drop_eq, List.length_drop]
    omega
  rw [← w.stop_eq, Delimiters.length_of_innermost? hwalk hle]
  omega

/-- There are bytes between the delimiters if the name is not empty. -/
theorem Walk.last_add_length_lt_iff (w : s.Walk o text m stop n tail) (h : s.opening ≠ [])
    (hwalk : Delimiters.innermost? o tail n = some (passed, name)) :
  s.last h (placeOf text stop) (placeOf text m) + s.opening.length < placeOf text stop ↔ name ≠ []
  := by
  have hlength := w.length_eq hwalk
  have hstop := w.stop_le
  rw [w.last_eq h hwalk, w.opening_eq, ← Text.placeOf_add_length (w.stands_last hwalk),
    Text.placeOf_lt_iff (by omega) hstop, ← List.length_pos_iff]
  omega

end Walk

/-! ### The next tag -/

/-- Over the bytes the next tag is found where the first tag of what is left of the characters
stands. -/
theorem At.span?_eq {d : Delimiters} (h : s.At d.opening.chars d.closing.chars text n) :
  s.span? = (d.nextTag? (text.drop n)).map fun f =>
    (placeOf text (n + f.before.length),
      placeOf text (n + f.before.length + d.opening.chars.length + f.name.length))
  := by
  have hopening : s.opening ≠ [] := by
    rw [h.opening_eq, ne_eq, Text.utf8_eq_nil_iff]
    apply d.opening.nonempty
  have hclosing : s.closing ≠ [] := by
    rw [h.closing_eq, ne_eq, Text.utf8_eq_nil_iff]
    apply d.closing.nonempty
  rw [span?, dif_pos ⟨hopening, hclosing⟩, Delimiters.nextTag?]
  have hfirst := Text.find?_placeOf d.opening.nonempty h.le_length
  rw [← h.opening_eq, ← h.text_eq, ← h.cursor_eq] at hfirst
  rw [hfirst]
  cases hb : Text.cut? d.opening.chars (text.drop n) with
  | none => rfl
  | some parts =>
      obtain ⟨before, tail⟩ := parts
      obtain ⟨hstands, htail⟩ := drop_of_cut?_drop rfl hb
      have hlength := Text.length_of_cut? hb
      rw [List.length_drop] at hlength
      have hle := h.le_length
      have hbehind : n + before.length + d.opening.chars.length ≤ text.length := by omega
      have hk := Text.find?_placeOf d.closing.nonempty hbehind
      rw [← h.closing_eq, ← h.text_eq, Text.placeOf_add_length hstands, ← h.opening_eq, htail] at hk
      simp only [Option.map_some, Option.bind_eq_bind, Option.bind_some, hk]
      cases hc : Text.cut? d.closing.chars tail with
      | none => rfl
      | some parts =>
          obtain ⟨body, rest⟩ := parts
          have hbody := Text.length_of_cut? hc
          generalize hstop : n + before.length + d.opening.chars.length + body.length = stop
          have w : s.Walk d.opening text (n + before.length) stop body.length tail :=
            ⟨h.opening_eq, h.text_eq, hstands, htail, hstop, by omega⟩
          simp only [Option.map_some, Option.bind_some, hstop]
          cases hwalk : Delimiters.innermost? d.opening tail body.length with
          | none =>
              rw [if_neg (Nat.lt_asymm (w.lt_last_add_length hopening hwalk))]
              rfl
          | some parts =>
              obtain ⟨passed, name⟩ := parts
              have hroom := w.last_add_length_lt_iff hopening hwalk
              by_cases hname : name = []
              · rw [if_neg (mt hroom.mp (not_not_intro hname)), hname]
                rfl
              · have hlength := w.length_eq hwalk
                rw [if_pos (hroom.mpr hname), w.last_eq hopening hwalk]
                simp only [List.isEmpty_iff, if_neg hname, Option.map_some, List.length_append,
                  ← Nat.add_assoc, hlength]

/-- Nothing is a tag between delimiters of which one is empty. -/
theorem At.span?_eq_none (h : s.At opening closing text n) (hempty : opening = [] ∨ closing = []) :
  s.span? = none
  := by
  rw [← Text.utf8_eq_nil_iff, ← Text.utf8_eq_nil_iff, ← h.opening_eq, ← h.closing_eq] at hempty
  rw [span?, dif_neg]
  rintro ⟨hopening, hclosing⟩
  exact hempty.elim hopening hclosing

/-! ### The parts of a text -/

/-- A text from a character on: what is in front of a tag, the tag, and what is behind it. -/
structure Parts (opening closing text : List Char) (n : Nat) (f : Found) : Prop where
  drop_eq : text.drop n = f.before ++ (opening ++ (f.name ++ (closing ++ f.rest)))
  name_ne_nil : f.name ≠ []

section Parts

variable {f : Found}

theorem Parts.drop_before (h : Parts opening closing text n f) :
  text.drop (n + f.before.length) = opening ++ (f.name ++ (closing ++ f.rest))
  := by
  rw [← List.drop_drop, h.drop_eq, List.drop_left]

theorem Parts.drop_opening (h : Parts opening closing text n f) :
  text.drop (n + f.before.length + opening.length) = f.name ++ (closing ++ f.rest)
  := by
  rw [← List.drop_drop, h.drop_before, List.drop_left]

theorem Parts.drop_name (h : Parts opening closing text n f) :
  text.drop (n + f.before.length + opening.length + f.name.length) = closing ++ f.rest
  := by
  rw [← List.drop_drop, h.drop_opening, List.drop_left]

theorem Parts.drop_closing (h : Parts opening closing text n f) :
  text.drop (n + f.before.length + opening.length + f.name.length + closing.length) = f.rest
  := by
  rw [← List.drop_drop, h.drop_name, List.drop_left]

theorem Parts.le_length (h : Parts opening closing text n f) :
  n + f.before.length + opening.length + f.name.length + closing.length ≤ text.length
  := by
  have hlength := congrArg List.length h.drop_eq
  have hpos := List.length_pos_iff.mpr h.name_ne_nil
  simp only [List.length_drop, List.length_append] at hlength
  omega

theorem parts_of_nextTag? {d : Delimiters} (h : d.nextTag? (text.drop n) = some f) :
  Parts d.opening.chars d.closing.chars text n f
  := by
  constructor
  case drop_eq =>
    have hdrop := Delimiters.eq_append_of_nextTag? h
    simp only [Delimiters.source, List.append_assoc] at hdrop
    apply hdrop
  case name_ne_nil => apply Delimiters.name_ne_nil_of_nextTag? h

/-- The opening delimiter of a tag ends at the place of a character. -/
theorem At.add_opening (h : s.At opening closing text n) (hf : Parts opening closing text n f) :
  placeOf text (n + f.before.length) + s.opening.length
    = placeOf text (n + f.before.length + opening.length)
  := by
  rw [h.opening_eq, Text.placeOf_add_length ⟨_, hf.drop_before.symm⟩]

/-- So does the closing delimiter. -/
theorem At.add_closing (h : s.At opening closing text n) (hf : Parts opening closing text n f) :
  placeOf text (n + f.before.length + opening.length + f.name.length) + s.closing.length
    = placeOf text (n + f.before.length + opening.length + f.name.length + closing.length)
  := by
  rw [h.closing_eq, Text.placeOf_add_length ⟨_, hf.drop_name.symm⟩]

end Parts

/-- The places of the next tag are those of its delimiters in the characters that are left. -/
theorem At.exists_parts (h : s.At opening closing text n) {i k : Nat}
    (hspan : s.span? = some (i, k)) :
  ∃ f, Parts opening closing text n f ∧ i = placeOf text (n + f.before.length)
    ∧ k = placeOf text (n + f.before.length + opening.length + f.name.length)
  := by
  by_cases hempty : opening = [] ∨ closing = []
  · rw [h.span?_eq_none hempty] at hspan
    contradiction
  · rw [not_or] at hempty
    let d : Delimiters := ⟨⟨opening, hempty.1⟩, ⟨closing, hempty.2⟩⟩
    have hd : s.At d.opening.chars d.closing.chars text n := h
    rw [hd.span?_eq, Option.map_eq_some_iff] at hspan
    obtain ⟨f, hf, heq⟩ := hspan
    cases heq
    exact ⟨f, parts_of_nextTag? hf, rfl, rfl⟩

end Search

end StyleTags
