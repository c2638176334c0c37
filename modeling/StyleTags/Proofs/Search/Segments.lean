import StyleTags.Proofs.Search.NextTag
import Mathlib.Logic.Relation

/-!
# The segments of a search

A search that stands at the place of a character makes its next step, since the slices it takes
exist (`At.exists_next?`), and then stands at the place of a character again (`At.of_next?`); so it
does at whatever it comes to from the beginning of a text (`exists_at_of_reaches`).  All that it
hands out are the pieces of the text (`segments_ofStrings`).
-/

namespace StyleTags

open Text (utf8 placeOf)

/-- A piece as a segment: by its bytes, and a tag also by all that is written of it. -/
def Piece.segment (opening closing : List Char) : Piece → Segment
  | .plain text => .plain (utf8 text)
  | .tag name => .tag (utf8 name) (utf8 (opening ++ (name ++ closing)))

namespace Search

variable {s s' : Search} {opening closing text : List Char} {n : Nat}

/-! ### Steps -/

/-- The slice from the cursor to the end of the text exists. -/
theorem At.slice?_rest (h : s.At opening closing text n) :
  Text.slice? s.text s.cursor s.text.length = some (utf8 (text.drop n))
  := by
  rw [h.text_eq, h.cursor_eq, ← Text.placeOf_length, Text.slice?_placeOf h.le_length (Nat.le_refl _),
    List.take_length]

theorem At.drop_eq_nil_iff (h : s.At opening closing text n) :
  text.drop n = [] ↔ s.text.length ≤ s.cursor
  := by
  rw [List.drop_eq_nil_iff, h.text_eq, h.cursor_eq, ← Text.placeOf_length,
    Text.placeOf_le_iff (Nat.le_refl _) h.le_length]

section Tag

variable {f : Found}

/-- A search that finds a tag hands out what is in front of it, or the tag if there is nothing. -/
theorem At.next?_of_span? (h : s.At opening closing text n) (hpending : s.pending = none)
    (hf : Parts opening closing text n f)
    (hspan : s.span? = some (placeOf text (n + f.before.length),
      placeOf text (n + f.before.length + opening.length + f.name.length))) :
  let found := Piece.segment opening closing (.tag f.name)
  let stop :=
    placeOf text (n + f.before.length + opening.length + f.name.length + closing.length)
  s.next? = if f.before = [] then
      some (some found, { s with cursor := stop })
    else
      some (some (.plain (utf8 f.before)), { s with cursor := stop, pending := some found })
  := by
  intro found stop
  have hlength := hf.le_length
  have hcursor : ¬ s.text.length ≤ s.cursor := by
    rw [← h.drop_eq_nil_iff, hf.drop_eq]
    simp [hf.name_ne_nil]
  have hname := Text.slice?_part (by omega) hf.drop_opening
  have hbefore := Text.slice?_part h.le_length hf.drop_eq
  have hwhole : text.drop (n + f.before.length) = (opening ++ (f.name ++ closing)) ++ f.rest := by
    rw [hf.drop_before]
    simp only [List.append_assoc]
  have hsource := Text.slice?_part (by omega) hwhole
  rw [List.length_append, List.length_append, ← Nat.add_assoc, ← Nat.add_assoc] at hsource
  rw [← h.text_eq] at hname hbefore hsource
  rw [← h.cursor_eq] at hbefore
  rw [next?, hpending]
  simp only [if_neg hcursor, hspan, h.add_opening hf, h.add_closing hf, hname, hsource, hbefore,
    Option.bind_eq_bind, Option.bind_some, List.isEmpty_iff, Text.utf8_eq_nil_iff]
  rfl

/-- Behind a tag a search stands at the place of a character again. -/
theorem At.behind (h : s.At opening closing text n) (hf : Parts opening closing text n f)
    (pending : Option Segment) :
  At opening closing text
    (n + f.before.length + opening.length + f.name.length + closing.length)
    { s with
      cursor := placeOf text
        (n + f.before.length + opening.length + f.name.length + closing.length),
      pending }
  := ⟨h.opening_eq, h.closing_eq, h.text_eq, rfl, hf.le_length⟩

end Tag

/-- A search that finds no tag hands out what is left of the text. -/
theorem At.next?_of_span?_eq_none (h : s.At opening closing text n) (hpending : s.pending = none)
    (hcursor : s.cursor < s.text.length) (hspan : s.span? = none) :
  s.next? = some (some (.plain (utf8 (text.drop n))), { s with cursor := s.text.length })
  := by
  have hrest : text.drop n ≠ [] := mt h.drop_eq_nil_iff.mp (Nat.not_le.mpr hcursor)
  rw [next?, hpending]
  simp only [if_neg (Nat.not_le.mpr hcursor), hspan, rest?, h.slice?_rest, hpending,
    Option.bind_eq_bind, Option.bind_some, List.isEmpty_iff, Text.utf8_eq_nil_iff, if_neg hrest]

/-- A pending tag is handed out. -/
theorem next?_of_pending {tag : Segment} (hpending : s.pending = some tag) :
  s.next? = some (some tag, { s with pending := none })
  := by
  rw [next?, hpending]

/-- At the end of the text nothing is handed out any more. -/
theorem next?_of_le (hpending : s.pending = none) (hend : s.text.length ≤ s.cursor) :
  s.next? = some (none, s)
  := by
  rw [next?, hpending]
  apply if_pos hend

/-- A search that stands at the place of a character does not break down. -/
theorem At.exists_next? (h : s.At opening closing text n) :
  ∃ found s', s.next? = some (found, s')
  := by
  cases hpending : s.pending with
  | some tag => exact ⟨_, _, next?_of_pending hpending⟩
  | none =>
      rcases Nat.lt_or_ge s.cursor s.text.length with hcursor | hend
      · cases hspan : s.span? with
        | none => exact ⟨_, _, h.next?_of_span?_eq_none hpending hcursor hspan⟩
        | some places =>
            obtain ⟨i, k⟩ := places
            obtain ⟨f, hf, rfl, rfl⟩ := h.exists_parts hspan
            rw [h.next?_of_span? hpending hf hspan]
            split
            · exact ⟨_, _, rfl⟩
            · exact ⟨_, _, rfl⟩
      · exact ⟨_, _, next?_of_le hpending hend⟩

/-- A step leads from the place of a character to that of another. -/
theorem At.of_next? (h : s.At opening closing text n) {found : Option Segment}
    (hnext : s.next? = some (found, s')) :
  ∃ n', s'.At opening closing text n'
  := by
  cases step_of_next? hnext with
  | pending hpending => exact ⟨n, h.opening_eq, h.closing_eq, h.text_eq, h.cursor_eq, h.le_length⟩
  | done hpending hend => exact ⟨n, h⟩
  | rest hpending hcursor hspan =>
      use text.length
      constructor
      case cursor_eq => rw [h.text_eq, Text.placeOf_length]
      case le_length => apply Nat.le_refl
      case opening_eq => apply h.opening_eq
      case closing_eq => apply h.closing_eq
      case text_eq => apply h.text_eq
  | tag hpending hcursor hspan =>
      obtain ⟨f, hf, rfl, rfl⟩ := h.exists_parts hspan
      rw [h.add_closing hf]
      exact ⟨_, h.behind hf s.pending⟩
  | run hpending hcursor hspan =>
      obtain ⟨f, hf, rfl, rfl⟩ := h.exists_parts hspan
      rw [h.add_closing hf]
      exact ⟨_, h.behind hf _⟩

/-! ### Runs -/

/-- A search comes to stand as another in some number of steps. -/
def Reaches : Search → Search → Prop :=
  Relation.ReflTransGen fun s s' => ∃ found, s.next? = some (found, s')

/-- However far a search has come, it stands at the place of a character. -/
theorem exists_at_of_reaches {opening closing text : String}
    (h : (ofStrings opening closing text).Reaches s) :
  ∃ n, s.At opening.toList closing.toList text.toList n
  := by
  induction h with
  | refl => exact ⟨0, at_ofStrings opening closing text⟩
  | tail hreach hstep ih =>
      obtain ⟨n, hn⟩ := ih
      obtain ⟨found, hnext⟩ := hstep
      apply hn.of_next? hnext

/-- A tag is pending behind the step that found it, and this has moved the cursor. -/
theorem exists_next?_of_pending {start : Search} (hstart : start.pending = none)
    (h : start.Reaches s) {tag : Segment} (hpending : s.pending = some tag) :
  ∃ s₀ run, start.Reaches s₀ ∧ s₀.pending = none ∧ s₀.next? = some (some (.plain run), s)
    ∧ s₀.cursor < s.cursor
  := by
  rcases Relation.ReflTransGen.cases_tail h with rfl | ⟨s₀, hreach, found, hnext⟩
  · rw [hstart] at hpending
    contradiction
  · cases step_of_next? hnext with
    | pending hpending₀ => contradiction
    | done hpending₀ hend =>
        rw [hpending₀] at hpending
        contradiction
    | rest hpending₀ hcursor hspan =>
        rw [hpending₀] at hpending
        contradiction
    | tag hpending₀ hcursor hspan =>
        rw [hpending₀] at hpending
        contradiction
    | @run i k run name source hpending₀ hcursor hspan =>
        have := lt_of_span? hspan
        use s₀, run, hreach, hpending₀, hnext
        dsimp only
        omega

/-! ### All segments -/

theorem segments_of_next?_eq_none (h : s.next? = some (none, s')) :
  s.segments = some []
  := by
  rw [segments]
  split <;> simp_all

theorem segments_of_next?_eq_some {segment : Segment} (h : s.next? = some (some segment, s')) :
  s.segments = s'.segments.map (segment :: ·)
  := by
  rw [segments]
  split <;> simp_all

/-- A search that finds no tag hands out what is left of the text, if there is anything, and that is
all. -/
theorem At.segments_of_span?_eq_none (h : s.At opening closing text n) (hpending : s.pending = none)
    (hspan : s.span? = none) :
  s.segments = some ((Piece.run (text.drop n)).map (Piece.segment opening closing))
  := by
  by_cases hrest : text.drop n = []
  · have hend := h.drop_eq_nil_iff.mp hrest
    rw [segments_of_next?_eq_none (next?_of_le hpending hend), hrest]
    rfl
  · have hcursor := Nat.not_le.mp (mt h.drop_eq_nil_iff.mpr hrest)
    have hafter : next? { s with cursor := s.text.length } = some (none, _) :=
      next?_of_le hpending (Nat.le_refl _)
    rw [segments_of_next?_eq_some (h.next?_of_span?_eq_none hpending hcursor hspan),
      segments_of_next?_eq_none hafter, Piece.run, if_neg (by rwa [List.isEmpty_iff])]
    rfl

/-- A pending tag is handed out first. -/
theorem segments_of_pending {tag : Segment} (hpending : s.pending = some tag) :
  s.segments = (segments { s with pending := none }).map (tag :: ·)
  := segments_of_next?_eq_some (next?_of_pending hpending)

/-- A search that finds a tag hands out what is in front of it, if there is anything, then the tag,
and then what it finds behind it. -/
theorem At.segments_of_span? (h : s.At opening closing text n) (hpending : s.pending = none)
    {f : Found} (hf : Parts opening closing text n f)
    (hspan : s.span? = some (placeOf text (n + f.before.length),
      placeOf text (n + f.before.length + opening.length + f.name.length))) :
  s.segments
    = (segments { s with
        cursor := placeOf text
          (n + f.before.length + opening.length + f.name.length + closing.length) }).map
      fun behind =>
        (Piece.run f.before ++ [Piece.tag f.name]).map (Piece.segment opening closing) ++ behind
  := by
  have hnext := h.next?_of_span? hpending hf hspan
  dsimp only at hnext
  by_cases hbefore : f.before = []
  · rw [if_pos hbefore] at hnext
    rw [segments_of_next?_eq_some hnext, hbefore]
    rfl
  · rw [if_neg hbefore] at hnext
    rw [segments_of_next?_eq_some hnext, segments_of_pending rfl, Piece.run,
      if_neg (by rwa [List.isEmpty_iff]), Option.map_map, ← hpending]
    rfl

/-- What a search hands out are the pieces of what is left of the text. -/
theorem At.segments_eq {d : Delimiters} (h : s.At d.opening.chars d.closing.chars text n)
    (hpending : s.pending = none) :
  s.segments
    = some ((d.pieces (text.drop n)).map (Piece.segment d.opening.chars d.closing.chars))
  := by
  -- the recursion of the pieces: behind a tag the search stands in front of what is left
  generalize hrest : text.drop n = rest
  fun_induction d.pieces rest generalizing s n with
  | case1 rest hnone =>
      rw [← hrest]
      apply h.segments_of_span?_eq_none hpending
      rw [h.span?_eq, hrest, hnone]
      rfl
  | case2 rest f hf ih =>
      rw [← hrest] at hf
      have hparts := parts_of_nextTag? hf
      have hspan := h.span?_eq
      rw [hf, Option.map_some] at hspan
      have hbehind := ih (h.behind hparts s.pending) hpending hparts.drop_closing
      rw [h.segments_of_span? hpending hparts hspan, hbehind, Option.map_some, ← List.map_append,
        List.append_assoc, List.singleton_append]

/-- What a search of a text hands out are its pieces. -/
theorem segments_ofStrings (opening closing text : String) :
  (ofStrings opening closing text).segments
    = some ((Piece.scan opening closing text).map (Piece.segment opening.toList closing.toList))
  := by
  have h := at_ofStrings opening closing text
  unfold Piece.scan
  split
  · next d hd =>
    obtain ⟨hopening, hclosing⟩ := Delimiters.ofStrings_eq_ok_iff.mp hd
    rw [← hopening, ← hclosing] at h ⊢
    apply h.segments_eq rfl
  · next error herror =>
    have hempty : opening.toList = [] ∨ closing.toList = [] := by
      by_contra hne
      rw [not_or, String.toList_eq_nil_iff, String.toList_eq_nil_iff] at hne
      obtain ⟨d, hd, -⟩ := Delimiters.exists_ofStrings_eq_ok hne.1 hne.2
      rw [hd] at herror
      contradiction
    apply h.segments_of_span?_eq_none rfl (h.span?_eq_none hempty)

/-- The second opening delimiter begins in front of the closing one and reaches beyond it, so that
there is no tag. -/
example :
  (ofStrings "«é" "é»" "«éx«é»").segments = some [.plain (utf8 "«éx«é»".toList)]
  := by
  rw [segments_ofStrings]
  decide +kernel

end Search

end StyleTags
