import StyleTags.Proofs.Piece.FirstTag
import StyleTags.Proofs.Piece.Place
import Mathlib.Data.List.Chain

/-!
# A text divided into its pieces

`Divides` says what it means that a row of pieces divides a text: written out, the pieces
are the text; plain runs are neither empty nor next to each other; tags have names, and
inside a name neither delimiter begins.  A tag put in front of a row that divides the rest
of a text makes a row that divides the text (`Divides.cons`), and so the pieces of every
text divide it, between any two given texts (`scan_lossless_wellFormed`).
-/

namespace StyleTags.Piece

/-- Whether a piece is a run of text outside all tags. -/
def isPlain : Piece → Bool
  | .plain _ => true
  | .tag _ => false

/-- A row of pieces divides a text. -/
structure Divides (opening closing text : List Char) (row : List Piece) : Prop where
  /-- Written one after the other, the pieces are the text. -/
  written_eq : row.flatMap (written opening closing) = text
  /-- No plain run is empty. -/
  run_ne_nil : ∀ run, .plain run ∈ row → run ≠ []
  /-- No two plain runs follow each other. -/
  apart : row.IsChain (fun p q => ¬ (p.isPlain = true ∧ q.isPlain = true))
  /-- Every tag has a name. -/
  name_ne_nil : ∀ name, .tag name ∈ row → name ≠ []
  /-- Inside the name of a tag neither delimiter begins, be it to reach beyond the name. -/
  inside : ∀ start name, (start, .tag name) ∈ placed opening closing 0 row →
    ∀ n < name.length, ¬ opening <+: text.drop (start + opening.length + n)
      ∧ ¬ closing <+: text.drop (start + opening.length + n)

variable {opening closing : List Char}

theorem eq_of_mem_run {p : Piece} {text : List Char} (h : p ∈ run text) :
  p = .plain text ∧ text ≠ []
  := by
  cases text with
  | nil => simp [run] at h
  | cons c cs => simpa [run] using h

theorem isChain_run {R : Piece → Piece → Prop} (text : List Char) :
  (run text).IsChain R
  := by
  cases text with
  | nil => apply List.isChain_nil
  | cons c cs => apply List.isChain_singleton

/-- A text without tags is one run, or nothing where it is empty. -/
theorem divides_run (text : List Char) :
  Divides opening closing text (run text)
  := by
  constructor
  case written_eq => apply flatMap_written_run
  case apart => apply isChain_run
  case run_ne_nil =>
    intro r hr
    obtain ⟨h, hne⟩ := eq_of_mem_run hr
    cases h
    apply hne
  case name_ne_nil =>
    intro name hname
    cases (eq_of_mem_run hname).1
  case inside =>
    intro start name hname
    cases (eq_of_mem_run (mem_of_mem_placed hname)).1

/-- A tag with a row that divides what follows it, behind a run of text in which it is the
first, divides the whole. -/
theorem Divides.cons {text before name rest : List Char} {row : List Piece}
    (h : Divides opening closing rest row)
    (htext : text = before ++ (opening ++ (name ++ closing)) ++ rest) (hname : name ≠ [])
    (hinside : ∀ n < name.length,
      ¬ opening <+: text.drop (before.length + opening.length + n)
        ∧ ¬ closing <+: text.drop (before.length + opening.length + n)) :
  Divides opening closing text (run before ++ .tag name :: row)
  := by
  constructor
  case written_eq =>
    rw [List.flatMap_append, List.flatMap_cons, flatMap_written_run, h.written_eq, htext]
    simp only [written, List.append_assoc]
  case run_ne_nil =>
    intro r hr
    rcases List.mem_append.mp hr with hr | hr
    · obtain ⟨hp, hne⟩ := eq_of_mem_run hr
      cases hp
      apply hne
    · apply h.run_ne_nil
      simpa using hr
  case apart =>
    apply List.IsChain.append (isChain_run before)
    · apply List.isChain_cons.mpr
      constructor
      · rintro q - ⟨htag, -⟩
        contradiction
      · apply h.apart
    · rintro p - q hq ⟨-, hplain⟩
      cases Option.some.inj hq
      contradiction
  case name_ne_nil =>
    intro name' hname'
    rcases List.mem_append.mp hname' with hr | hr
    · cases (eq_of_mem_run hr).1
    · rcases List.mem_cons.mp hr with htag | hrest
      · cases htag
        apply hname
      · apply h.name_ne_nil name' hrest
  case inside =>
    intro start name' hplaced n hn
    rcases mem_placed_run_append_iff.mp hplaced with ⟨rfl, rfl⟩ | ⟨i, rfl, hi⟩
    · apply hinside n hn
    · -- the tags that follow are inside a name in `rest`, which begins behind the first tag
      rw [htext, Nat.add_assoc, Nat.add_assoc, List.drop_length_add_append, ← Nat.add_assoc]
      apply h.inside i name' hi n hn

/-- Later pieces of a divided text have later places. -/
theorem Divides.pairwise_placed {text : List Char} {row : List Piece}
    (h : Divides opening closing text row) :
  (placed opening closing 0 row).Pairwise (fun a b => a.1 < b.1)
  := by
  apply Piece.pairwise_placed
  intro p hp
  cases p with
  | plain run => apply h.run_ne_nil run hp
  | tag name =>
      have hname := h.name_ne_nil name hp
      simp [written, hname]

/-- The tags of a divided text are listed from left to right. -/
theorem Divides.pairwise_tags {text : List Char} {row : List Piece}
    (h : Divides opening closing text row) :
  (tags opening closing row).Pairwise (fun a b => a.1 < b.1)
  := by
  apply List.Pairwise.filterMap _ _ h.pairwise_placed
  rintro ⟨i, p⟩ ⟨j, q⟩ hlt a ha b hb
  cases p with
  | plain run => contradiction
  | tag name =>
      cases q with
      | plain run => contradiction
      | tag name' =>
          cases ha
          cases hb
          apply hlt

/-- A character of a divided text that lies in no tag lies in a plain run. -/
theorem Divides.exists_run {text : List Char} {row : List Piece} {j : Nat}
    (h : Divides opening closing text row) (hj : j < text.length)
    (houtside : ∀ i name, (i, name) ∈ tags opening closing row →
      j < i ∨ i + (opening ++ (name ++ closing)).length ≤ j) :
  ∃ i run, (i, .plain run) ∈ placed opening closing 0 row ∧ i ≤ j
    ∧ run[j - i]? = text[j]?
  := by
  rw [← h.written_eq] at hj
  obtain ⟨i, p, hp, hle, hlt⟩ := exists_placed_of_lt hj
  cases p with
  | plain run =>
      use i, run, hp, hle
      obtain ⟨rest, hrest⟩ := written_prefix_of_mem_placed hp
      rw [h.written_eq] at hrest
      calc run[j - i]?
        _ = (run ++ rest)[j - i]? := by
          symm
          apply List.getElem?_append_left
          simp only [written] at hlt
          omega
        _ = (text.drop i)[j - i]? := by rw [← hrest, written]
        _ = text[j]? := by rw [List.getElem?_drop, Nat.add_sub_cancel' hle]
  | tag name =>
      have hout := houtside i name (mem_tags_iff.mpr hp)
      simp only [written] at hlt
      omega

end StyleTags.Piece

namespace StyleTags.Delimiters

open Piece

/-- The pieces of a text divide it. -/
theorem divides_pieces (d : Delimiters) (text : List Char) :
  Divides d.opening.chars d.closing.chars text (d.pieces text)
  := by
  induction text using pieces.induct d with
  | case1 text h =>
      rw [pieces_of_nextTag?_eq_none h]
      apply divides_run
  | case2 text f h ih =>
      rw [pieces_of_nextTag?_eq_some h]
      apply ih.cons
      case htext =>
        rw [List.append_assoc, eq_append_of_nextTag? h, source_eq_written]
        rfl
      case hname => apply name_ne_nil_of_nextTag? h
      case hinside =>
        intro n hn
        apply not_prefix_of_nextTag? h
        · omega
        · omega

end StyleTags.Delimiters

namespace StyleTags.Piece

/-- Between two given texts, be they empty or not, the pieces of a text divide it. -/
theorem divides_scan (opening closing text : String) :
  Divides opening.toList closing.toList text.toList (scan opening closing text)
  := by
  unfold scan
  cases h : Delimiters.ofStrings opening closing with
  | ok d =>
      obtain ⟨ho, hc⟩ := Delimiters.ofStrings_eq_ok_iff.mp h
      rw [← ho, ← hc]
      apply d.divides_pieces
  | error e => apply divides_run

/-- An empty text delimits nothing. -/
theorem tag_not_mem_scan {opening closing : String} (text : String) (name : List Char)
    (h : opening = "" ∨ closing = "") :
  .tag name ∉ scan opening closing text
  := by
  unfold scan
  cases hd : Delimiters.ofStrings opening closing with
  | ok d =>
      obtain ⟨ho, hc⟩ := Delimiters.ofStrings_eq_ok_iff.mp hd
      rcases h with rfl | rfl
      · apply (d.opening.nonempty ho).elim
      · apply (d.closing.nonempty hc).elim
  | error e =>
      intro hname
      cases (eq_of_mem_run hname).1

/-- Where a text stands in another, it begins inside of it unless it is empty. -/
theorem exists_prefix_drop_of_infix {pattern text : List Char} (hne : pattern ≠ [])
    (h : pattern <:+: text) :
  ∃ n < text.length, ∀ rest, pattern <+: (text ++ rest).drop n
  := by
  obtain ⟨a, b, rfl⟩ := h
  use a.length
  have := List.length_pos_iff.mpr hne
  constructor
  · simp only [List.length_append]
    omega
  · intro rest
    rw [List.append_assoc, List.append_assoc, List.drop_left]
    apply List.prefix_append

/-- The name of a tag contains no text that does not begin inside of it. -/
theorem Divides.not_infix_name {opening closing text : List Char} {row : List Piece}
    (h : Divides opening closing text row) {start : Nat} {name : List Char}
    (hplaced : (start, .tag name) ∈ placed opening closing 0 row)
    (ho : opening ≠ []) (hc : closing ≠ []) :
  ¬ opening <:+: name ∧ ¬ closing <:+: name
  := by
  have hstands := written_prefix_of_mem_placed hplaced
  rw [h.written_eq] at hstands
  obtain ⟨rest, hrest⟩ := hstands
  -- behind the opening delimiter the text goes on with the name
  have hname : text.drop (start + opening.length) = name ++ (closing ++ rest) := by
    rw [← List.drop_drop, ← hrest]
    simp only [written, List.append_assoc, List.drop_left]
  have hbegins : ∀ pattern, pattern ≠ [] → pattern <:+: name →
      ∃ n < name.length, pattern <+: text.drop (start + opening.length + n) := by
    intro pattern hne hinfix
    obtain ⟨n, hn, hprefix⟩ := exists_prefix_drop_of_infix hne hinfix
    use n, hn
    rw [← List.drop_drop, hname]
    apply hprefix
  constructor
  · intro hinfix
    obtain ⟨n, hn, hprefix⟩ := hbegins opening ho hinfix
    apply (h.inside start name hplaced n hn).1 hprefix
  · intro hinfix
    obtain ⟨n, hn, hprefix⟩ := hbegins closing hc hinfix
    apply (h.inside start name hplaced n hn).2 hprefix

/-- Between two given texts, the pieces of a text divide it.  A tag stands in the text, at
its place, as its name between the two delimiters, and its name contains neither of them.
There is no tag where one of the delimiters is empty. -/
theorem scan_lossless_wellFormed (opening closing text : String) :
  Divides opening.toList closing.toList text.toList (scan opening closing text)
    ∧ (∀ start name,
        (start, .tag name) ∈ placed opening.toList closing.toList 0 (scan opening closing text) →
        opening.toList ++ (name ++ closing.toList) <+: text.toList.drop start
          ∧ ¬ opening.toList <:+: name ∧ ¬ closing.toList <:+: name)
    ∧ (opening = "" ∨ closing = "" → ∀ name, .tag name ∉ scan opening closing text)
  := by
  have h := divides_scan opening closing text
  constructor
  · apply h
  constructor
  · intro start name hplaced
    have hne : ¬ (opening = "" ∨ closing = "") := by
      intro hempty
      apply tag_not_mem_scan text name hempty (mem_of_mem_placed hplaced)
    rw [not_or] at hne
    constructor
    · have hstands := written_prefix_of_mem_placed hplaced
      rw [h.written_eq] at hstands
      apply hstands
    · apply h.not_infix_name hplaced
      · simpa using hne.1
      · simpa using hne.2
  · intro hempty name
    apply tag_not_mem_scan text name hempty

end StyleTags.Piece
