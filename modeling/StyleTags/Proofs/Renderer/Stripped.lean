import StyleTags.Proofs.Piece.Characters
import StyleTags.Proofs.Renderer.Document

/-!
# Texts without their tags

When tags are removed from a text, the runs between them move together, and the tags without an
escape sequence stay.  What is left is a document of its own (`Document.left`).  If the runs of the
text had no character of the opening delimiter, no tag can arise where they meet: the document is
scanned back to the tags that stayed, and these have no escape sequence now either.  So the text is
final: it is shown as it is in every mode (`unmark_final`).
-/

namespace StyleTags

namespace Document

/-- A document with a run put in front of it. -/
def behind (run : List Char) (doc : Document) : Document :=
  match doc.marked with
  | [] => ⟨[], run ++ doc.last⟩
  | (first, name) :: marked => ⟨(run ++ first, name) :: marked, doc.last⟩

/-- What is left of a row of pieces when its tags are removed: the runs, with the tags between them
that have no escape sequence. -/
def left : List Piece → Document
  | [] => ⟨[], []⟩
  | .plain run :: row => (left row).behind run
  | .tag name :: row =>
    match escapeOf (String.ofList name) with
    | .ok _ => left row
    | .error _ => ⟨([], name) :: (left row).marked, (left row).last⟩

/-! ### A run in front -/

theorem fill_behind (put : List Char → List Char) (run : List Char) (doc : Document) :
  (doc.behind run).fill put = run ++ doc.fill put
  := by
  obtain ⟨marked, last⟩ := doc
  cases marked with
  | nil => rfl
  | cons part marked => simp [behind, fill]

/-- The names of a document stay what they are behind a run. -/
theorem map_name_behind (run : List Char) (doc : Document) :
  (doc.behind run).marked.map Prod.snd = doc.marked.map Prod.snd
  := by
  obtain ⟨marked, last⟩ := doc
  cases marked with
  | nil => rfl
  | cons part marked => rfl

theorem Fits.behind {d : Delimiters} {doc : Document} (h : doc.Fits d) {run : List Char}
    (hrun : ∀ c ∈ run, c ∉ d.opening.chars) :
  (doc.behind run).Fits d
  := by
  obtain ⟨marked, last⟩ := doc
  have hfront : ∀ behind, (∀ c ∈ behind, c ∉ d.opening.chars) →
      ∀ c ∈ run ++ behind, c ∉ d.opening.chars := by
    intro behind hbehind
    rw [List.forall_mem_append]
    exact ⟨hrun, hbehind⟩
  cases marked with
  | nil =>
      constructor
      case run_free => exact h.run_free
      case last_free => exact hfront last h.last_free
      case name_ne_nil => exact h.name_ne_nil
      case name_free => exact h.name_free
  | cons part marked =>
      have hparts := List.forall_mem_cons.mp h.run_free
      constructor
      case run_free => exact List.forall_mem_cons.mpr ⟨hfront part.1 hparts.1, hparts.2⟩
      case last_free => exact h.last_free
      case name_ne_nil =>
        exact List.forall_mem_cons.mpr (List.forall_mem_cons.mp h.name_ne_nil)
      case name_free =>
        exact List.forall_mem_cons.mpr (List.forall_mem_cons.mp h.name_free)

/-! ### What is left of a row -/

variable {d : Delimiters}

/-- Written out, what is left of a row is the row without its tags. -/
theorem fill_left (d : Delimiters) (row : List Piece) :
  (left row).fill (fun name => d.source (.tag name))
    = row.flatMap (Piece.shown d.opening.chars d.closing.chars .remove)
  := by
  induction row with
  | nil => rfl
  | cons p row ih =>
      rw [List.flatMap_cons, ← ih]
      cases p with
      | plain run => apply fill_behind
      | tag name =>
          rw [left, Piece.shown]
          cases escapeOf (String.ofList name) with
          | ok escape => rfl
          | error reason => simp [fill, Piece.source_eq_written]

/-- The tags that are left have no escape sequence. -/
theorem escapeOf_of_mem_left {row : List Piece} {part : List Char × List Char}
    (h : part ∈ (left row).marked) :
  ∃ reason, escapeOf (String.ofList part.2) = .error reason
  := by
  have hname : part.2 ∈ (left row).marked.map Prod.snd := List.mem_map_of_mem h
  clear h
  induction row with
  | nil => contradiction
  | cons p row ih =>
      cases p with
      | plain run =>
          rw [left, map_name_behind] at hname
          apply ih hname
      | tag name =>
          rw [left] at hname
          cases hanew : escapeOf (String.ofList name) with
          | ok escape =>
              rw [hanew] at hname
              apply ih hname
          | error reason =>
              rw [hanew, List.map_cons, List.mem_cons] at hname
              rcases hname with heq | hlater
              · use reason
                rw [heq, hanew]
              · apply ih hlater

/-- What is left of a row fits delimiters that cannot be taken for anything else in the row. -/
theorem fits_left {row : List Piece}
    (hrun : ∀ run, .plain run ∈ row → ∀ c ∈ run, c ∉ d.opening.chars)
    (hne : ∀ name, .tag name ∈ row → name ≠ [])
    (hname : ∀ name, .tag name ∈ row → ∀ c ∈ name, c ∉ d.opening.chars ∧ c ∉ d.closing.chars) :
  (left row).Fits d
  := by
  induction row with
  | nil => constructor <;> simp [left]
  | cons p row ih =>
      have hrest : (left row).Fits d := by
        apply ih
        · intro run hmem
          apply hrun run (List.mem_cons_of_mem p hmem)
        · intro name hmem
          apply hne name (List.mem_cons_of_mem p hmem)
        · intro name hmem
          apply hname name (List.mem_cons_of_mem p hmem)
      cases p with
      | plain run => apply hrest.behind (hrun run List.mem_cons_self)
      | tag name =>
          rw [left]
          cases escapeOf (String.ofList name) with
          | ok escape => apply hrest
          | error reason =>
              constructor
              case run_free => simpa using hrest.run_free
              case last_free => exact hrest.last_free
              case name_ne_nil =>
                exact List.forall_mem_cons.mpr ⟨hne name List.mem_cons_self, hrest.name_ne_nil⟩
              case name_free =>
                exact List.forall_mem_cons.mpr ⟨hname name List.mem_cons_self, hrest.name_free⟩

theorem name_mem_of_mem_pieces {doc : Document} {name : List Char} (h : .tag name ∈ doc.pieces) :
  ∃ part ∈ doc.marked, part.2 = name
  := by
  rw [pieces, List.mem_append, List.mem_flatMap] at h
  rcases h with ⟨part, hpart, hmem⟩ | hlast
  · use part, hpart
    rcases List.mem_append.mp hmem with hrun | htag
    · cases (Piece.eq_of_mem_run hrun).1
    · cases List.mem_singleton.mp htag
      rfl
  · cases (Piece.eq_of_mem_run hlast).1

end Document

namespace Renderer

/-! ### Rendering what is left -/

/-- Between two characters, what is left of a text fits them if they cannot open a tag in one of its
runs. -/
theorem fits_left_of_characters {p s : Char} {text : String}
    (hfree : ∀ run, .plain run ∈ (Delimiters.ofChars p s).pieces text.toList → p ∉ run) :
  (Document.left ((Delimiters.ofChars p s).pieces text.toList)).Fits (.ofChars p s)
  := by
  have hdivides := (Delimiters.ofChars p s).divides_pieces text.toList
  apply Document.fits_left
  · intro run hrun c hc hopening
    apply hfree run hrun
    rw [← List.mem_singleton.mp hopening]
    apply hc
  · apply hdivides.name_ne_nil
  · intro name hname c hc
    obtain ⟨i, hi⟩ := Piece.exists_mem_placed hname
    obtain ⟨ho, hs⟩ := hdivides.not_infix_name hi (List.cons_ne_nil _ _) (List.cons_ne_nil _ _)
    have hp : p ∉ name := by
      rw [← List.singleton_infix_iff]
      apply ho
    have hs : s ∉ name := by
      rw [← List.singleton_infix_iff]
      apply hs
    constructor
    · intro hmem
      rw [List.mem_singleton.mp hmem] at hc
      apply hp hc
    · intro hmem
      rw [List.mem_singleton.mp hmem] at hc
      apply hs hc

variable {r : Renderer} {met : List String}

/-- Removing the tags of a text leaves what is left of its pieces. -/
theorem answer_unmark_eq_left (h : r.book.Met met) (text : String) :
  (r.unmark text).answer
    = (Document.left (r.settings.delimiters.pieces text.toList)).text r.settings.delimiters
  := by
  rw [unmark, answer_renderAs h, shown, if_neg (by decide), Settings.scan_eq_pieces, Document.text,
    Document.fill_left]
  simp only [Settings.opening, Settings.closing, Delimiter.text, String.toList_ofList]

/-- What is left of a row of pieces is shown as it is. -/
theorem answer_renderAs_left (h : r.book.Met met) {row : List Piece}
    (hfits : (Document.left row).Fits r.settings.delimiters) (mode : Mode) :
  (r.renderAs mode ((Document.left row).text r.settings.delimiters)).answer
    = (Document.left row).text r.settings.delimiters
  := by
  by_cases hmode : mode = .ignore
  · rw [hmode]
    rfl
  · rw [answer_renderAs_document h hfits hmode, Document.text]
    congr 1
    apply Document.fill_congr
    intro part hpart
    obtain ⟨reason, hreason⟩ := Document.escapeOf_of_mem_left hpart
    rw [shownFor, answer_look h, hreason]

/-- A tag that is found in what is left of a row has no escape sequence. -/
theorem answer_look_of_mem_left (h : r.book.Met met) {d : Delimiters} {row : List Piece}
    (hfits : (Document.left row).Fits d) {name : List Char}
    (hname : .tag name ∈ Piece.scan d.opening.text d.closing.text ((Document.left row).text d)) :
  ∃ reason, (r.look (String.ofList name)).answer = .error reason
  := by
  rw [Document.scan_text hfits] at hname
  obtain ⟨part, hpart, rfl⟩ := Document.name_mem_of_mem_pieces hname
  obtain ⟨reason, hreason⟩ := Document.escapeOf_of_mem_left hpart
  rw [answer_look h, hreason]
  use if String.ofList part.2 ∈ met then .refusedBefore (String.ofList part.2) else reason

/-- If the opening character stands in none of the runs of a text, the text is final once its tags
are removed: removing them again changes nothing, the text is shown as it is in every mode, and the
tags that it still has are refused.  The same is shown by any other renderer that came to these
delimiters. -/
theorem unmark_final (p s : Char) {text : String}
    (hfree : ∀ run, .plain run ∈ Piece.scan (String.singleton p) (String.singleton s) text →
      p ∉ run)
    (opening closing : String) (mode : Mode) {calls : List Call}
    (hown : ∀ call ∈ calls, call.isOwn)
    (hdelimiters : ((start opening closing mode).answer.run calls).settings.delimiters
      = .ofChars p s) :
  let stripped := ((start opening closing mode).answer.run calls).unmark text
  (stripped.state.unmark stripped.answer).answer = stripped.answer
    ∧ (∀ m, (stripped.state.renderAs m stripped.answer).answer = stripped.answer)
    ∧ (∀ name,
        .tag name ∈ Piece.scan (String.singleton p) (String.singleton s) stripped.answer →
        ∃ reason, (stripped.state.look (String.ofList name)).answer = .error reason)
    ∧ ∀ opening' closing' mode' calls', (∀ call ∈ calls', call.isOwn) →
        let r := (start opening' closing' mode').answer.run calls'
        r.settings.delimiters = .ofChars p s →
        ∀ m, (r.renderAs m stripped.answer).answer = stripped.answer
  := by
  intro stripped
  rw [Piece.scan_singleton] at hfree
  have hmet := met_after_run opening closing mode hown
  have hafter : stripped.state.book.Met _ := met_renderAs hmet .remove text
  have hkept : stripped.state.settings.delimiters = .ofChars p s := by
    rw [← hdelimiters]
    apply congrArg Settings.delimiters (settings_renderAs _ .remove text)
  have hfits := fits_left_of_characters hfree
  have hleft : stripped.answer = _ := answer_unmark_eq_left hmet text
  rw [hdelimiters] at hleft
  have hshown : ∀ {r : Renderer} {met}, r.book.Met met →
      r.settings.delimiters = .ofChars p s →
      ∀ m, (r.renderAs m stripped.answer).answer = stripped.answer := by
    intro r met hmet hd m
    rw [← hd] at hfits
    have hagain := answer_renderAs_left hmet hfits m
    rw [hd, ← hleft] at hagain
    apply hagain
  refine ⟨?again, ?modes, ?tags, ?others⟩
  case again => apply hshown hafter hkept
  case modes => apply hshown hafter hkept
  case tags =>
    intro name hname
    rw [hleft] at hname
    apply answer_look_of_mem_left hafter hfits
    apply hname
  case others =>
    intro opening' closing' mode' calls' hown' r hd
    apply hshown (met_after_run opening' closing' mode' hown') hd

/-- A closing character by itself and a tag without an escape sequence stay, although a tag right
between them is removed. -/
theorem unmark_final_between_brackets :
  let r := standard.run [.useDelimiters "<" ">", .useDelimiters "[" "]", .look "bogus"]
  let text := "a]b[red]][bogus]c[fg:1:2:3]d"
  (∀ run, .plain run ∈ Piece.scan "[" "]" text → '[' ∉ run)
    ∧ r.settings.delimiters = .ofChars '[' ']'
    ∧ (r.unmark text).answer = "a]b][bogus]cd"
    ∧ ∀ m, ((r.unmark text).state.renderAs m "a]b][bogus]cd").answer = "a]b][bogus]cd"
  := by
  intro r text
  have hfree : ∀ run, .plain run ∈ Piece.scan "[" "]" text → '[' ∉ run := by
    have hscan : Piece.scan "[" "]" text
        = [.plain "a]b".toList, .tag "red".toList, .plain "]".toList, .tag "bogus".toList,
          .plain "c".toList, .tag "fg:1:2:3".toList, .plain "d".toList] := by decide +kernel
    rw [hscan]
    simp
  have hown : ∀ call ∈ [Call.useDelimiters "<" ">", .useDelimiters "[" "]", .look "bogus"],
      call.isOwn := by decide
  have hdelimiters : r.settings.delimiters = .ofChars '[' ']' := by decide +kernel
  obtain ⟨-, hmodes, -⟩ := unmark_final '[' ']' hfree "[" "]" .interpret hown hdelimiters
  have hmet : r.book.Met _ := met_after_run "[" "]" .interpret hown
  have hstripped : (r.unmark text).answer = _ := answer_renderAs hmet .remove text
  have htexts : r.settings.opening = "[" ∧ r.settings.closing = "]" := by decide +kernel
  have hshown : shown text "[" "]" .remove = "a]b][bogus]cd" := by decide +kernel
  rw [htexts.1, htexts.2, hshown] at hstripped
  have hagain : ∀ m, ((r.unmark text).state.renderAs m (r.unmark text).answer).answer
      = (r.unmark text).answer := hmodes
  rw [hstripped] at hagain
  exact ⟨hfree, hdelimiters, hstripped, hagain⟩

/-- Where the opening character stands in a run, removing a tag can make another. -/
example :
  shown "[[red]bold]" "[" "]" .remove = "[bold]" ∧ shown "[bold]" "[" "]" .remove = ""
  := by decide +kernel

end Renderer

end StyleTags
