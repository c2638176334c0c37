import StyleTags.Proofs.Piece.Append
import StyleTags.Proofs.Printer.Stream
import StyleTags.Proofs.Renderer.History

/-!
# Writing a text in parts

Pieces that follow others are rendered with the codebook that these have left
(`Codebook.render_append`).  So a text that ends with a tag can be written by itself: what follows
it is scanned and rendered as if it had been written together with it, provided that the opening
delimiter does not contain the closing one (`append_keeps_tags`).
-/

namespace StyleTags

/-- One step of work and then another, in the state that the first one leaves; the answers are put
one behind the other. -/
def Outcome.andThen {σ α : Type} [Append α] (o : Outcome σ α) (next : σ → Outcome σ α) :
    Outcome σ α :=
  ⟨o.answer ++ (next o.state).answer, (next o.state).state, o.events ++ (next o.state).events⟩

/-- Pieces are rendered one after the other. -/
theorem Codebook.render_append (d : Delimiters) (mode : Mode) (book : Codebook)
    (row row' : List Piece) :
  book.render d mode (row ++ row')
    = (book.render d mode row).andThen fun book => book.render d mode row'
  := by
  induction row generalizing book with
  | nil => rfl
  | cons p row ih =>
      cases p with
      | plain text =>
          rw [List.cons_append, render, ih, render]
          simp only [Outcome.andThen, Outcome.map, List.append_assoc]
      | tag name =>
          simp only [List.cons_append, render, ih, Outcome.andThen, List.append_assoc]

namespace Renderer

variable {r : Renderer} {a : String} {name : List Char}

/-- A text that ends with a tag is rendered by itself, and what follows it after it. -/
theorem renderAs_append
    (hfree : ¬ r.settings.delimiters.closing.chars <:+: r.settings.delimiters.opening.chars)
    (hlast : (r.settings.delimiters.pieces a.toList).getLast? = some (.tag name)) (mode : Mode)
    (b : String) :
  r.renderAs mode (a ++ b) = (r.renderAs mode a).andThen fun r => r.renderAs mode b
  := by
  by_cases hmode : mode = .ignore
  · simp only [renderAs, if_pos hmode]
    rfl
  · simp only [renderAs, if_neg hmode]
    rw [String.toList_append, Delimiters.pieces_append_of_tag hfree hlast, Codebook.render_append]
    simp only [Outcome.andThen, Outcome.map, Outcome.lift, String.ofList_append]

theorem render_append
    (hfree : ¬ r.settings.delimiters.closing.chars <:+: r.settings.delimiters.opening.chars)
    (hlast : (r.settings.delimiters.pieces a.toList).getLast? = some (.tag name)) (b : String) :
  r.render (a ++ b) = (r.render a).andThen fun r => r.render b
  := by
  have hsettings := settings_renderAs r r.settings.mode a
  rw [render, renderAs_append hfree hlast]
  simp only [Outcome.andThen, render, hsettings]

end Renderer

namespace Printer

variable {p : Printer}

/-- What a sink without bound holds after some calls. -/
theorem held_run (h : p.sink.capacity = none) (calls : List Call) :
  (Outcome.run perform p calls).state.sink.held
    = p.sink.held ++ (Outcome.run Call.offer p.renderer calls).answer.flatten
  := by
  have hoffered : p.sink.Offered none p.sink.held := ⟨h, rfl⟩
  apply (offered_run hoffered calls).held_eq

theorem offer_markup (r : Renderer) (text : String) :
  Call.offer r (.write (.markup text false))
    = (r.render text).map fun shown => Text.utf8 shown.toList
  := by
  simp [Call.offer, Write.output, Write.lineEnd, Outcome.map]

/-- A text that ends with a tag can be written by itself. -/
theorem held_write_append (h : p.sink.capacity = none) {a : String} {name : List Char}
    (hfree : ¬ p.renderer.settings.delimiters.closing.chars
      <:+: p.renderer.settings.delimiters.opening.chars)
    (hlast : (p.renderer.settings.delimiters.pieces a.toList).getLast? = some (.tag name))
    (b : String) :
  (Outcome.run perform p
      [.write (.markup a false), .write (.markup b false)]).state.sink.held
    = (Outcome.run perform p [.write (.markup (a ++ b) false)]).state.sink.held
  := by
  rw [held_run h, held_run h]
  simp only [Outcome.run, offer_markup, Renderer.render_append hfree hlast, Outcome.map,
    Outcome.andThen, String.toList_append, Text.utf8_append, List.flatten_cons, List.flatten_nil,
    List.append_nil]

/-- Let the opening delimiter not contain the closing one.  With more text behind a text, its tags
come first among the tags of the whole.  Behind a text that ends with a tag, what follows is
scanned by itself, and the two can be written one after the other.  Where scanning ended at an
opening delimiter that is closed, and so with no name between two delimiters, all that follows is
put behind the last run. -/
theorem append_keeps_tags {opening closing : String} (ho : opening ≠ "") (hc : closing ≠ "")
    (hfree : ¬ closing.toList <:+: opening.toList) (a b : String) :
  let row := Piece.scan opening closing a
  let whole := Piece.scan opening closing (a ++ b)
  Piece.tags opening.toList closing.toList row <+: Piece.tags opening.toList closing.toList whole
    ∧ (∀ name, row.getLast? = some (.tag name) →
      whole = row ++ Piece.scan opening closing b
        ∧ ∀ p : Printer, p.renderer.settings.opening = opening →
          p.renderer.settings.closing = closing → p.sink.capacity = none →
          (Outcome.run perform p
              [.write (.markup a false), .write (.markup b false)]).state.sink.held
            = (Outcome.run perform p [.write (.markup (a ++ b) false)]).state.sink.held)
    ∧ ∀ last, row.getLast? = some (.plain last) →
      Piece.Closed opening.toList closing.toList last →
      whole = row.dropLast ++ [.plain (last ++ b.toList)]
  := by
  intro row whole
  obtain ⟨d, hd, -, -⟩ := Delimiters.exists_ofStrings_eq_ok ho hc
  obtain ⟨hopening, hclosing⟩ := Delimiters.ofStrings_eq_ok_iff.mp hd
  have hrow : row = d.pieces a.toList := Piece.scan_eq_pieces hd a
  have hwhole : whole = d.pieces (a.toList ++ b.toList) := by
    rw [← String.toList_append]
    apply Piece.scan_eq_pieces hd
  rw [← hopening, ← hclosing] at hfree
  rw [← hopening, ← hclosing, hrow, hwhole]
  refine ⟨?tags, ?tag, ?closed⟩
  case tags => apply Delimiters.tags_prefix_tags_append hfree
  case tag =>
    intro name hlast
    rw [Piece.scan_eq_pieces hd]
    apply And.intro (Delimiters.pieces_append_of_tag hfree hlast)
    intro p hpo hpc hsink
    have hsame : p.renderer.settings.delimiters = d := by
      have hforce := p.renderer.settings.ofStrings_opening_closing
      rw [hpo, hpc, hd] at hforce
      cases hforce
      rfl
    rw [← hsame] at hfree hlast
    apply held_write_append hsink hfree hlast
  case closed =>
    intro last hlast hclosed
    apply Delimiters.pieces_append_of_closed hfree hlast hclosed

/-- A text that ends with a tag, and one with an empty tag. -/
theorem append_behind_tag :
  let p : Printer :=
    { renderer := Renderer.standard.run [.useDelimiters "<!" ">"]
      sink := { appetite := fun _ _ => 3 } }
  "<!" ≠ "" ∧ ">" ≠ "" ∧ ¬ ">".toList <:+: "<!".toList
    ∧ Piece.scan "<!" ">" "x<!red>" = [.plain ['x'], .tag ['r', 'e', 'd']]
    ∧ Piece.scan "<!" ">" ("x<!red>" ++ "<!Teal>")
      = [.plain ['x'], .tag ['r', 'e', 'd'], .tag ['T', 'e', 'a', 'l']]
    ∧ (Outcome.run perform p [.write (.markup "x<!red>" false),
        .write (.markup "<!Teal>" false)]).state.sink.held
      = (Outcome.run perform p [.write (.markup ("x<!red>" ++ "<!Teal>") false)]).state.sink.held
    ∧ Piece.scan "<!" ">" ("x<!>" ++ "<!Teal>") = [.plain "x<!><!Teal>".toList]
  := by
  intro p
  have ho : "<!" ≠ "" := by decide
  have hc : ">" ≠ "" := by decide
  have hfree : ¬ ">".toList <:+: "<!".toList := by decide
  have hrow : Piece.scan "<!" ">" "x<!red>" = [.plain ['x'], .tag ['r', 'e', 'd']] := by
    decide +kernel
  have hmore : Piece.scan "<!" ">" "<!Teal>" = [.tag ['T', 'e', 'a', 'l']] := by decide +kernel
  have hempty : Piece.scan "<!" ">" "x<!>" = [.plain "x<!>".toList] := by decide +kernel
  obtain ⟨-, htag, -⟩ := append_keeps_tags ho hc hfree "x<!red>" "<!Teal>"
  obtain ⟨-, -, hclosed⟩ := append_keeps_tags ho hc hfree "x<!>" "<!Teal>"
  rw [hrow, hmore] at htag
  rw [hempty] at hclosed
  obtain ⟨hwhole, hheld⟩ := htag ['r', 'e', 'd'] rfl
  refine ⟨ho, hc, hfree, hrow, hwhole, hheld p ?_ ?_ rfl, hclosed "x<!>".toList rfl ?_⟩
  · decide +kernel
  · decide +kernel
  · use ['x'], [], []
    rfl

/-- A tag gets lost if the text put behind it completes an opening delimiter in which the closing
one of the tag stands. -/
example :
  Piece.scan "<>!" ">" "<>!x<>" = [.tag ['x', '<']]
    ∧ Piece.scan "<>!" ">" ("<>!x<>" ++ "!") = [.plain "<>!x<>!".toList]
  := by decide +kernel

end Printer

end StyleTags
