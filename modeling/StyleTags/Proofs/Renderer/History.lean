import StyleTags.Proofs.Renderer.Run

/-!
# Rendering does not depend on history

`shown` is a text as it is shown between two delimiters in a mode, with every tag worked out
anew.  Whatever was rendered, looked up or refused before, a renderer shows a text in this
way between the delimiters that are in force (`answer_after_run`).
-/

namespace StyleTags

/-- A text as it is shown, worked out from the text, the delimiters and the mode alone. -/
def shown (text opening closing : String) (mode : Mode) : String :=
  if mode = .ignore then
    text
  else
    String.ofList ((Piece.scan opening closing text).flatMap
      (Piece.shown opening.toList closing.toList mode))

/-- The delimiters in force are those that their texts spell. -/
theorem Settings.ofStrings_opening_closing (s : Settings) :
  Delimiters.ofStrings s.opening s.closing = .ok s.delimiters
  := by
  rw [Delimiters.ofStrings_eq_ok_iff]
  constructor
  · symm
    apply String.toList_ofList
  · symm
    apply String.toList_ofList

/-- Scanning between the delimiters in force finds the pieces that are rendered. -/
theorem Settings.scan_eq_pieces (s : Settings) (text : String) :
  Piece.scan s.opening s.closing text = s.delimiters.pieces text.toList
  := Piece.scan_eq_pieces s.ofStrings_opening_closing text

namespace Renderer

theorem answer_renderAs {r : Renderer} {met : List String} (h : r.book.Met met) (mode : Mode)
    (text : String) :
  (r.renderAs mode text).answer = shown text r.settings.opening r.settings.closing mode
  := by
  rw [renderAs, shown]
  split
  · rfl
  · rw [Settings.scan_eq_pieces, Settings.opening, Settings.closing, Delimiter.text,
      Delimiter.text, String.toList_ofList, String.toList_ofList, ← Codebook.answer_render h]
    rfl

/-- The standard renderer is the one that starts between brackets and shows tags. -/
theorem standard_eq_start :
  standard = (start "[" "]" .interpret).answer
  := rfl

/-- The codebook of a new renderer is the catalog, whatever its delimiters are. -/
theorem book_start (opening closing : String) (mode : Mode) :
  (start opening closing mode).answer.book = .initial
  := by
  rw [start]
  split
  · rfl
  · rfl

/-- A new renderer that made some calls has met their names. -/
theorem met_after_run (opening closing : String) (mode : Mode) {calls : List Call}
    (hown : ∀ call ∈ calls, call.isOwn) :
  ((start opening closing mode).answer.run calls).book.Met
    (namesMet (start opening closing mode).answer.settings calls)
  := by
  have hmet : (start opening closing mode).answer.book.Met [] := by
    rw [book_start]
    apply Codebook.met_initial
  apply met_run hmet hown

/-- A name that is looked up has its escape sequence, or the reason why it has none the first
time that it is met. -/
theorem answer_look {r : Renderer} {met : List String} (h : r.book.Met met) (name : String) :
  (r.look name).answer
    = match escapeOf name with
      | .ok escape => .ok escape
      | .error reason => .error (if name ∈ met then .refusedBefore name else reason)
  := Codebook.answer_consult h name

/-- After any calls that leave the codebook to the renderer, the settings are those that the
calls have put in force, and every text is shown as it would be by a new renderer with these
settings. -/
theorem answer_after_run (opening closing : String) (mode : Mode) {calls : List Call}
    (hown : ∀ call ∈ calls, call.isOwn) (text : String) :
  let r := (start opening closing mode).answer.run calls
  let s := calls.foldl Settings.after (start opening closing mode).answer.settings
  r.settings = s
    ∧ (r.perform (.render text)).answer = .text (shown text s.opening s.closing s.mode)
    ∧ (∀ m, (r.perform (.renderAs m text)).answer = .text (shown text s.opening s.closing m))
    ∧ (r.perform (.unmark text)).answer = .text (shown text s.opening s.closing .remove)
  := by
  intro r s
  have hsettings : r.settings = s := settings_run _ calls
  have hmet : (start opening closing mode).answer.book.Met [] := by
    rw [book_start]
    apply Codebook.met_initial
  have hshown : ∀ m, (r.renderAs m text).answer = shown text s.opening s.closing m := by
    intro m
    rw [← hsettings]
    apply answer_renderAs (met_run hmet hown)
  use hsettings
  constructor
  · rw [← hshown, ← hsettings]
    rfl
  constructor
  · intro m
    rw [← hshown]
    rfl
  · rw [← hshown]
    rfl

/-- A tag that was refused under other delimiters and in another mode is still left as it was
written, and one that was worked out is dropped. -/
theorem answer_after_refusal :
  let calls : List Call :=
    [.render "[fg:Teal]x[bogus]", .look "bogus", .useMode .remove, .useDelimiters "<" ">"]
  (∀ call ∈ calls, call.isOwn) ∧ .look "bogus" ∈ calls
    ∧ ((standard.run calls).perform (.render "<fg:Teal>x<bogus>")).answer = .text "x<bogus>"
  := by
  intro calls
  have hown : ∀ call ∈ calls, call.isOwn := by decide
  have hshown : shown "<fg:Teal>x<bogus>" "<" ">" .remove = "x<bogus>" := by decide +kernel
  have hanswer := (answer_after_run "[" "]" .interpret hown "<fg:Teal>x<bogus>").2.1
  use hown, by decide
  rw [← hshown]
  apply hanswer

end Renderer

end StyleTags
