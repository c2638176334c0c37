import StyleTags.Proofs.Codebook.Meaning
import StyleTags.Renderer.Call

/-!
# Runs of a renderer

A run carries out calls one after the other.  What becomes of the settings can be told from
the calls alone (`settings_run`), and so can the names that the codebook meets, as long as
none of the calls writes into the codebook itself (`met_run`).
-/

namespace StyleTags

/-- The settings after a call. -/
def Settings.after (s : Settings) : Renderer.Call → Settings
  | .useMode mode => s.inMode mode
  | .useDelimiters opening closing =>
    match s.between opening closing with
    | .ok s' => s'
    | .error _ => s
  | _ => s

/-- The names that are met when a text is shown in a mode. -/
def Settings.names (s : Settings) (mode : Mode) (text : String) : List String :=
  if mode = .ignore then [] else Piece.names (s.delimiters.pieces text.toList)

namespace Renderer

/-- Whether a call leaves the codebook to the renderer. -/
def Call.isOwn : Call → Bool
  | .book (.learn ..) => false
  | .book (.refuse ..) => false
  | _ => true

/-- The names that are met in a call. -/
def Call.names (s : Settings) : Call → List String
  | .render text => s.names s.mode text
  | .renderAs m text => s.names m text
  | .unmark text => s.names .remove text
  | .look name => [name]
  | .book (.consult name) => [name]
  | _ => []

/-- The names that are met in calls made one after the other. -/
def namesMet : Settings → List Call → List String
  | _, [] => []
  | s, call :: calls => call.names s ++ namesMet (s.after call) calls

/-- The renderer after calls made one after the other. -/
def run (r : Renderer) (calls : List Call) : Renderer :=
  calls.foldl (fun r call => (r.perform call).state) r

/-! ### One call -/

variable {r : Renderer} {met : List String}

theorem settings_renderAs (r : Renderer) (mode : Mode) (text : String) :
  (r.renderAs mode text).state.settings = r.settings
  := by
  rw [renderAs]
  split
  · rfl
  · rfl

theorem settings_perform (r : Renderer) (call : Call) :
  (r.perform call).state.settings = r.settings.after call
  := by
  cases call with
  | render text => apply settings_renderAs
  | renderAs mode text => apply settings_renderAs
  | unmark text => apply settings_renderAs
  | useDelimiters opening closing =>
      simp only [perform, useDelimiters, Settings.after, Settings.between]
      cases Delimiters.ofStrings opening closing with
      | ok d => rfl
      | error e => rfl
  | _ => rfl

theorem met_renderAs (h : r.book.Met met) (mode : Mode) (text : String) :
  (r.renderAs mode text).state.book.Met (met ++ r.settings.names mode text)
  := by
  rw [renderAs, Settings.names]
  split
  · rw [List.append_nil]
    apply h
  · apply Codebook.met_render h

/-- A call that leaves the codebook to the renderer meets its names, and nothing else
becomes of the codebook. -/
theorem met_perform (h : r.book.Met met) {call : Call} (hown : call.isOwn) :
  (r.perform call).state.book.Met (met ++ call.names r.settings)
  := by
  have hsame : r.book.Met (met ++ []) := by
    rw [List.append_nil]
    apply h
  cases call with
  | render text => apply met_renderAs h
  | renderAs mode text => apply met_renderAs h
  | unmark text => apply met_renderAs h
  | look name => apply Codebook.met_consult h
  | useDelimiters opening closing =>
      simp only [perform, useDelimiters]
      cases Delimiters.ofStrings opening closing with
      | ok d => apply hsame
      | error e => apply hsame
  | book call =>
      cases call with
      | learn name escape => contradiction
      | refuse name => contradiction
      | consult name => apply Codebook.met_consult h
      | _ => apply hsame
  | _ => apply hsame

/-! ### Runs -/

theorem settings_run (r : Renderer) (calls : List Call) :
  (r.run calls).settings = calls.foldl Settings.after r.settings
  := by
  induction calls generalizing r with
  | nil => rfl
  | cons call calls ih =>
      rw [List.foldl_cons, ← settings_perform]
      apply ih

theorem met_run (h : r.book.Met met) {calls : List Call} (hown : ∀ call ∈ calls, call.isOwn) :
  (r.run calls).book.Met (met ++ namesMet r.settings calls)
  := by
  induction calls generalizing r met with
  | nil =>
      rw [namesMet, List.append_nil]
      apply h
  | cons call calls ih =>
      rw [List.forall_mem_cons] at hown
      have hafter := ih (met_perform h hown.1) hown.2
      rw [settings_perform, List.append_assoc] at hafter
      apply hafter

end Renderer

end StyleTags
