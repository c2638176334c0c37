import StyleTags.Printer.Call
import StyleTags.Proofs.Renderer.History
import StyleTags.Proofs.Run
import StyleTags.Settings.Environment

/-!
# The settings of a printer

Only two calls put other settings in force: one sets the mode, the other both delimiters if
neither is empty.  So whatever a printer was made to do, its mode and its delimiters are those
that were set last, each by itself, or else those that its renderer started with
(`settings_after_run`).  Where delimiters are refused nothing happens at all.
-/

namespace StyleTags

namespace Delimiters

variable {opening closing : String}

theorem ofStrings_of_opening_empty (closing : String) :
  ofStrings "" closing = .error .emptyOpening
  := rfl

theorem ofStrings_of_closing_empty (h : opening ≠ "") :
  ofStrings opening "" = .error .emptyClosing
  := by
  have hopening := mt Delimiter.ofString?_eq_none_iff.mp h
  obtain ⟨o, ho⟩ := Option.ne_none_iff_exists'.mp hopening
  rw [ofStrings, ho]
  rfl

/-- Two texts of which one is empty are refused. -/
theorem exists_ofStrings_eq_error (h : opening = "" ∨ closing = "") :
  ∃ e, ofStrings opening closing = .error e
  := by
  by_cases hopening : opening = ""
  · use .emptyOpening
    rw [hopening, ofStrings_of_opening_empty]
  · use .emptyClosing
    rw [h.resolve_left hopening, ofStrings_of_closing_empty hopening]

end Delimiters

namespace Settings

/-- The texts of the delimiters in force. -/
def texts (s : Settings) : String × String :=
  (s.opening, s.closing)

theorem opening_ne_empty (s : Settings) :
  s.opening ≠ ""
  := by
  rw [opening, Delimiter.text, Ne, String.ofList_eq_empty_iff]
  apply s.delimiters.opening.nonempty

theorem closing_ne_empty (s : Settings) :
  s.closing ≠ ""
  := by
  rw [closing, Delimiter.text, Ne, String.ofList_eq_empty_iff]
  apply s.delimiters.closing.nonempty

/-- Delimiters that are put in force replace both of those before, if neither is empty. -/
theorem texts_after_useDelimiters (s : Settings) (opening closing : String) :
  (s.after (.useDelimiters opening closing)).texts
    = if opening = "" ∨ closing = "" then s.texts else (opening, closing)
  := by
  split
  · next hempty =>
    obtain ⟨e, he⟩ := Delimiters.exists_ofStrings_eq_error hempty
    rw [after, between, he]
    rfl
  · next hfull =>
    rw [not_or] at hfull
    obtain ⟨d, hd, ho, hc⟩ := Delimiters.exists_ofStrings_eq_ok hfull.1 hfull.2
    rw [after, between, hd]
    apply Prod.ext ho hc

theorem mode_after_useDelimiters (s : Settings) (opening closing : String) :
  (s.after (.useDelimiters opening closing)).mode = s.mode
  := by
  rw [after, between]
  cases Delimiters.ofStrings opening closing with
  | ok d => rfl
  | error e => rfl

end Settings

/-! ### The renderer -/

namespace Renderer

variable {opening closing : String}

/-- A renderer starts between the delimiters that it is given, or between brackets. -/
theorem texts_start (opening closing : String) (mode : Mode) :
  (start opening closing mode).answer.settings.texts
    = if opening = "" ∨ closing = "" then ("[", "]") else (opening, closing)
  := by
  split
  · next hempty =>
    obtain ⟨e, he⟩ := Delimiters.exists_ofStrings_eq_error hempty
    rw [start, he]
    rfl
  · next hfull =>
    rw [not_or] at hfull
    obtain ⟨d, hd, ho, hc⟩ := Delimiters.exists_ofStrings_eq_ok hfull.1 hfull.2
    rw [start, hd]
    apply Prod.ext ho hc

/-- A renderer starts in the mode that it is given, whatever the delimiters are. -/
theorem mode_start (opening closing : String) (mode : Mode) :
  (start opening closing mode).answer.settings.mode = mode
  := by
  rw [start]
  split
  · rfl
  · rfl

/-- A renderer takes over settings as they are, and reports nothing. -/
theorem start_settings (s : Settings) :
  start s.opening s.closing s.mode = ⟨ofSettings s, (), []⟩
  := by
  rw [start, s.ofStrings_opening_closing]

end Renderer

namespace Printer

/-- The delimiters that a call puts in force. -/
def Call.delimiters? : Call → Option (String × String)
  | .renderer (.useDelimiters opening closing) =>
    if opening = "" ∨ closing = "" then none else some (opening, closing)
  | _ => none

/-- The mode that a call puts in force. -/
def Call.mode? : Call → Option Mode
  | .renderer (.useMode mode) => some mode
  | _ => none

/-! ### One call -/

theorem settings_output (r : Renderer) (what : Write) :
  (what.output r).state.settings = r.settings
  := by
  cases what with
  | markup text newline => apply Renderer.settings_renderAs
  | plain value newline => rfl
  | control commands => rfl

/-- A call changes the settings only as a call on the renderer. -/
theorem settings_perform (p : Printer) (call : Call) :
  (p.perform call).state.renderer.settings
    = match call with
      | .renderer call => p.renderer.settings.after call
      | _ => p.renderer.settings
  := by
  cases call with
  | write what => apply settings_output
  | flush => rfl
  | describe pretty => rfl
  | renderer call => apply Renderer.settings_perform

theorem texts_perform (p : Printer) (call : Call) :
  (p.perform call).state.renderer.settings.texts
    = call.delimiters?.getD p.renderer.settings.texts
  := by
  rw [settings_perform]
  cases call with
  | renderer call =>
      cases call with
      | useDelimiters opening closing =>
          simp only [Settings.texts_after_useDelimiters, Call.delimiters?]
          split
          · rfl
          · rfl
      | _ => rfl
  | _ => rfl

theorem mode_perform (p : Printer) (call : Call) :
  (p.perform call).state.renderer.settings.mode = call.mode?.getD p.renderer.settings.mode
  := by
  rw [settings_perform]
  cases call with
  | renderer call =>
      cases call with
      | useDelimiters opening closing => apply Settings.mode_after_useDelimiters
      | _ => rfl
  | _ => rfl

/-- A call that sets neither the mode nor the delimiters leaves the settings as they are. -/
theorem settings_perform_of_ne {call : Call} (p : Printer)
    (hmode : ∀ mode, call ≠ .renderer (.useMode mode))
    (hdelimiters : ∀ opening closing, call ≠ .renderer (.useDelimiters opening closing)) :
  (p.perform call).state.renderer.settings = p.renderer.settings
  := by
  rw [settings_perform]
  cases call with
  | renderer call =>
      cases call with
      | useMode mode => exact absurd rfl (hmode mode)
      | useDelimiters opening closing => exact absurd rfl (hdelimiters opening closing)
      | _ => rfl
  | _ => rfl

/-- Delimiters that are refused change nothing and are not reported. -/
theorem perform_useDelimiters_of_error (p : Printer) {opening closing : String}
    {e : DelimiterError} (h : Delimiters.ofStrings opening closing = .error e) :
  p.perform (.renderer (.useDelimiters opening closing)) = ⟨.renderer (.refused e), p, []⟩
  := by
  rw [perform, Renderer.perform, Renderer.useDelimiters, h]
  rfl

/-! ### Runs -/

/-- Whatever a printer was made to do, its delimiters are not empty; they are those that were set
last, or else those that its renderer was given if neither was empty, or else brackets.  The
mode is the one that was set last, or else the one that its renderer was given.  Delimiters are
refused if one of them is empty, which is told of the opening one first, changes nothing and is
not reported; otherwise they are accepted.  No other call changes the settings.  Settings from an
environment are taken over as they are. -/
theorem settings_after_run (opening closing : String) (mode : Mode) (sink : Sink)
    (calls : List Call) :
  let r := (Renderer.start opening closing mode).answer
  let p := (Outcome.run perform ⟨r, sink⟩ calls).state
  let s := p.renderer.settings
  (s.opening ≠ "" ∧ s.closing ≠ "")
    ∧ (s.opening, s.closing)
      = (calls.filterMap Call.delimiters?).getLastD
        (if opening = "" ∨ closing = "" then ("[", "]") else (opening, closing))
    ∧ s.mode = (calls.filterMap Call.mode?).getLastD mode
    ∧ (∀ c, p.perform (.renderer (.useDelimiters "" c))
      = ⟨.renderer (.refused .emptyOpening), p, []⟩)
    ∧ (∀ o, o ≠ "" → p.perform (.renderer (.useDelimiters o ""))
      = ⟨.renderer (.refused .emptyClosing), p, []⟩)
    ∧ (∀ o c, o ≠ "" → c ≠ "" →
      (p.perform (.renderer (.useDelimiters o c))).answer = .renderer .done)
    ∧ (∀ call, (∀ m, call ≠ .renderer (.useMode m)) →
      (∀ o c, call ≠ .renderer (.useDelimiters o c)) →
      (p.perform call).state.renderer.settings = s)
    ∧ ∀ env,
      let chosen := (Settings.ofEnvironment env).answer
      Renderer.start chosen.opening chosen.closing chosen.mode = ⟨.ofSettings chosen, (), []⟩
  := by
  intro r p s
  refine ⟨?nonempty, ?texts, ?mode, ?noOpening, ?noClosing, ?accepted, ?others, ?environment⟩
  case nonempty => exact ⟨s.opening_ne_empty, s.closing_ne_empty⟩
  case texts =>
    rw [← Renderer.texts_start opening closing mode]
    apply Outcome.eq_getLastD_run (fun p : Printer => p.renderer.settings.texts) _ texts_perform
  case mode =>
    rw [← Renderer.mode_start opening closing mode]
    apply Outcome.eq_getLastD_run (fun p : Printer => p.renderer.settings.mode) _ mode_perform
  case noOpening =>
    intro c
    apply perform_useDelimiters_of_error p (Delimiters.ofStrings_of_opening_empty c)
  case noClosing =>
    intro o ho
    apply perform_useDelimiters_of_error p (Delimiters.ofStrings_of_closing_empty ho)
  case accepted =>
    intro o c ho hc
    obtain ⟨d, hd, -⟩ := Delimiters.exists_ofStrings_eq_ok ho hc
    rw [perform, Renderer.perform, Renderer.useDelimiters, hd]
    rfl
  case others =>
    intro call hmode hdelimiters
    apply settings_perform_of_ne p hmode hdelimiters
  case environment =>
    intro env chosen
    apply Renderer.start_settings

end Printer

end StyleTags
