import StyleTags.Proofs.Mode
import StyleTags.Proofs.Renderer.History
import StyleTags.Settings.Environment

/-!
# Settings that an environment calls for

Four variables call for settings.  A mode that is named is called for whatever else is set; if none
is named, tags are removed where colors are not wanted, and interpreted otherwise.  Each delimiter is
called for by a variable of its own, if it is set and not empty, and is a bracket otherwise.
`CalledFor` says this of settings, and there is exactly one choice of settings of which it holds:
the settings that are chosen.  A warning is given only where a mode is asked for that is none
(`ofEnvironment_precedence`).
-/

namespace StyleTags.Settings

/-- An environment names a mode. -/
def NamesMode (env : Environment) (mode : Mode) : Prop :=
  ∃ text, env "ANSI_MARKUP_MODE" = some text ∧ mode.NamedBy text.toList

/-- An environment asks for a mode by a text that names none. -/
def MisnamesMode (env : Environment) (text : String) : Prop :=
  env "ANSI_MARKUP_MODE" = some text ∧ ∀ mode : Mode, ¬ mode.NamedBy text.toList

/-- A variable supplies a text: its value if it is set and not empty, and the standard text if it
is not set or empty. -/
def Supplies (env : Environment) (name standard text : String) : Prop :=
  env name = some text ∧ text ≠ "" ∨ (env name = none ∨ env name = some "") ∧ text = standard

/-- An environment calls for settings. -/
structure CalledFor (env : Environment) (s : Settings) : Prop where
  /-- A mode that is named is in force, whether colors are wanted or not. -/
  named : ∀ mode, NamesMode env mode → s.mode = mode
  /-- If no mode is named, tags are removed where colors are not wanted. -/
  uncolored : (∀ mode, ¬ NamesMode env mode) → ∀ text, env "NO_COLOR" = some text → s.mode = .remove
  /-- If no mode is named, tags are interpreted where colors are wanted. -/
  colored : (∀ mode, ¬ NamesMode env mode) → env "NO_COLOR" = none → s.mode = .interpret
  opening : Supplies env "ANSI_MARKUP_PREFIX" "[" s.opening
  closing : Supplies env "ANSI_MARKUP_SUFFIX" "]" s.closing

variable {env : Environment}

/-! ### Delimiters -/

/-- The delimiter that is chosen has the text that its variable supplies. -/
theorem supplies_iff {name text : String} (standard : Delimiter) :
  Supplies env name standard.text text ↔ (delimiterFrom env name standard).text = text
  := by
  unfold Supplies delimiterFrom
  cases env name with
  | none => simp [eq_comm]
  | some value =>
      rw [Option.bind_some]
      cases hvalue : Delimiter.ofString? value with
      | none =>
          obtain rfl := Delimiter.ofString?_eq_none_iff.mp hvalue
          simp [eq_comm]
      | some d =>
          have hchars := Delimiter.ofString?_eq_some_iff.mp hvalue
          have htext : d.text = value := by rw [Delimiter.text, hchars, String.ofList_toList]
          have hne : value ≠ "" := by
            rintro rfl
            exact d.nonempty hchars
          rw [Option.getD_some, htext]
          simp only [Option.some.injEq, reduceCtorEq, hne, false_and, or_false,
            and_iff_left_iff_imp]
          rintro rfl
          apply hne

theorem delimiterFrom_congr {env' : Environment} {name : String} (h : env name = env' name)
    (standard : Delimiter) :
  delimiterFrom env name standard = delimiterFrom env' name standard
  := by
  rw [delimiterFrom, delimiterFrom, h]

/-! ### The mode -/

/-- A mode that is named is chosen. -/
theorem modeFrom_of_namesMode {mode : Mode} (h : NamesMode env mode) :
  modeFrom env = ⟨mode, (), []⟩
  := by
  obtain ⟨text, htext, hmode⟩ := h
  rw [modeFrom, htext]
  simp only [Mode.ofString_eq_ok_iff_namedBy.mpr hmode]

/-- A text that names no mode is reported, and the mode is chosen as if there were no text. -/
theorem modeFrom_of_misnamesMode {text : String} (h : MisnamesMode env text) :
  modeFrom env = ⟨colorMode env, (), [.modeIgnored ⟨text⟩]⟩
  := by
  obtain ⟨htext, hnone⟩ := h
  have hrefused : Mode.ofString text = .error ⟨text⟩ := by
    rw [Mode.ofString_eq_error_iff]
    constructor
    · rfl
    · intro mode hmode
      apply hnone mode (Mode.ofString_eq_ok_iff_namedBy.mp hmode)
  rw [modeFrom, htext]
  simp only [hrefused]

theorem modeFrom_of_eq_none (h : env "ANSI_MARKUP_MODE" = none) :
  modeFrom env = ⟨colorMode env, (), []⟩
  := by
  rw [modeFrom, h]

/-- Where a text is asked for as a mode, it names one or none. -/
theorem cases_mode (env : Environment) :
  (∃ mode, NamesMode env mode) ∨ (∃ text, MisnamesMode env text) ∨ env "ANSI_MARKUP_MODE" = none
  := by
  cases htext : env "ANSI_MARKUP_MODE" with
  | none =>
      right
      right
      rfl
  | some text =>
      by_cases hnamed : ∃ mode : Mode, mode.NamedBy text.toList
      · left
        obtain ⟨mode, hmode⟩ := hnamed
        use mode, text
      · right
        left
        use text, htext
        apply not_exists.mp hnamed

/-- If no mode is named, it depends on whether colors are wanted. -/
theorem answer_modeFrom_of_not_namesMode (h : ∀ mode, ¬ NamesMode env mode) :
  (modeFrom env).answer = colorMode env
  := by
  rcases cases_mode env with ⟨mode, hmode⟩ | ⟨text, hmisnamed⟩ | hnone
  · exact absurd hmode (h mode)
  · rw [modeFrom_of_misnamesMode hmisnamed]
  · rw [modeFrom_of_eq_none hnone]

/-- If no text is asked for as a mode that is none, nothing is reported. -/
theorem events_modeFrom_of_not_misnamesMode (h : ∀ text, ¬ MisnamesMode env text) :
  (modeFrom env).events = []
  := by
  rcases cases_mode env with ⟨mode, hmode⟩ | ⟨text, hmisnamed⟩ | hnone
  · rw [modeFrom_of_namesMode hmode]
  · exact absurd hmisnamed (h text)
  · rw [modeFrom_of_eq_none hnone]

/-- What is reported depends on the text that is asked for alone, and the mode also on whether
colors are wanted. -/
theorem modeFrom_congr {env' : Environment} (h : env "ANSI_MARKUP_MODE" = env' "ANSI_MARKUP_MODE") :
  (modeFrom env).events = (modeFrom env').events
    ∧ (colorMode env = colorMode env' → (modeFrom env).answer = (modeFrom env').answer)
  := by
  rw [modeFrom, modeFrom, h]
  split
  · exact ⟨rfl, id⟩
  · split
    · exact ⟨rfl, fun _ => rfl⟩
    · exact ⟨rfl, id⟩

theorem colorMode_of_eq_some {text : String} (h : env "NO_COLOR" = some text) :
  colorMode env = .remove
  := by
  rw [colorMode, h]
  rfl

theorem colorMode_of_eq_none (h : env "NO_COLOR" = none) :
  colorMode env = .interpret
  := by
  rw [colorMode, h]
  rfl

theorem colorMode_congr {env' : Environment} (h : env "NO_COLOR" = none ↔ env' "NO_COLOR" = none) :
  colorMode env = colorMode env'
  := by
  cases henv : env "NO_COLOR" with
  | none => rw [colorMode_of_eq_none henv, colorMode_of_eq_none (h.mp henv)]
  | some text =>
      have hset : env' "NO_COLOR" ≠ none := by
        intro hnone
        rw [h.mpr hnone] at henv
        contradiction
      obtain ⟨text', henv'⟩ := Option.ne_none_iff_exists'.mp hset
      rw [colorMode_of_eq_some henv, colorMode_of_eq_some henv']

/-! ### The settings -/

/-- The settings that are chosen are called for. -/
theorem calledFor_answer_ofEnvironment (env : Environment) :
  CalledFor env (ofEnvironment env).answer
  := by
  constructor
  case named =>
    intro mode hmode
    exact congrArg Outcome.answer (modeFrom_of_namesMode hmode)
  case uncolored =>
    intro hnone text htext
    exact (answer_modeFrom_of_not_namesMode hnone).trans (colorMode_of_eq_some htext)
  case colored =>
    intro hnone hunset
    exact (answer_modeFrom_of_not_namesMode hnone).trans (colorMode_of_eq_none hunset)
  case opening => exact (supplies_iff Delimiters.brackets.opening).mpr rfl
  case closing => exact (supplies_iff Delimiters.brackets.closing).mpr rfl

/-- An environment calls for one choice of settings. -/
theorem CalledFor.unique {s s' : Settings} (h : CalledFor env s) (h' : CalledFor env s') :
  s = s'
  := by
  have hmode : s.mode = s'.mode := by
    by_cases hnamed : ∃ mode, NamesMode env mode
    · obtain ⟨mode, hmode⟩ := hnamed
      rw [h.named mode hmode, h'.named mode hmode]
    · rw [not_exists] at hnamed
      cases hcolor : env "NO_COLOR" with
      | none => rw [h.colored hnamed hcolor, h'.colored hnamed hcolor]
      | some text => rw [h.uncolored hnamed text hcolor, h'.uncolored hnamed text hcolor]
  have hopening := (supplies_iff Delimiters.brackets.opening).mp h.opening
  have hclosing := (supplies_iff Delimiters.brackets.closing).mp h.closing
  rw [(supplies_iff Delimiters.brackets.opening).mp h'.opening] at hopening
  rw [(supplies_iff Delimiters.brackets.closing).mp h'.closing] at hclosing
  have hdelimiters : s.delimiters = s'.delimiters := by
    apply Except.ok.inj
    rw [← ofStrings_opening_closing, ← ofStrings_opening_closing, hopening, hclosing]
  obtain ⟨delimiters, mode⟩ := s
  cases hmode
  cases hdelimiters
  rfl

/-- The settings that an environment chooses are those that it calls for.  If it asks for a mode by
a text that names none, this is reported by one warning, which ends with the text as it is;
otherwise nothing is reported.  Each delimiter depends on its own variable alone, and so does what
is reported; the mode depends on the text that is asked for and on whether colors are wanted. -/
theorem ofEnvironment_precedence (env : Environment) :
  let chosen := ofEnvironment env
  (∀ s, chosen.answer = s ↔ CalledFor env s)
    ∧ (∀ text, MisnamesMode env text → ∃ event, chosen.events = [event] ∧ event.level = .warn
      ∧ event.message = "ignoring ANSI_MARKUP_MODE: " ++ ("unknown render mode: " ++ text))
    ∧ ((∀ text, ¬ MisnamesMode env text) → chosen.events = [])
    ∧ ∀ env' : Environment,
      let chosen' := ofEnvironment env'
      (env "ANSI_MARKUP_PREFIX" = env' "ANSI_MARKUP_PREFIX" →
          chosen.answer.opening = chosen'.answer.opening)
        ∧ (env "ANSI_MARKUP_SUFFIX" = env' "ANSI_MARKUP_SUFFIX" →
          chosen.answer.closing = chosen'.answer.closing)
        ∧ (env "ANSI_MARKUP_MODE" = env' "ANSI_MARKUP_MODE" → chosen.events = chosen'.events
          ∧ ((env "NO_COLOR" = none ↔ env' "NO_COLOR" = none) →
            chosen.answer.mode = chosen'.answer.mode))
  := by
  intro chosen
  refine ⟨?settings, ?warned, ?silent, ?apart⟩
  case settings =>
    intro s
    constructor
    · rintro rfl
      apply calledFor_answer_ofEnvironment
    · apply (calledFor_answer_ofEnvironment env).unique
  case warned =>
    intro text hmisnamed
    use .modeIgnored ⟨text⟩
    exact ⟨congrArg Outcome.events (modeFrom_of_misnamesMode hmisnamed), rfl, rfl⟩
  case silent =>
    intro hnone
    apply events_modeFrom_of_not_misnamesMode hnone
  case apart =>
    intro env' chosen'
    refine ⟨?_, ?_, ?_⟩
    · intro hprefix
      apply congrArg Delimiter.text (delimiterFrom_congr hprefix _)
    · intro hsuffix
      apply congrArg Delimiter.text (delimiterFrom_congr hsuffix _)
    · intro hmode
      obtain ⟨hevents, hanswer⟩ := modeFrom_congr hmode
      use hevents
      intro hcolor
      apply hanswer (colorMode_congr hcolor)

/-- A mode that is misspelled does not outweigh that colors are not wanted, for which an empty value
is enough. -/
example :
  let env := fun name => [("NO_COLOR", ""), ("ANSI_MARKUP_MODE", "interprets")].lookup name
  (ofEnvironment env).answer.mode = .remove
  := by decide +kernel

end StyleTags.Settings
