import StyleTags.Journal.Basic
import StyleTags.Proofs.Run
import Mathlib.Tactic.Use

/-!
# Runs of a journal

The first logger that is installed stays for ever, and is in force until the log is muted for
the first time after that.  What a journal has written can therefore be told from the calls that
it was sent (`entries_after_run`): nothing before the first installation, then the lines of the
events that are grave enough, and nothing once the log was muted.
-/

namespace StyleTags

namespace Journal

/-- What can be asked of a journal. -/
inductive Call where
  | install (file : LogFile) (level : Level)
  | mute
  | record (event : Event)

/-- What a journal answers. -/
inductive Answer where
  | done
  | refused (reason : JournalError)

/-- A call is carried out. -/
def perform (j : Journal) : Call → Outcome Journal Answer
  | .install file level =>
    match j.install file level with
    | .ok installed => ⟨.done, installed, []⟩
    | .error reason => ⟨.refused reason, j, []⟩
  | .mute => ⟨.done, j.mute, []⟩
  | .record event => ⟨.done, j.record event, []⟩

/-- The logger that a call is to install. -/
def Call.logger? : Call → Option Logger
  | .install file level => some ⟨file, level⟩
  | _ => none

/-- Whether a call mutes the log. -/
def Call.isMute : Call → Bool
  | .mute => true
  | _ => false

/-- The event that a call tells of. -/
def Call.event? : Call → Option Event
  | .record event => some event
  | _ => none

end Journal

/-- The lines that a logger writes when calls follow its installation: those of the events that
are told before the log is muted, as far as they are grave enough. -/
def Logger.lines (logger : Logger) (calls : List Journal.Call) : List Entry :=
  let told := (calls.takeWhile fun call => !call.isMute).filterMap Journal.Call.event?
  if logger.file.opens then
    (told.filter fun e => e.level.rank ≤ logger.level.rank).map fun e =>
      ⟨logger.file.path, e.line⟩
  else
    []

/-- No level is beyond the last. -/
theorem Level.rank_le_trace (level : Level) :
  level.rank ≤ Level.trace.rank
  := by
  cases level with
  | _ => decide

/-! ### The lines of a logger -/

namespace Logger

theorem lines_mute (logger : Logger) (calls : List Journal.Call) :
  logger.lines (.mute :: calls) = []
  := by
  rw [lines]
  split
  · rfl
  · rfl

theorem lines_record (logger : Logger) (e : Event) (calls : List Journal.Call) :
  logger.lines (.record e :: calls)
    = (if e.level.rank ≤ logger.level.rank ∧ logger.file.opens then
        [⟨logger.file.path, e.line⟩] else []) ++ logger.lines calls
  := by
  rw [lines, lines]
  cases logger.file.opens with
  | false => simp
  | true =>
      by_cases hgrave : e.level.rank ≤ logger.level.rank
      · simp [hgrave, Journal.Call.isMute, Journal.Call.event?]
      · simp [hgrave, Journal.Call.isMute, Journal.Call.event?]

/-- A logger that is told of everything lets every event pass. -/
theorem lines_of_trace {file : LogFile} (h : file.opens) (events : List Event) :
  lines ⟨file, .trace⟩ (events.map .record) = events.map fun e => ⟨file.path, e.line⟩
  := by
  induction events with
  | nil => simp [lines]
  | cons e events ih =>
      rw [List.map_cons, lines_record, if_pos ⟨e.level.rank_le_trace, h⟩, ih]
      rfl

end Logger

namespace Journal

/-- A journal with a logger, which is in force unless the log was muted. -/
def ofLogger (logger : Logger) (isMuted : Bool) (entries : List Entry) : Journal :=
  ⟨some logger, if isMuted then none else some logger.level, entries⟩

/-! ### One call -/

/-- A second logger is refused, and nothing is changed. -/
theorem perform_install_of_logger {j : Journal} (h : j.logger ≠ none) (file : LogFile)
    (level : Level) :
  j.perform (.install file level) = ⟨.refused .alreadyInstalled, j, []⟩
  := by
  obtain ⟨logger, hlogger⟩ := Option.ne_none_iff_exists'.mp h
  rw [perform, install, hlogger]

theorem record_ofLogger (logger : Logger) (entries : List Entry) (e : Event) :
  (ofLogger logger false entries).record e
    = ofLogger logger false
      (entries ++ if e.level.rank ≤ logger.level.rank ∧ logger.file.opens then
        [⟨logger.file.path, e.line⟩] else [])
  := by
  simp [record, linesOf, ofLogger, within]

theorem record_ofLogger_muted (logger : Logger) (entries : List Entry) (e : Event) :
  (ofLogger logger true entries).record e = ofLogger logger true entries
  := by
  simp [record, linesOf, ofLogger, within]

/-! ### Runs -/

/-- As long as no logger is installed nothing happens. -/
theorem state_run_of_none {calls : List Call} (h : calls.findSome? Call.logger? = none) :
  (Outcome.run perform {} calls).state = {}
  := by
  induction calls with
  | nil => rfl
  | cons call calls ih =>
      rw [List.findSome?_eq_none_iff, List.forall_mem_cons, ← List.findSome?_eq_none_iff] at h
      cases call with
      | install file level => simp [Call.logger?] at h
      | mute => apply ih h.2
      | record event => apply ih h.2

/-- Nothing brings back a journal that was muted. -/
theorem state_run_muted (logger : Logger) (entries : List Entry) (calls : List Call) :
  (Outcome.run perform (ofLogger logger true entries) calls).state
    = ofLogger logger true entries
  := by
  induction calls with
  | nil => rfl
  | cons call calls ih =>
      cases call with
      | install file level => apply ih
      | mute => apply ih
      | record event =>
          rw [Outcome.run, perform, record_ofLogger_muted]
          apply ih

/-- While its logger is in force a journal writes the lines of that logger. -/
theorem state_run_ofLogger (logger : Logger) (entries : List Entry) (calls : List Call) :
  (Outcome.run perform (ofLogger logger false entries) calls).state
    = ofLogger logger (calls.any Call.isMute) (entries ++ logger.lines calls)
  := by
  induction calls generalizing entries with
  | nil => simp [Outcome.run, Logger.lines]
  | cons call calls ih =>
      cases call with
      | install file level => apply ih
      | mute =>
          rw [Logger.lines_mute, List.append_nil]
          apply state_run_muted
      | record event =>
          rw [Outcome.run, perform, record_ofLogger, ih, Logger.lines_record, List.append_assoc]
          rfl

/-- The calls up to the first installation leave nothing, and those after it find its logger in
force. -/
theorem state_run_of_first {before after : List Call} (h : before.findSome? Call.logger? = none)
    (file : LogFile) (level : Level) :
  (Outcome.run perform {} (before ++ .install file level :: after)).state
    = ofLogger ⟨file, level⟩ (after.any Call.isMute) (Logger.lines ⟨file, level⟩ after)
  := by
  rw [Outcome.state_run_append, state_run_of_none h]
  apply state_run_ofLogger

/-- The call that installs the first logger, with the calls before and after it. -/
theorem exists_install_of_first {calls : List Call} {logger : Logger}
    (h : calls.findSome? Call.logger? = some logger) :
  ∃ before file level after, calls = before ++ .install file level :: after
    ∧ logger = ⟨file, level⟩ ∧ before.findSome? Call.logger? = none
  := by
  obtain ⟨before, call, after, hcalls, hcall, hbefore⟩ := List.findSome?_eq_some_iff.mp h
  cases call with
  | install file level =>
      use before, file, level, after, hcalls, (Option.some.inj hcall).symm
      apply List.findSome?_eq_none_iff.mpr hbefore
  | mute => contradiction
  | record event => contradiction

/-- A journal has the logger that was installed first. -/
theorem logger_run (calls : List Call) :
  (Outcome.run perform {} calls).state.logger = calls.findSome? Call.logger?
  := by
  cases hfirst : calls.findSome? Call.logger? with
  | none => rw [state_run_of_none hfirst]
  | some logger =>
      obtain ⟨before, file, level, after, rfl, rfl, hbefore⟩ := exists_install_of_first hfirst
      rw [state_run_of_first hbefore]
      rfl

/-- The level in force is that of the logger, or there is none. -/
theorem ceiling_run (calls : List Call) :
  (Outcome.run perform {} calls).state.ceiling = none
    ∨ (Outcome.run perform {} calls).state.ceiling
      = (calls.findSome? Call.logger?).map Logger.level
  := by
  cases hfirst : calls.findSome? Call.logger? with
  | none =>
      left
      rw [state_run_of_none hfirst]
  | some logger =>
      obtain ⟨before, file, level, after, rfl, rfl, hbefore⟩ := exists_install_of_first hfirst
      rw [state_run_of_first hbefore]
      cases hmute : after.any Call.isMute with
      | true =>
          left
          rfl
      | false =>
          right
          rfl

/-! ### Events alone -/

/-- Events mute nothing. -/
theorem any_isMute_record (events : List Event) :
  (events.map Call.record).any Call.isMute = false
  := by
  simp [Call.isMute]

/-- Events install nothing. -/
theorem findSome?_logger?_record (events : List Event) :
  (events.map Call.record).findSome? Call.logger? = none
  := by
  simp [Call.logger?]

/-- Being told of several events is being told of each of them. -/
theorem recordAll_eq_run (j : Journal) (events : List Event) :
  j.recordAll events = (Outcome.run perform j (events.map .record)).state
  := by
  induction events generalizing j with
  | nil => rfl
  | cons e events ih => apply ih

/-- A journal that lets everything pass writes a line for each event that it is told of. -/
theorem entries_recordAll_opened {file : LogFile} (h : file.opens) (events : List Event) :
  ((opened file .trace).recordAll events).entries = events.map fun e => ⟨file.path, e.line⟩
  := by
  have hrun := state_run_ofLogger ⟨file, .trace⟩ [] (events.map .record)
  rw [any_isMute_record, Logger.lines_of_trace h] at hrun
  rw [recordAll_eq_run]
  apply congrArg entries hrun

/-! ### All calls -/

/-- Until a logger is installed nothing happens, not even where the log is muted.  The first
logger is accepted and every other one refused, which changes nothing; so the level in force is
that of the first logger, or there is none.  The journal has written the lines of the events that
were told after the first installation and before the log was muted for the first time after it,
as far as they are grave enough for that logger, and writes nothing more once it was muted. -/
theorem entries_after_run (calls : List Call) :
  let j := (Outcome.run perform {} calls).state
  let first := calls.findSome? Call.logger?
  (first = none → j = {})
    ∧ j.logger = first
    ∧ (j.ceiling = none ∨ j.ceiling = first.map Logger.level)
    ∧ ∀ before file level after, calls = before ++ .install file level :: after →
      let earlier := (Outcome.run perform {} before).state
      (before.findSome? Call.logger? = none →
          earlier.perform (.install file level) = ⟨.done, ⟨some ⟨file, level⟩, some level, []⟩, []⟩
            ∧ j.ceiling = (if after.any Call.isMute then none else some level)
            ∧ j.entries = Logger.lines ⟨file, level⟩ after
            ∧ (after.any Call.isMute → ∀ later, (Outcome.run perform j later).state = j))
        ∧ (before.findSome? Call.logger? ≠ none →
          earlier.perform (.install file level) = ⟨.refused .alreadyInstalled, earlier, []⟩)
  := by
  intro j first
  refine ⟨?none, ?logger, ?ceiling, ?install⟩
  case none =>
    intro hfirst
    apply state_run_of_none hfirst
  case logger => apply logger_run
  case ceiling => apply ceiling_run
  case install =>
    rintro before file level after rfl earlier
    constructor
    · intro hbefore
      have hearlier : earlier = {} := state_run_of_none hbefore
      have hj : j = _ := state_run_of_first hbefore file level
      refine ⟨?done, ?level, ?entries, ?muted⟩
      case done =>
        rw [hearlier]
        rfl
      case level =>
        rw [hj]
        rfl
      case entries =>
        rw [hj]
        rfl
      case muted =>
        intro hmute later
        rw [hmute] at hj
        rw [hj]
        apply state_run_muted
    · intro hbefore
      apply perform_install_of_logger
      rw [logger_run]
      apply hbefore

/-- A muting before the first installation is forgotten; one after it is not, and a second
installation does not undo it. -/
example :
  let note (text : String) : Call := .record (.note .info "demo" text)
  (Outcome.run perform {}
      [.mute, note "a", .install ⟨"log", true⟩ .info, note "b", .mute,
        .install ⟨"other", true⟩ .trace, note "c"]).state.entries
    = [⟨"log", "[INFO] demo: b\n"⟩]
  := by decide

end Journal

end StyleTags
