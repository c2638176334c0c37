import StyleTags.Host
import StyleTags.Proofs.Journal.Run

/-!
# The log of a program

Whatever a program does with what it shares, its journal is sent installations, mutings and
events, one after the other, and nothing else becomes of it (`journal_performAll`).  So it is the
runs of a journal that tell what the log of a program holds.

Main statement: the log holds the lines of what was reported between the first installation and the
first muting after it, whichever part of the program reported it (`log_performAll`).
-/

namespace StyleTags.Host

/-! ### What a journal is sent -/

/-- What a call sends to the journal.  A call that needs the shared renderer tells also of its
making, if it is the first to need it. -/
def Call.told (h : Host) : Call → List Journal.Call
  | .installLogger file level => [.install file level]
  | .muteLogger => [.mute]
  | .note level source text => [.record (.note level source text)]
  | .renderer call =>
    (h.shared.events ++ (h.shared.answer.perform call).events).map .record
  | .printer outlet call =>
    let p : Printer := ⟨h.shared.answer, h.shared.state.sink outlet⟩
    (h.shared.events ++ (p.perform call).events).map .record

/-- What calls made one after the other send to the journal. -/
def told (h : Host) : List Call → List Journal.Call
  | [] => []
  | call :: calls => call.told h ++ told (h.perform call).1 calls

theorem told_append (h : Host) (calls calls' : List Call) :
  h.told (calls ++ calls') = h.told calls ++ (h.performAll calls).told calls'
  := by
  induction calls generalizing h with
  | nil => rfl
  | cons call calls ih =>
      rw [List.cons_append, told, told, ih, List.append_assoc]
      rfl

theorem journal_perform (h : Host) (call : Call) :
  (h.perform call).1.journal = (Outcome.run Journal.perform h.journal (call.told h)).state
  := by
  cases call with
  | installLogger file level =>
      rw [perform, Call.told, Outcome.run, Journal.perform]
      cases h.journal.install file level with
      | ok journal => rfl
      | error reason => rfl
  | muteLogger => rfl
  | note level source text => rfl
  | renderer call => apply Journal.recordAll_eq_run
  | printer outlet call => apply Journal.recordAll_eq_run

/-- The journal after a run is what has become of it by what it was sent. -/
theorem journal_performAll (h : Host) (calls : List Call) :
  (h.performAll calls).journal = (Outcome.run Journal.perform h.journal (h.told calls)).state
  := by
  induction calls generalizing h with
  | nil => rfl
  | cons call calls ih =>
      rw [told, Outcome.state_run_append, ← journal_perform]
      apply ih

/-! ### Installations and mutings -/

/-- The logger that a call is to install. -/
def Call.logger? : Call → Option Logger
  | .installLogger file level => some ⟨file, level⟩
  | _ => none

/-- A journal is sent the installation of the logger that a call is to install, and of no other. -/
theorem Call.findSome?_told (h : Host) (call : Call) :
  (call.told h).findSome? Journal.Call.logger? = call.logger?
  := by
  cases call with
  | installLogger file level => rfl
  | muteLogger => rfl
  | note level source text => rfl
  | renderer call => apply Journal.findSome?_logger?_record
  | printer outlet call => apply Journal.findSome?_logger?_record

/-- A journal is muted by the calls that mute the log. -/
theorem Call.any_isMute_told (h : Host) (call : Call) :
  (call.told h).any Journal.Call.isMute = decide (call = .muteLogger)
  := by
  cases call with
  | installLogger file level => rfl
  | muteLogger => rfl
  | note level source text => rfl
  | renderer call => apply Journal.any_isMute_record
  | printer outlet call => apply Journal.any_isMute_record

/-- The first logger that a journal is sent is the first that the calls are to install. -/
theorem findSome?_told (h : Host) (calls : List Call) :
  (h.told calls).findSome? Journal.Call.logger? = calls.findSome? Call.logger?
  := by
  induction calls generalizing h with
  | nil => rfl
  | cons call calls ih =>
      rw [told, List.findSome?_append, Call.findSome?_told, ih, List.findSome?_cons]
      cases call.logger? with
      | none => rfl
      | some logger => rfl

theorem any_isMute_told_iff (h : Host) (calls : List Call) :
  (h.told calls).any Journal.Call.isMute ↔ .muteLogger ∈ calls
  := by
  induction calls generalizing h with
  | nil => simp [told]
  | cons call calls ih =>
      rw [told, List.any_append, Call.any_isMute_told, Bool.or_eq_true, ih, List.mem_cons,
        decide_eq_true_eq, eq_comm]

/-! ### The log -/

section Log

variable {environment : Environment} {before after : List Call} {file : LogFile} {level : Level}

/-- A run begins without a logger and keeps the first that is installed. -/
theorem logger_performAll (environment : Environment) (calls : List Call) :
  (performAll { environment } calls).journal.logger = calls.findSome? Call.logger?
  := by
  rw [journal_performAll, Journal.logger_run, findSome?_told]

/-- From the first installation on, the journal is the one of this logger. -/
theorem journal_performAll_of_first (hbefore : before.findSome? Call.logger? = none) :
  (performAll { environment } (before ++ .installLogger file level :: after)).journal
    = .ofLogger ⟨file, level⟩ (decide (.muteLogger ∈ after))
      (Logger.lines ⟨file, level⟩
        ((performAll { environment } (before ++ [.installLogger file level])).told after))
  := by
  let installed := performAll { environment } (before ++ [.installLogger file level])
  have htold : told { environment } (before ++ .installLogger file level :: after)
      = told { environment } before ++ .install file level :: installed.told after := by
    rw [← List.singleton_append, ← List.append_assoc, told_append, told_append, List.append_assoc]
    rfl
  have hmute : (installed.told after).any Journal.Call.isMute = decide (.muteLogger ∈ after) := by
    rw [Bool.eq_iff_iff, any_isMute_told_iff, decide_eq_true_eq]
  rw [journal_performAll, htold, Journal.state_run_of_first, hmute]
  rw [findSome?_told]
  apply hbefore

/-- As long as no logger is installed the log is empty.  From the first installation on it holds the
lines of what the program reports, as far as they are grave enough for this logger: be it by notes
of its own, by its shared renderer or by printers; and from the first muting on it stays as it is.
A second installation is refused and changes nothing. -/
theorem log_performAll (environment : Environment) (calls : List Call) :
  let h := performAll { environment } calls
  (calls.findSome? Call.logger? = none → h.journal.entries = [])
    ∧ (calls.findSome? Call.logger? ≠ none →
      ∀ file level, h.perform (.installLogger file level) = (h, .refused .alreadyInstalled))
    ∧ ∀ before file level after, calls = before ++ .installLogger file level :: after →
      before.findSome? Call.logger? = none →
        let installed := performAll { environment } (before ++ [.installLogger file level])
        h.journal.entries = Logger.lines ⟨file, level⟩ (installed.told after)
          ∧ (.muteLogger ∈ after → ∀ later, (h.performAll later).journal = h.journal)
  := by
  intro h
  refine ⟨?none, ?second, ?first⟩
  case none =>
    intro hnone
    rw [← findSome?_told { environment }] at hnone
    have hjournal : h.journal = {} := by
      rw [journal_performAll, Journal.state_run_of_none hnone]
    rw [hjournal]
  case second =>
    intro hsome file level
    rw [← logger_performAll environment] at hsome
    obtain ⟨logger, hlogger⟩ := Option.ne_none_iff_exists'.mp hsome
    have hinstall : h.journal.install file level = .error .alreadyInstalled := by
      rw [Journal.install, hlogger]
    rw [perform, hinstall]
  case first =>
    rintro before file level after rfl hbefore installed
    have hjournal : h.journal = _ := journal_performAll_of_first hbefore
    constructor
    · rw [hjournal]
      rfl
    · intro hmute later
      rw [decide_eq_true hmute] at hjournal
      rw [journal_performAll, hjournal]
      apply Journal.state_run_muted

end Log

end StyleTags.Host
