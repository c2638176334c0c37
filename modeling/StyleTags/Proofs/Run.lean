import StyleTags.Journal.Event

/-!
# Runs

A run carries out calls one after the other, each in the state that the one before it has
left.  If two machines answer every call alike and stay in states that correspond, their
runs answer alike (`agree_run`).
-/

namespace StyleTags.Outcome

variable {σ τ κ α : Type}

/-- Calls made one after the other: all that they answer, the state that they leave, and all
that they report. -/
def run (step : σ → κ → Outcome σ α) (s : σ) : List κ → Outcome σ (List α)
  | [] => ⟨[], s, []⟩
  | call :: calls =>
    let now := step s call
    let later := run step now.state calls
    ⟨now.answer :: later.answer, later.state, now.events ++ later.events⟩

/-- Calls that follow others begin in the state that these have left. -/
theorem state_run_append (step : σ → κ → Outcome σ α) (s : σ) (calls calls' : List κ) :
  (run step s (calls ++ calls')).state = (run step (run step s calls).state calls').state
  := by
  induction calls generalizing s with
  | nil => rfl
  | cons call calls ih => apply ih

/-- Calls that follow others report after them. -/
theorem events_run_append (step : σ → κ → Outcome σ α) (s : σ) (calls calls' : List κ) :
  (run step s (calls ++ calls')).events
    = (run step s calls).events ++ (run step (run step s calls).state calls').events
  := by
  induction calls generalizing s with
  | nil => rfl
  | cons call calls ih => rw [List.cons_append, run, run, ih, List.append_assoc]

theorem events_run_singleton (step : σ → κ → Outcome σ α) (s : σ) (call : κ) :
  (run step s [call]).events = (step s call).events
  := List.append_nil _

/-- The first calls are answered alike, whatever follows them. -/
theorem answer_run_take (step : σ → κ → Outcome σ α) (s : σ) (calls : List κ) (i : Nat) :
  (run step s (calls.take i)).answer = (run step s calls).answer.take i
  := by
  induction calls generalizing s i with
  | nil => simp [run]
  | cons call calls ih =>
      cases i with
      | zero => rfl
      | succ i => rw [List.take_succ_cons, run, run, List.take_succ_cons, ih]

/-- What each call either sets anew or leaves as it is has, after a run, the value that was set
last. -/
theorem eq_getLastD_run {β : Type} {step : σ → κ → Outcome σ α} (value : σ → β)
    (set? : κ → Option β)
    (hstep : ∀ s call, value (step s call).state = (set? call).getD (value s)) (s : σ)
    (calls : List κ) :
  value (run step s calls).state = (calls.filterMap set?).getLastD (value s)
  := by
  induction calls generalizing s with
  | nil => rfl
  | cons call calls ih =>
      have hcall := hstep s call
      rw [run, ih, hcall]
      cases hset : set? call with
      | none => rw [List.filterMap_cons_none hset, Option.getD_none]
      | some b => rw [List.filterMap_cons_some hset, List.getLastD_cons, Option.getD_some]

/-- Two outcomes with the same answers and events, in states that correspond. -/
structure Agree (R : σ → τ → Prop) (o : Outcome σ α) (o' : Outcome τ α) : Prop where
  answer : o.answer = o'.answer
  events : o.events = o'.events
  state : R o.state o'.state

/-- Two machines that agree on every call agree on every run. -/
theorem agree_run {R : σ → τ → Prop} {step : σ → κ → Outcome σ α} {step' : τ → κ → Outcome τ α}
    (hstep : ∀ s t call, R s t → Agree R (step s call) (step' t call)) {s : σ} {t : τ}
    (h : R s t) (calls : List κ) :
  Agree R (run step s calls) (run step' t calls)
  := by
  induction calls generalizing s t with
  | nil => exact ⟨rfl, rfl, h⟩
  | cons call calls ih =>
      have hnow := hstep s t call h
      have hlater := ih hnow.state
      constructor
      case answer => rw [run, run, hnow.answer, hlater.answer]
      case events => rw [run, run, hnow.events, hlater.events]
      case state => apply hlater.state

end StyleTags.Outcome
