import StyleTags.Printer.Call
import StyleTags.Proofs.Run
import StyleTags.Proofs.Sink
import Mathlib.Algebra.GroupWithZero.Nat

/-!
# The stream of a printer

The bytes that a call has for a sink depend on the call and on the renderer, not on the sink
(`Call.offer`).  So the calls of a run offer one stream to every sink.  A sink that fills up
holds the beginning of it, a write succeeds exactly if the stream fits up to its end, and the
renderer never notices (`stream_after_run`).
-/

namespace StyleTags.Printer

/-- What a call comes to whatever the sink is: the bytes that it has for it, and what becomes of
the renderer. -/
def Call.offer (r : Renderer) : Call → Outcome Renderer (List UInt8)
  | .write what => (what.output r).map fun runs => (runs.map Text.utf8).flatten
  | .renderer call => (r.perform call).map fun _ => []
  | .flush | .describe _ => ⟨[], r, []⟩

variable {p : Printer} {capacity : Option Nat} {stream : List UInt8}

/-! ### One call -/

theorem renderer_perform (p : Printer) (call : Call) :
  (p.perform call).state.renderer = (call.offer p.renderer).state
  := by
  cases call with
  | _ => rfl

theorem offered_perform (h : p.sink.Offered capacity stream) (call : Call) :
  (p.perform call).state.sink.Offered capacity (stream ++ (call.offer p.renderer).answer)
  := by
  have hsame : p.sink.Offered capacity (stream ++ []) := by
    rw [List.append_nil]
    apply h
  cases call with
  | write what => apply h.putEach
  | flush => exact ⟨hsame.capacity_eq, hsame.held_eq⟩
  | describe pretty => apply hsame
  | renderer call => apply hsame

/-- A write succeeds exactly if it has nothing for the sink, or if there is room for it. -/
theorem answer_write_eq_ok_iff (h : p.sink.Offered capacity stream) (what : Write) :
  (p.perform (.write what)).answer = .written (.ok ())
    ↔ (Call.offer p.renderer (.write what)).answer = []
      ∨ Sink.Fits capacity (stream ++ (Call.offer p.renderer (.write what)).answer).length
  := by
  have hruns := h.putEach_eq_ok_iff ((what.output p.renderer).answer.map Text.utf8)
  constructor
  · intro hok
    apply hruns.mp (Answer.written.inj hok)
  · intro hfits
    apply congrArg Answer.written (hruns.mpr hfits)

/-! ### Runs -/

theorem renderer_run (p : Printer) (calls : List Call) :
  (Outcome.run perform p calls).state.renderer
    = (Outcome.run Call.offer p.renderer calls).state
  := by
  induction calls generalizing p with
  | nil => rfl
  | cons call calls ih =>
      rw [Outcome.run, Outcome.run, ← renderer_perform]
      apply ih

theorem offered_run (h : p.sink.Offered capacity stream) (calls : List Call) :
  (Outcome.run perform p calls).state.sink.Offered capacity
    (stream ++ (Outcome.run Call.offer p.renderer calls).answer.flatten)
  := by
  induction calls generalizing p stream with
  | nil =>
      rw [Outcome.run, Outcome.run, List.flatten_nil, List.append_nil]
      apply h
  | cons call calls ih =>
      have hafter := ih (offered_perform h call)
      rw [renderer_perform, List.append_assoc] at hafter
      apply hafter

theorem answer_run_eq_ok_iff (h : p.sink.Offered capacity stream) {calls : List Call} {i : Nat}
    {what : Write} (hcall : calls[i]? = some (.write what)) :
  (Outcome.run perform p calls).answer[i]? = some (.written (.ok ()))
    ↔ (Outcome.run Call.offer p.renderer calls).answer[i]? = some []
      ∨ Sink.Fits capacity
        (stream ++ ((Outcome.run Call.offer p.renderer calls).answer.take (i + 1)).flatten).length
  := by
  induction calls generalizing p stream i with
  | nil => simp at hcall
  | cons call calls ih =>
      rw [Outcome.run, Outcome.run]
      cases i with
      | zero =>
          obtain rfl : call = .write what := by simpa using hcall
          simp only [List.getElem?_cons_zero, Option.some.injEq, Nat.zero_add,
            List.take_succ_cons, List.take_zero, List.flatten_singleton]
          apply answer_write_eq_ok_iff h
      | succ i =>
          have hlater := ih (offered_perform h call) hcall
          rw [renderer_perform, List.append_assoc] at hlater
          rw [List.getElem?_cons_succ, List.getElem?_cons_succ, List.take_succ_cons,
            List.flatten_cons]
          apply hlater

/-- At any point of a run, a sink without bound holds what the calls so far had for it. -/
theorem held_run_take (h : p.sink.Offered none stream) (calls : List Call) (i : Nat) :
  (Outcome.run perform p (calls.take i)).state.sink.held
    = stream ++ ((Outcome.run Call.offer p.renderer calls).answer.take i).flatten
  := by
  rw [(offered_run h _).held_eq, Outcome.answer_run_take]
  rfl

/-- All the bytes that calls have for a sink form one stream.  What a call has for it depends on
the call and the renderer alone, and is what it adds to a sink without bound.  Of this stream a
sink that fills up holds as much as it can, whatever the portions that it takes.  A write
succeeds exactly if it has nothing for the sink or if the stream up to its end fits in, and the
renderer ends up as it does with a sink without bound. -/
theorem stream_after_run (r : Renderer) (calls : List Call) (appetite appetite' : Nat → Nat → Nat)
    (capacity : Nat) (stalls flushFails : Bool) :
  let unbounded : Sink := { appetite := appetite' }
  let bounded : Sink := { appetite, capacity := some capacity, stalls, flushFails }
  let offered := Outcome.run Call.offer r calls
  let made := Outcome.run perform ⟨r, bounded⟩ calls
  (∀ i, (Outcome.run perform ⟨r, unbounded⟩ (calls.take i)).state.sink.held
      = (offered.answer.take i).flatten)
    ∧ made.state.sink.held = offered.answer.flatten.take capacity
    ∧ (∀ i what, calls[i]? = some (.write what) →
      (made.answer[i]? = some (.written (.ok ()))
        ↔ offered.answer[i]? = some []
          ∨ ((offered.answer.take (i + 1)).map List.length).sum ≤ capacity))
    ∧ made.state.renderer = (Outcome.run perform ⟨r, unbounded⟩ calls).state.renderer
  := by
  intro unbounded bounded offered made
  have hunbounded : unbounded.Offered none [] := ⟨rfl, rfl⟩
  have hbounded : bounded.Offered (some capacity) [] := ⟨rfl, List.take_nil.symm⟩
  refine ⟨?unbounded, ?bounded, ?answers, ?renderer⟩
  case unbounded => apply held_run_take (p := ⟨r, unbounded⟩) hunbounded
  case bounded => apply (offered_run (p := ⟨r, bounded⟩) hbounded calls).held_eq
  case answers =>
    intro i what hcall
    have hanswer := answer_run_eq_ok_iff (p := ⟨r, bounded⟩) hbounded hcall
    rw [Sink.fits_some_iff, List.nil_append, List.length_flatten] at hanswer
    apply hanswer
  case renderer => rw [renderer_run, renderer_run]

/-- The commands that clear the screen are cut off within the second of them; the tag that is
written after them is worked out nevertheless. -/
example :
  let narrow : Sink := { appetite := fun _ _ => 3, capacity := some 5 }
  let p := (Outcome.run perform ⟨.standard, narrow⟩
    [.write (.control Control.clearing), .write (.markup "[fg:Teal]" true)]).state
  p.sink.held = [0x1b, 0x5b, 0x32, 0x4a, 0x1b] ∧ p.renderer.book.has "fg:Teal" = true
  := by decide +kernel

end StyleTags.Printer
