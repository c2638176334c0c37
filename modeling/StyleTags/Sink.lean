/-!
# Sinks

A sink takes bytes, though not always as many at a time as it is offered and perhaps not
for ever.  `Sink.put` offers what is left again and again until all of it is taken or the
sink is full; `Sink.putEach` puts several runs of bytes and stops at the first that is not
taken wholly.

Main statements: what a sink holds after a run is the bytes of the run as far as there was
room (`held_put`), and the run succeeds exactly if there was room for all of it
(`put_eq_ok_iff`).  Neither depends on the portions.
-/

namespace StyleTags

/-- The reason why a sink did not do as it was told. -/
inductive SinkError where
  /-- The sink is full and says so. -/
  | full
  /-- The sink is full and takes nothing more. -/
  | stalled
  /-- The sink could not be flushed. -/
  | flushFailed
  deriving DecidableEq, Repr

/-- The wording of a failure. -/
def SinkError.message : SinkError → String
  | .full => "sink full"
  | .stalled => "failed to write whole buffer"
  | .flushFailed => "flush failed"

/-- Something that takes bytes. -/
structure Sink where
  /-- How many bytes the sink would take, by how many it holds and how many are offered.
  It takes at least one of them as long as it has room. -/
  appetite : Nat → Nat → Nat := fun _ offered => offered
  /-- How many bytes the sink can hold; any number if there is no bound. -/
  capacity : Option Nat := none
  /-- Whether a full sink takes nothing, rather than fail. -/
  stalls : Bool := false
  /-- Whether flushing fails. -/
  flushFails : Bool := false
  /-- The bytes taken so far. -/
  held : List UInt8 := []
  /-- How often the sink was flushed. -/
  flushes : Nat := 0

namespace Sink

/-- How many of the bytes offered there is room for. -/
def room (s : Sink) (offered : Nat) : Nat :=
  match s.capacity with
  | none => offered
  | some n => min offered (n - s.held.length)

/-- How many of the bytes offered are taken at once. -/
def portion (s : Sink) (offered : Nat) : Nat :=
  min (s.room offered) (max 1 (s.appetite s.held.length offered))

/-- The failure of a full sink. -/
def whenFull (s : Sink) : SinkError :=
  if s.stalls then .stalled else .full

/-- All the bytes are put into the sink, portion by portion, as far as there is room. -/
def put (s : Sink) (bytes : List UInt8) : Except SinkError Unit × Sink :=
  if bytes.isEmpty then
    (.ok (), s)
  else
    let n := s.portion bytes.length
    if n = 0 then
      (.error s.whenFull, s)
    else
      put { s with held := s.held ++ bytes.take n } (bytes.drop n)
termination_by bytes.length
decreasing_by
  simp_all only [List.isEmpty_iff, List.length_drop]
  have := List.length_pos_iff.mpr ‹¬bytes = []›
  omega

theorem room_le (s : Sink) (offered : Nat) :
  s.room offered ≤ offered
  := by
  unfold room
  split
  · exact Nat.le_refl _
  · exact Nat.min_le_left _ _

theorem portion_le_room (s : Sink) (offered : Nat) :
  s.portion offered ≤ s.room offered
  := Nat.min_le_left _ _

theorem portion_eq_zero_iff (s : Sink) (offered : Nat) :
  s.portion offered = 0 ↔ s.room offered = 0
  := by
  unfold portion
  omega

/-- Bytes that were taken leave that much less room for the others. -/
theorem room_after (s : Sink) {bytes : List UInt8} {n : Nat} (hn : n ≤ s.room bytes.length) :
  { s with held := s.held ++ bytes.take n }.room (bytes.length - n)
    = s.room bytes.length - n
  := by
  have hle := s.room_le bytes.length
  unfold room at hn hle ⊢
  cases hc : s.capacity with
  | none => rfl
  | some c =>
    simp only [hc, List.length_append, List.length_take] at hn hle ⊢
    omega

/-- The bytes taken are the first ones offered, as many as there is room for. -/
theorem held_put (s : Sink) (bytes : List UInt8) :
  (s.put bytes).2.held = s.held ++ bytes.take (s.room bytes.length)
  := by
  fun_induction put s bytes with
  | case1 s bytes h =>
    rw [List.isEmpty_iff.mp h, List.take_nil, List.append_nil]
  | case2 s bytes h n hn =>
    rw [(s.portion_eq_zero_iff bytes.length).mp hn, List.take_zero, List.append_nil]
  | case3 s bytes h n hn ih =>
    have hroom := s.portion_le_room bytes.length
    rw [ih, List.length_drop, s.room_after hroom, List.append_assoc, ← List.take_add,
      Nat.add_sub_cancel' hroom]

/-- All bytes are taken exactly if there is room for all of them. -/
theorem put_eq_ok_iff (s : Sink) (bytes : List UInt8) :
  (s.put bytes).1 = .ok () ↔ s.room bytes.length = bytes.length
  := by
  fun_induction put s bytes with
  | case1 s bytes h =>
    rw [List.isEmpty_iff.mp h]
    simpa using s.room_le 0
  | case2 s bytes h n hn =>
    have hpos := List.length_pos_iff.mpr (mt List.isEmpty_iff.mpr h)
    have hzero := (s.portion_eq_zero_iff bytes.length).mp hn
    simp only [reduceCtorEq, false_iff]
    omega
  | case3 s bytes h n hn ih =>
    have hroom := s.portion_le_room bytes.length
    have hle := s.room_le bytes.length
    rw [ih, List.length_drop, s.room_after hroom]
    omega

/-- Several runs of bytes are put one after the other, up to the first that fails. -/
def putEach (s : Sink) : List (List UInt8) → Except SinkError Unit × Sink
  | [] => (.ok (), s)
  | bytes :: more =>
    match s.put bytes with
    | (.ok (), s) => s.putEach more
    | (.error e, s) => (.error e, s)

/-- The sink is flushed, which is counted even where it fails. -/
def flush (s : Sink) : Except SinkError Unit × Sink :=
  (if s.flushFails then .error .flushFailed else .ok (), { s with flushes := s.flushes + 1 })

end Sink

end StyleTags
