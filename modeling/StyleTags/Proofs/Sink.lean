import StyleTags.Sink

/-!
# Streams into a sink

A stream reaches a sink in parts, and some of the parts may fail.  A sink that was offered a
stream holds the beginning of it, as far as there is room, whatever the parts were and in
whatever portions they were taken (`Offered.putEach`).  A part is taken wholly exactly if it
is empty or the stream fits up to the end of it (`Offered.putEach_eq_ok_iff`); so once a part
has failed, nothing more is taken.
-/

namespace StyleTags.Sink

/-- The beginning of a stream, as far as there is room. -/
def beginning (capacity : Option Nat) (stream : List UInt8) : List UInt8 :=
  capacity.elim stream stream.take

/-- Whether there is room for so many bytes. -/
def Fits (capacity : Option Nat) (length : Nat) : Prop :=
  ∀ n ∈ capacity, length ≤ n

/-- What a sink holds that was offered a stream. -/
structure Offered (s : Sink) (capacity : Option Nat) (stream : List UInt8) : Prop where
  capacity_eq : s.capacity = capacity
  held_eq : s.held = beginning capacity stream

variable {s : Sink} {capacity : Option Nat} {stream : List UInt8}

theorem capacity_put (s : Sink) (bytes : List UInt8) :
  (s.put bytes).2.capacity = s.capacity
  := by
  fun_induction put s bytes with
  | case1 s bytes h => rfl
  | case2 s bytes h n hn => rfl
  | case3 s bytes h n hn ih => apply ih

theorem fits_some_iff {n length : Nat} :
  Fits (some n) length ↔ length ≤ n
  := by
  simp [Fits]

theorem Fits.of_le {length length' : Nat} (h : Fits capacity length) (hle : length' ≤ length) :
  Fits capacity length'
  := by
  intro n hn
  apply Nat.le_trans hle (h n hn)

/-- A stream that does not fit is not made longer by what follows it. -/
theorem beginning_append_of_not_fits (h : ¬ Fits capacity stream.length) (bytes : List UInt8) :
  beginning capacity (stream ++ bytes) = beginning capacity stream
  := by
  cases capacity with
  | none => simp [Fits] at h
  | some n =>
      rw [fits_some_iff, Nat.not_le] at h
      apply List.take_append_of_le_length (Nat.le_of_lt h)

/-! ### One part -/

/-- How many bytes of a part there is room for, after the stream that came before it. -/
theorem Offered.room_eq (h : s.Offered capacity stream) (length : Nat) :
  s.room length = capacity.elim length fun n => min length (n - stream.length)
  := by
  rw [room, h.capacity_eq]
  cases capacity with
  | none => rfl
  | some n =>
      have hlength : s.held.length = min n stream.length := by
        rw [h.held_eq, beginning, Option.elim_some, List.length_take]
      simp only [hlength, Option.elim_some]
      omega

theorem Offered.put (h : s.Offered capacity stream) (bytes : List UInt8) :
  (s.put bytes).2.Offered capacity (stream ++ bytes)
  := by
  constructor
  case capacity_eq => rw [capacity_put, h.capacity_eq]
  case held_eq =>
    rw [held_put, h.room_eq, h.held_eq]
    cases capacity with
    | none =>
        rw [Option.elim_none, List.take_length]
        rfl
    | some n =>
        rw [beginning, beginning, Option.elim_some, Option.elim_some, Option.elim_some,
          List.take_append, List.append_cancel_left_eq, List.take_eq_take_iff]
        omega

theorem Offered.put_eq_ok_iff (h : s.Offered capacity stream) (bytes : List UInt8) :
  (s.put bytes).1 = .ok () ↔ bytes = [] ∨ Fits capacity (stream ++ bytes).length
  := by
  rw [Sink.put_eq_ok_iff, h.room_eq, ← List.length_eq_zero_iff, List.length_append]
  cases capacity with
  | none => simp [Fits]
  | some n =>
      rw [fits_some_iff, Option.elim_some]
      omega

/-! ### Several parts -/

theorem Offered.putEach (h : s.Offered capacity stream) (runs : List (List UInt8)) :
  (s.putEach runs).2.Offered capacity (stream ++ runs.flatten)
  := by
  induction runs generalizing s stream with
  | nil =>
      rw [List.flatten_nil, List.append_nil]
      apply h
  | cons bytes runs ih =>
      have hput := h.put bytes
      have hok := h.put_eq_ok_iff bytes
      rw [List.flatten_cons, ← List.append_assoc, Sink.putEach]
      cases hresult : s.put bytes with
      | mk result after =>
          rw [hresult] at hput hok
          cases result with
          | ok done => apply ih hput
          | error e =>
              simp only [reduceCtorEq, false_iff, not_or] at hok
              constructor
              case capacity_eq => apply hput.capacity_eq
              case held_eq =>
                rw [beginning_append_of_not_fits hok.2]
                apply hput.held_eq

theorem Offered.putEach_eq_ok_iff (h : s.Offered capacity stream) (runs : List (List UInt8)) :
  (s.putEach runs).1 = .ok ()
    ↔ runs.flatten = [] ∨ Fits capacity (stream ++ runs.flatten).length
  := by
  induction runs generalizing s stream with
  | nil => simp [Sink.putEach]
  | cons bytes runs ih =>
      have hput := h.put bytes
      have hok := h.put_eq_ok_iff bytes
      rw [List.flatten_cons, Sink.putEach]
      cases hresult : s.put bytes with
      | mk result after =>
          rw [hresult] at hput hok
          cases result with
          | ok done =>
              have hmore := ih hput
              simp only [true_iff] at hok
              by_cases hempty : runs.flatten = []
              · rw [hempty] at hmore ⊢
                simp only [List.append_nil, true_or, iff_true] at hmore ⊢
                simp only [hmore, hok]
              · simp only [hempty, false_or] at hmore
                simp only [hmore, List.append_eq_nil_iff, hempty, and_false, false_or,
                  List.append_assoc]
          | error e =>
              simp only [reduceCtorEq, false_iff, not_or] at hok ⊢
              constructor
              · intro hempty
                apply hok.1 (List.append_eq_nil_iff.mp hempty).1
              · intro hfits
                apply hok.2 (hfits.of_le _)
                simp only [List.length_append]
                omega

end StyleTags.Sink
