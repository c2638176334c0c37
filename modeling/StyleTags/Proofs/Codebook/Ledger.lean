import StyleTags.Codebook.Call
import StyleTags.Proofs.Codebook.Meaning
import StyleTags.Proofs.Run
import Mathlib.Data.Set.Card

/-!
# The codebook as one ledger

A codebook keeps two collections, and nothing in their types keeps a name from being in
both.  A ledger is a single map from names to their status, where this cannot happen.  A
codebook that holds what a ledger holds answers every call as the ledger does, and holds
afterwards what the ledger then holds (`agree_perform`).  So a new codebook cannot be told
from a ledger by any sequence of calls (`answer_run_eq_ledger`).
-/

namespace StyleTags

/-- The escape sequence that is held of a name. -/
def Status.escape? : Status → Option String
  | .known escape => some escape
  | _ => none

/-- One map from names to what is held of them. -/
abbrev Ledger : Type :=
  String → Status

namespace Ledger

/-- At the start the names of the catalog are known, and nothing is held of the others. -/
def initial : Ledger := fun name =>
  match Catalog.find? name with
  | some escape => .known escape
  | none => .unknown

/-- The names that have an escape sequence. -/
def knownNames (ledger : Ledger) : Set String :=
  {name | ∃ escape, ledger name = .known escape}

/-- The names that were refused. -/
def refusedNames (ledger : Ledger) : Set String :=
  {name | ledger name = .refused}

/-- A tag of which nothing is held is worked out, and what comes of it is held from then
on. -/
def workOut (ledger : Ledger) (tag : String) : Outcome Ledger (Except TagError String) :=
  match (Paint.ofTag tag).map Paint.escape with
  | .ok escape =>
    ⟨.ok escape, Function.update ledger tag (.known escape), [.derived tag escape]⟩
  | .error reason =>
    ⟨.error reason, Function.update ledger tag .refused, [.refused tag reason]⟩

/-- A call is carried out on a ledger. -/
noncomputable def perform (ledger : Ledger) : Codebook.Call → Outcome Ledger Codebook.Answer
  | .find name => ⟨.found (ledger name).escape?, ledger, []⟩
  | .has name => ⟨.flag (ledger name).escape?.isSome, ledger, []⟩
  | .hasRefused name => ⟨.flag (decide (ledger name = .refused)), ledger, []⟩
  | .learn name escape => ⟨.done, Function.update ledger name (.known escape), []⟩
  | .refuse name =>
    ⟨.done, if ledger name = .unknown then Function.update ledger name .refused else ledger, []⟩
  | .size => ⟨.count ledger.knownNames.ncard, ledger, []⟩
  | .refusals => ⟨.count ledger.refusedNames.ncard, ledger, []⟩
  | .consult tag =>
    match ledger tag with
    | .known escape => ⟨.resolved (.ok escape), ledger, []⟩
    | .refused => ⟨.resolved (.error (.refusedBefore tag)), ledger, []⟩
    | .unknown => (ledger.workOut tag).map .resolved

end Ledger

/-- The name that a call is about. -/
def Codebook.Call.name? : Codebook.Call → Option String
  | .find name | .has name | .hasRefused name | .learn name _ | .refuse name | .consult name =>
    some name
  | .size | .refusals => none

/-! ### What becomes of a ledger -/

namespace Ledger

variable {ledger : Ledger} {name : String}

/-- A call learns a name, or settles a name of which nothing was held, or changes nothing. -/
theorem cases_state_perform (ledger : Ledger) (call : Codebook.Call) :
  (∃ name escape, call = .learn name escape
      ∧ (ledger.perform call).state = Function.update ledger name (.known escape))
    ∨ (∃ name status, call.name? = some name ∧ ledger name = .unknown
      ∧ (ledger.perform call).state = Function.update ledger name status)
    ∨ (ledger.perform call).state = ledger
  := by
  cases call with
  | learn name escape =>
      left
      use name, escape
      constructor
      · rfl
      · rfl
  | refuse name =>
      right
      by_cases hunknown : ledger name = .unknown
      · left
        use name, .refused, rfl, hunknown
        apply if_pos hunknown
      · right
        apply if_neg hunknown
  | consult tag =>
      right
      rw [perform]
      cases hstatus : ledger tag with
      | known escape =>
          right
          rfl
      | refused =>
          right
          rfl
      | unknown =>
          left
          rw [workOut]
          cases (Paint.ofTag tag).map Paint.escape with
          | ok escape => exact ⟨tag, .known escape, rfl, hstatus, rfl⟩
          | error reason => exact ⟨tag, .refused, rfl, hstatus, rfl⟩
  | _ =>
      right
      right
      rfl

/-- A call changes nothing about the names that it is not about. -/
theorem state_perform_of_name_ne {call : Codebook.Call} (h : call.name? ≠ some name) :
  (ledger.perform call).state name = ledger name
  := by
  rcases cases_state_perform ledger call with
    ⟨other, escape, rfl, hstate⟩ | ⟨other, status, hname, -, hstate⟩ | hstate
  · rw [hstate, Function.update_of_ne]
    rintro rfl
    apply h rfl
  · rw [hstate, Function.update_of_ne]
    rintro rfl
    apply h hname
  · rw [hstate]

theorem state_run_of_name_ne (ledger : Ledger) {calls : List Codebook.Call}
    (h : ∀ call ∈ calls, call.name? ≠ some name) :
  (Outcome.run perform ledger calls).state name = ledger name
  := by
  induction calls generalizing ledger with
  | nil => rfl
  | cons call calls ih =>
      rw [List.forall_mem_cons] at h
      rw [Outcome.run, ih _ h.2, state_perform_of_name_ne h.1]

/-- A name that is known stays known, and with the same escape sequence unless another one is
learnt. -/
theorem state_perform_of_known {escape : String} (h : ledger name = .known escape)
    (call : Codebook.Call) :
  ∃ escape', (ledger.perform call).state name = .known escape'
    ∧ (escape' = escape ∨ call = .learn name escape')
  := by
  rcases cases_state_perform ledger call with
    ⟨other, fresh, rfl, hstate⟩ | ⟨other, status, -, hunknown, hstate⟩ | hstate
  · rw [hstate]
    by_cases hname : name = other
    · subst hname
      use fresh
      constructor
      · apply Function.update_self
      · right
        rfl
    · use escape
      constructor
      · rw [Function.update_of_ne hname, h]
      · left
        rfl
  · have hname : name ≠ other := by
      rintro rfl
      rw [h] at hunknown
      contradiction
    use escape
    constructor
    · rw [hstate, Function.update_of_ne hname, h]
    · left
      rfl
  · use escape
    constructor
    · rw [hstate, h]
    · left
      rfl

theorem state_run_of_known {escape : String} (h : ledger name = .known escape)
    (calls : List Codebook.Call) :
  ∃ escape', (Outcome.run perform ledger calls).state name = .known escape'
    ∧ (escape' = escape ∨ .learn name escape' ∈ calls)
  := by
  induction calls generalizing ledger escape with
  | nil => exact ⟨escape, h, Or.inl rfl⟩
  | cons call calls ih =>
      obtain ⟨now, hnow, hcall⟩ := state_perform_of_known h call
      obtain ⟨escape', hlater, hfrom⟩ := ih hnow
      use escape', hlater
      rw [List.mem_cons]
      rcases hfrom with rfl | hmem
      · apply hcall.imp_right
        rintro rfl
        left
        rfl
      · right
        right
        apply hmem

end Ledger

namespace Codebook

/-- The two collections of a codebook hold what a ledger holds. -/
structure Keeps (book : Codebook) (ledger : Ledger) : Prop where
  find? : ∀ name, book.find? name = (ledger name).escape?
  hasRefused : ∀ name, book.hasRefused name = decide (ledger name = .refused)

variable {book : Codebook} {ledger : Ledger}

/-! ### What a codebook holds -/

theorem Keeps.status (h : book.Keeps ledger) (name : String) :
  book.status name = ledger name
  := by
  rw [Codebook.status, h.find?, h.hasRefused]
  cases ledger name with
  | unknown => rfl
  | refused => rfl
  | known escape => rfl

theorem Keeps.has (h : book.Keeps ledger) (name : String) :
  book.has name = (ledger name).escape?.isSome
  := by
  rw [has_eq_isSome, h.find?]

/-- No name is in both collections. -/
theorem Keeps.apart (h : book.Keeps ledger) (name : String) :
  ¬ (book.has name = true ∧ book.hasRefused name = true)
  := by
  rw [h.has, h.hasRefused]
  cases ledger name with
  | unknown => simp [Status.escape?]
  | refused => simp [Status.escape?]
  | known escape => simp

theorem keeps_initial :
  initial.Keeps .initial
  := by
  constructor
  case find? =>
    intro name
    rw [Ledger.initial, find?_initial]
    cases Catalog.find? name with
    | none => rfl
    | some escape => rfl
  case hasRefused =>
    intro name
    rw [Ledger.initial, hasRefused_initial]
    cases Catalog.find? name with
    | none => rfl
    | some escape => rfl

theorem Keeps.learn (h : book.Keeps ledger) (name escape : String) :
  (book.learn name escape).Keeps (Function.update ledger name (.known escape))
  := by
  constructor
  case find? =>
    intro other
    rw [find?_learn, h.find?, Function.update_apply]
    by_cases hname : name = other
    · simp [hname, Status.escape?]
    · simp [hname, Ne.symm hname]
  case hasRefused =>
    intro other
    rw [hasRefused_learn, h.hasRefused, Function.update_apply]
    by_cases hname : name = other
    · simp [hname]
    · simp [hname, Ne.symm hname]

theorem Keeps.markRefused (h : book.Keeps ledger) {name : String} (hhas : book.has name = false) :
  (book.refuse name).Keeps (Function.update ledger name .refused)
  := by
  constructor
  case find? =>
    intro other
    rw [find?_refuse, Function.update_apply]
    split
    · next hname =>
      rw [has_eq_isSome, Option.isSome_eq_false_iff, Option.isNone_iff_eq_none] at hhas
      rw [hname, hhas]
      rfl
    · apply h.find?
  case hasRefused =>
    intro other
    rw [hasRefused_refuse, hhas, h.hasRefused, Function.update_apply]
    by_cases hname : name = other
    · simp [hname]
    · simp [hname, Ne.symm hname]

/-- A refusal changes what is held of a name only where nothing was. -/
theorem Keeps.refuse (h : book.Keeps ledger) (name : String) :
  (book.refuse name).Keeps
    (if ledger name = .unknown then Function.update ledger name .refused else ledger)
  := by
  have hhas := h.has name
  cases hstatus : ledger name with
  | unknown =>
      rw [hstatus] at hhas
      rw [if_pos rfl]
      apply h.markRefused hhas
  | refused =>
      rw [hstatus] at hhas
      rw [if_neg (by simp)]
      have hrefused := h.markRefused hhas
      rw [← hstatus, Function.update_eq_self] at hrefused
      apply hrefused
  | known escape =>
      rw [hstatus] at hhas
      have hsame : book.refuse name = book := if_pos hhas
      rw [hsame, if_neg (by simp)]
      apply h

/-! ### Counting -/

theorem Keeps.knownNames_eq (h : book.Keeps ledger) :
  ledger.knownNames = {name | book.known.contains name = true}
  := by
  ext name
  have hhas : book.known.contains name = (ledger name).escape?.isSome := h.has name
  rw [Set.mem_ofPred_eq, hhas, Ledger.knownNames, Set.mem_ofPred_eq]
  cases ledger name with
  | unknown => simp [Status.escape?]
  | refused => simp [Status.escape?]
  | known escape => simp [Status.escape?]

theorem Keeps.refusedNames_eq (h : book.Keeps ledger) :
  ledger.refusedNames = {name | book.refused.inner.contains name = true}
  := by
  ext name
  have hrefused : book.refused.inner.contains name = decide (ledger name = .refused) :=
    h.hasRefused name
  rw [Set.mem_ofPred_eq, hrefused, decide_eq_true_iff]
  rfl

theorem Keeps.size_eq (h : book.Keeps ledger) :
  book.size = ledger.knownNames.ncard
  := by
  rw [h.knownNames_eq, Table.ncard_names]
  rfl

theorem Keeps.refusals_eq (h : book.Keeps ledger) :
  book.refusals = ledger.refusedNames.ncard
  := by
  rw [h.refusedNames_eq, Table.ncard_names]
  rfl

/-- What is counted is finite. -/
theorem Keeps.finite (h : book.Keeps ledger) :
  ledger.knownNames.Finite ∧ ledger.refusedNames.Finite
  := by
  rw [h.knownNames_eq, h.refusedNames_eq]
  constructor
  · apply Table.finite_names
  · apply Table.finite_names

/-! ### Calls -/

/-- A tag is resolved as the ledger resolves it. -/
theorem agree_consult (h : book.Keeps ledger) (tag : String) :
  ((book.consult tag).map .resolved).Agree Keeps (ledger.perform (.consult tag))
  := by
  rw [consult_eq, h.status, Ledger.perform]
  cases hstatus : ledger tag with
  | known escape => exact ⟨rfl, rfl, h⟩
  | refused => exact ⟨rfl, rfl, h⟩
  | unknown =>
      rw [Ledger.workOut]
      cases Paint.ofTag tag with
      | ok paint => exact ⟨rfl, rfl, h.learn tag paint.escape⟩
      | error reason =>
          have hhas := h.has tag
          rw [hstatus] at hhas
          exact ⟨rfl, rfl, h.markRefused hhas⟩

/-- A codebook that holds what a ledger holds answers as the ledger does, and holds
afterwards what the ledger then holds. -/
theorem agree_perform (h : book.Keeps ledger) (call : Call) :
  (book.perform call).Agree Keeps (ledger.perform call)
  := by
  cases call with
  | find name => exact ⟨congrArg Answer.found (h.find? name), rfl, h⟩
  | has name => exact ⟨congrArg Answer.flag (h.has name), rfl, h⟩
  | hasRefused name => exact ⟨congrArg Answer.flag (h.hasRefused name), rfl, h⟩
  | learn name escape => exact ⟨rfl, rfl, h.learn name escape⟩
  | refuse name => exact ⟨rfl, rfl, h.refuse name⟩
  | size => exact ⟨congrArg Answer.count h.size_eq, rfl, h⟩
  | refusals => exact ⟨congrArg Answer.count h.refusals_eq, rfl, h⟩
  | consult tag => apply agree_consult h

/-! ### Runs -/

theorem keeps_run (h : book.Keeps ledger) (calls : List Call) :
  (Outcome.run perform book calls).state.Keeps (Outcome.run Ledger.perform ledger calls).state
  := (Outcome.agree_run (fun _ _ call h => agree_perform h call) h calls).state

/-- A new codebook answers all calls as the ledger that starts with the catalog does; the names
that the ledger counts are finitely many, and no name is in both collections.  Further calls
change what is held of a name only if they are about it; a name that has an escape sequence
keeps having one and is not refused, and the sequence is changed only by learning another. -/
theorem answer_run_eq_ledger (calls : List Call) :
  let made := Outcome.run perform initial calls
  let asked := Outcome.run Ledger.perform .initial calls
  made.answer = asked.answer
    ∧ (∀ name, made.state.status name = asked.state name)
    ∧ asked.state.knownNames.Finite ∧ asked.state.refusedNames.Finite
    ∧ (∀ name, ¬ (made.state.has name = true ∧ made.state.hasRefused name = true))
    ∧ ∀ name later,
      let after := (Outcome.run perform made.state later).state
      ((∀ call ∈ later, call.name? ≠ some name) →
          after.find? name = made.state.find? name
            ∧ after.hasRefused name = made.state.hasRefused name)
        ∧ ∀ escape, made.state.find? name = some escape →
          after.hasRefused name = false
            ∧ ∃ escape', after.find? name = some escape'
              ∧ (escape' = escape ∨ .learn name escape' ∈ later)
  := by
  intro made asked
  have hagree := Outcome.agree_run (fun _ _ call h => agree_perform h call) keeps_initial calls
  have hkeeps : made.state.Keeps asked.state := hagree.state
  use hagree.answer, hkeeps.status, hkeeps.finite.1, hkeeps.finite.2, hkeeps.apart
  intro name later after
  have hafter : after.Keeps (Outcome.run Ledger.perform asked.state later).state :=
    keeps_run hkeeps later
  constructor
  · intro hother
    have hsame := Ledger.state_run_of_name_ne asked.state hother
    rw [hafter.find?, hafter.hasRefused, hkeeps.find?, hkeeps.hasRefused, hsame]
    exact ⟨rfl, rfl⟩
  · intro escape hfound
    have hknown : asked.state name = .known escape := by
      rw [← hkeeps.status, status, hfound]
    obtain ⟨escape', hlater, hfrom⟩ := Ledger.state_run_of_known hknown later
    rw [hafter.hasRefused, hafter.find?, hlater]
    use rfl, escape', rfl

end Codebook

end StyleTags
