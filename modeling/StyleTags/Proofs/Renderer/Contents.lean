import StyleTags.Proofs.Codebook.Ledger
import StyleTags.Proofs.Renderer.History

/-!
# What a codebook holds after a run

A renderer does nothing with its codebook but consult it about the names that it meets, one
after the other (`book_run`).  What the codebook then holds can be told from these names: the
catalog, the escape sequences of the names that spell a paint, and a refusal of the others
(`contents_after_run`).  Neither the order of the names nor their number matters, and it does
not matter either whether the tags were shown or removed.
-/

namespace StyleTags

/-! ### Consulting about names one after the other -/

namespace Codebook

/-- Two codebooks that hold the same of every name. -/
structure Alike (book book' : Codebook) : Prop where
  find? : ∀ name, book.find? name = book'.find? name
  hasRefused : ∀ name, book.hasRefused name = book'.hasRefused name

theorem state_render (d : Delimiters) (mode : Mode) (book : Codebook) (row : List Piece) :
  (book.render d mode row).state = (Outcome.run consult book (Piece.names row)).state
  := by
  induction row generalizing book with
  | nil => rfl
  | cons p row ih =>
      cases p with
      | plain text => apply ih
      | tag name => apply ih

variable {book book' : Codebook} {ledger : Ledger} {met met' : List String}

/-- Whatever a codebook is consulted about, its two collections go on holding what one ledger
holds. -/
theorem exists_keeps_run_consult (h : book.Keeps ledger) (names : List String) :
  ∃ ledger', (Outcome.run consult book names).state.Keeps ledger'
  := by
  induction names generalizing book ledger with
  | nil => exact ⟨ledger, h⟩
  | cons name names ih =>
      have hnow := (agree_consult h name).state
      apply ih hnow

theorem status_eq_known_iff {name escape : String} :
  book.status name = .known escape ↔ book.find? name = some escape
  := by
  rw [status]
  cases book.find? name with
  | none =>
      cases book.hasRefused name with
      | true => simp
      | false => simp
  | some held => simp

theorem Keeps.status_eq_refused_iff (h : book.Keeps ledger) {name : String} :
  book.status name = .refused ↔ book.hasRefused name = true
  := by
  rw [h.status, h.hasRefused, decide_eq_true_iff]

/-- The known names are those of the catalog, and the names that were met and spell a paint. -/
theorem Met.find?_eq_some_iff (h : book.Met met) {name escape : String} :
  book.find? name = some escape
    ↔ Catalog.find? name = some escape
      ∨ Catalog.find? name = none ∧ name ∈ met ∧ (Paint.ofTag name).map Paint.escape = .ok escape
  := by
  rw [← status_eq_known_iff, h name, Status.settled, escapeOf]
  cases Catalog.find? name with
  | some held => simp
  | none =>
      by_cases hmet : name ∈ met
      · cases (Paint.ofTag name).map Paint.escape with
        | ok held => simp [hmet]
        | error reason => simp [hmet]
      · simp [hmet]

/-- The refused names are those that were met, are not in the catalog and spell no paint.  The
status alone does not tell this, as it passes over a refusal of a name that is known too. -/
theorem Met.hasRefused_iff (h : book.Met met) (hkeeps : book.Keeps ledger) {name : String} :
  book.hasRefused name = true
    ↔ Catalog.find? name = none ∧ name ∈ met ∧ ∃ reason, Paint.ofTag name = .error reason
  := by
  rw [← hkeeps.status_eq_refused_iff, h name, Status.settled, escapeOf]
  cases Catalog.find? name with
  | some held => simp
  | none =>
      by_cases hmet : name ∈ met
      · cases Paint.ofTag name with
        | ok paint => simp [hmet, Except.map]
        | error reason => simp [hmet, Except.map]
      · simp [hmet]

/-- What is held of a name depends on whether the name was met, not on how often or when. -/
theorem alike_of_met (h : book.Met met) (h' : book'.Met met') (hkeeps : book.Keeps ledger)
    {ledger' : Ledger} (hkeeps' : book'.Keeps ledger')
    (hsame : ∀ name, name ∈ met ↔ name ∈ met') :
  book.Alike book'
  := by
  constructor
  case find? =>
    intro name
    ext escape
    rw [h.find?_eq_some_iff, h'.find?_eq_some_iff, hsame]
  case hasRefused =>
    intro name
    rw [Bool.eq_iff_iff, h.hasRefused_iff hkeeps, h'.hasRefused_iff hkeeps', hsame]

end Codebook

/-! ### Showing and removing -/

/-- The mode in which tags are removed where they would be shown. -/
def Mode.quiet : Mode → Mode
  | .interpret => .remove
  | mode => mode

/-- The settings with tags removed where they would be shown. -/
def Settings.quiet (s : Settings) : Settings :=
  s.inMode s.mode.quiet

theorem Settings.names_quiet (s : Settings) (mode : Mode) (text : String) :
  s.quiet.names mode.quiet text = s.names mode text
  := by
  cases mode with
  | interpret => rfl
  | ignore => rfl
  | remove => rfl

namespace Renderer

/-- The call with tags removed where it would show them. -/
def Call.quiet : Call → Call
  | .renderAs m text => .renderAs m.quiet text
  | .useMode m => .useMode m.quiet
  | call => call

theorem isOwn_quiet {call : Call} (h : call.isOwn) :
  call.quiet.isOwn
  := by
  cases call with
  | book call => apply h
  | _ => rfl

theorem names_quiet (s : Settings) (call : Call) :
  call.quiet.names s.quiet = call.names s
  := by
  cases call with
  | render text => apply Settings.names_quiet
  | renderAs mode text => apply Settings.names_quiet
  | book call =>
      cases call with
      | _ => rfl
  | _ => rfl

theorem after_quiet (s : Settings) (call : Call) :
  s.quiet.after call.quiet = (s.after call).quiet
  := by
  cases call with
  | useDelimiters opening closing =>
      simp only [Call.quiet, Settings.after, Settings.between]
      cases Delimiters.ofStrings opening closing with
      | ok d => rfl
      | error e => rfl
  | _ => rfl

/-- The same names are met whether tags are shown or removed. -/
theorem namesMet_quiet (s : Settings) (calls : List Call) :
  namesMet s.quiet (calls.map Call.quiet) = namesMet s calls
  := by
  induction calls generalizing s with
  | nil => rfl
  | cons call calls ih =>
      rw [List.map_cons, namesMet, namesMet, names_quiet, after_quiet, ih]

theorem settings_start_quiet (opening closing : String) (mode : Mode) :
  (start opening closing mode.quiet).answer.settings
    = (start opening closing mode).answer.settings.quiet
  := by
  rw [start, start]
  cases Delimiters.ofStrings opening closing with
  | ok d => rfl
  | error e => rfl

/-! ### Calls and runs -/

theorem book_renderAs (r : Renderer) (mode : Mode) (text : String) :
  (r.renderAs mode text).state.book
    = (Outcome.run Codebook.consult r.book (r.settings.names mode text)).state
  := by
  rw [renderAs, Settings.names]
  split
  · rfl
  · apply Codebook.state_render

/-- A call that leaves the codebook to the renderer consults it about the names that it
meets, and does nothing else with it. -/
theorem book_perform (r : Renderer) {call : Call} (hown : call.isOwn) :
  (r.perform call).state.book
    = (Outcome.run Codebook.consult r.book (call.names r.settings)).state
  := by
  cases call with
  | render text => apply book_renderAs
  | renderAs mode text => apply book_renderAs
  | unmark text => apply book_renderAs
  | useDelimiters opening closing =>
      simp only [perform, useDelimiters]
      cases Delimiters.ofStrings opening closing with
      | ok d => rfl
      | error e => rfl
  | book call =>
      cases call with
      | learn name escape => contradiction
      | refuse name => contradiction
      | _ => rfl
  | _ => rfl

/-- A run consults the codebook about the names that are met, one after the other. -/
theorem book_run (r : Renderer) {calls : List Call} (hown : ∀ call ∈ calls, call.isOwn) :
  (r.run calls).book
    = (Outcome.run Codebook.consult r.book (namesMet r.settings calls)).state
  := by
  induction calls generalizing r with
  | nil => rfl
  | cons call calls ih =>
      rw [List.forall_mem_cons] at hown
      rw [namesMet, Outcome.state_run_append, ← book_perform r hown.1, ← settings_perform,
        ← ih _ hown.2]
      rfl

/-- Calls that put no other settings in force meet the names that each of them meets. -/
theorem mem_namesMet_iff {s : Settings} {calls : List Call} (h : ∀ call ∈ calls, s.after call = s)
    {name : String} :
  name ∈ namesMet s calls ↔ ∃ call ∈ calls, name ∈ call.names s
  := by
  induction calls with
  | nil => simp [namesMet]
  | cons call calls ih =>
      rw [List.forall_mem_cons] at h
      rw [namesMet, h.1, List.mem_append, ih h.2, List.exists_mem_cons_iff]

/-! ### Runs of a new renderer -/

variable {opening closing : String} {mode : Mode} {calls calls' : List Call}

theorem book_after_run (opening closing : String) (mode : Mode)
    (hown : ∀ call ∈ calls, call.isOwn) :
  ((start opening closing mode).answer.run calls).book
    = (Outcome.run Codebook.consult .initial
        (namesMet (start opening closing mode).answer.settings calls)).state
  := by
  rw [book_run _ hown, book_start]

theorem exists_keeps_after_run (opening closing : String) (mode : Mode)
    (hown : ∀ call ∈ calls, call.isOwn) :
  ∃ ledger, ((start opening closing mode).answer.run calls).book.Keeps ledger
  := by
  rw [book_after_run _ _ _ hown]
  apply Codebook.exists_keeps_run_consult Codebook.keeps_initial

/-- Runs that meet the same names leave codebooks alike. -/
theorem alike_after_run {opening' closing' : String} {mode' : Mode}
    (hown : ∀ call ∈ calls, call.isOwn) (hown' : ∀ call ∈ calls', call.isOwn)
    (hsame : ∀ name, name ∈ namesMet (start opening closing mode).answer.settings calls
      ↔ name ∈ namesMet (start opening' closing' mode').answer.settings calls') :
  ((start opening closing mode).answer.run calls).book.Alike
    ((start opening' closing' mode').answer.run calls').book
  := by
  obtain ⟨ledger, hkeeps⟩ := exists_keeps_after_run opening closing mode hown
  obtain ⟨ledger', hkeeps'⟩ := exists_keeps_after_run opening' closing' mode' hown'
  apply Codebook.alike_of_met (met_after_run _ _ _ hown) (met_after_run _ _ _ hown') hkeeps hkeeps'
    hsame

/-- The same calls in another order, or made more often, leave codebooks alike as long as they
put no other settings in force. -/
theorem alike_after_reordering (hown : ∀ call ∈ calls, call.isOwn)
    (hsame : ∀ call, call ∈ calls ↔ call ∈ calls')
    (hsettings : ∀ call ∈ calls, (start opening closing mode).answer.settings.after call
      = (start opening closing mode).answer.settings) :
  ((start opening closing mode).answer.run calls).book.Alike
    ((start opening closing mode).answer.run calls').book
  := by
  have hown' : ∀ call ∈ calls', call.isOwn := by
    intro call hcall
    apply hown call ((hsame call).mpr hcall)
  have hsettings' : ∀ call ∈ calls', (start opening closing mode).answer.settings.after call
      = (start opening closing mode).answer.settings := by
    intro call hcall
    apply hsettings call ((hsame call).mpr hcall)
  apply alike_after_run hown hown'
  intro name
  rw [mem_namesMet_iff hsettings, mem_namesMet_iff hsettings']
  simp only [hsame]

/-- Removing tags where they were shown leaves the same codebook. -/
theorem book_after_quiet_run (hown : ∀ call ∈ calls, call.isOwn) :
  ((start opening closing mode.quiet).answer.run (calls.map Call.quiet)).book
    = ((start opening closing mode).answer.run calls).book
  := by
  have hquiet : ∀ call ∈ calls.map Call.quiet, call.isOwn := by
    rw [List.forall_mem_map]
    intro call hcall
    apply isOwn_quiet (hown call hcall)
  rw [book_after_run _ _ _ hquiet, book_after_run _ _ _ hown, settings_start_quiet, namesMet_quiet]

/-- After any calls that leave the codebook to the renderer, it holds the catalog, the escape
sequences of those names met that spell a paint, and refusals of the others.  Codebooks are
alike after runs that meet the same names, such as runs that make the same calls in another
order or more often; it is the same codebook if tags were removed instead of shown, and a text
that is left alone does nothing.  A name that is looked up has its escape sequence, or the
reason why it has none the first time that it is met. -/
theorem contents_after_run (opening closing : String) (mode : Mode)
    (hown : ∀ call ∈ calls, call.isOwn) :
  let fresh := (start opening closing mode).answer
  let r := fresh.run calls
  let met := namesMet fresh.settings calls
  (∀ name escape, r.book.find? name = some escape
      ↔ Catalog.find? name = some escape
        ∨ Catalog.find? name = none ∧ name ∈ met
          ∧ (Paint.ofTag name).map Paint.escape = .ok escape)
    ∧ (∀ name, r.book.hasRefused name = true
      ↔ Catalog.find? name = none ∧ name ∈ met ∧ ∃ reason, Paint.ofTag name = .error reason)
    ∧ (∀ opening' closing' mode' calls', (∀ call ∈ calls', call.isOwn) →
        (∀ name, name ∈ met
          ↔ name ∈ namesMet (start opening' closing' mode').answer.settings calls') →
        r.book.Alike ((start opening' closing' mode').answer.run calls').book)
    ∧ (∀ calls', (∀ call, call ∈ calls ↔ call ∈ calls') →
        (∀ call ∈ calls, fresh.settings.after call = fresh.settings) →
        r.book.Alike (fresh.run calls').book)
    ∧ ((start opening closing mode.quiet).answer.run (calls.map Call.quiet)).book = r.book
    ∧ (∀ text, (r.renderAs .ignore text).state = r
        ∧ (r.settings.mode = .ignore → (r.render text).state = r))
    ∧ ∀ before name after, calls = before ++ .look name :: after →
      ((fresh.run before).perform (.look name)).answer
        = .resolved (match escapeOf name with
          | .ok escape => .ok escape
          | .error reason =>
            .error (if name ∈ namesMet fresh.settings before then .refusedBefore name else reason))
  := by
  intro fresh r met
  have hmet : r.book.Met met := met_after_run opening closing mode hown
  obtain ⟨ledger, hkeeps⟩ := exists_keeps_after_run opening closing mode hown
  refine ⟨?known, ?refused, ?names, ?order, ?quiet, ?ignore, ?look⟩
  case known =>
    intro name escape
    apply hmet.find?_eq_some_iff
  case refused =>
    intro name
    apply hmet.hasRefused_iff hkeeps
  case names =>
    intro opening' closing' mode' calls' hown' hsame
    apply alike_after_run hown hown' hsame
  case order =>
    intro calls' hsame hsettings
    apply alike_after_reordering hown hsame hsettings
  case quiet => apply book_after_quiet_run hown
  case ignore =>
    intro text
    constructor
    · rfl
    · intro hmode
      rw [render, hmode]
      rfl
  case look =>
    rintro before name after rfl
    have hbefore : ∀ call ∈ before, call.isOwn := by
      intro call hcall
      apply hown call (List.mem_append_left _ hcall)
    apply congrArg Answer.resolved
    apply answer_look (met_after_run opening closing mode hbefore)

/-- A name is met under the delimiters in force, whether it is shown or removed; a text that is
left alone and a name of the catalog leave nothing. -/
theorem contents_after_scanning :
  let calls : List Call :=
    [.render "[fg:Teal]x[red]", .useDelimiters "<" ">", .unmark "<bogus>[y]",
      .renderAs .ignore "<z>", .look "bogus"]
  (∀ call ∈ calls, call.isOwn)
    ∧ (standard.run calls).book.find? "fg:Teal" = some "\x1b[38;2;0;128;128m"
    ∧ (standard.run calls).book.hasRefused "bogus" = true
    ∧ (standard.run calls).book.hasRefused "y" = false
    ∧ ((standard.run (calls.take 4)).perform (.look "bogus")).answer
      = .resolved (.error (.refusedBefore "bogus"))
  := by
  intro calls
  have hown : ∀ call ∈ calls, call.isOwn := by decide
  obtain ⟨hknown, hrefused, -, -, -, -, hlook⟩ := contents_after_run "[" "]" .interpret hown
  have hmet : namesMet (start "[" "]" .interpret).answer.settings calls
      = ["fg:Teal", "red", "bogus", "bogus"] := by decide +kernel
  have hteal : Catalog.find? "fg:Teal" = none
      ∧ (Paint.ofTag "fg:Teal").map Paint.escape = .ok "\x1b[38;2;0;128;128m" := by decide +kernel
  have hbogus : Catalog.find? "bogus" = none
      ∧ Paint.ofTag "bogus" = .error (.noSuchColor "bogus") := by decide +kernel
  rw [hmet] at hknown hrefused
  rw [standard_eq_start]
  use hown
  constructor
  · apply (hknown _ _).mpr
    right
    exact ⟨hteal.1, by decide, hteal.2⟩
  constructor
  · apply (hrefused _).mpr
    exact ⟨hbogus.1, by decide, .noSuchColor "bogus", hbogus.2⟩
  constructor
  · rw [← Bool.not_eq_true, hrefused]
    rintro ⟨-, hy, -⟩
    revert hy
    decide
  · rw [hlook (calls.take 4) "bogus" [] rfl]
    apply congrArg Answer.resolved
    decide +kernel

end Renderer

end StyleTags
