import StyleTags.Proofs.Journal.Run
import StyleTags.Proofs.Renderer.Contents

/-!
# What a renderer reports of its tags

A renderer reports a name when it works it out, and never again.  Among the events of a run
those about tags are therefore one for each name met that is not in the catalog, in the order
in which the names come first (`events_after_run`).
-/

namespace StyleTags

/-- What is reported when a tag is worked out. -/
def Event.ofTag (tag : String) : Event :=
  match (Paint.ofTag tag).map Paint.escape with
  | .ok escape => .derived tag escape
  | .error reason => .refused tag reason

/-- How grave it is that a tag was worked out, and how it is worded. -/
theorem Event.level_message_ofTag (tag : String) :
  ((ofTag tag).level, (ofTag tag).message)
    = match (Paint.ofTag tag).map Paint.escape with
      | .ok escape =>
        (.trace, "derived markup code " ++ quoted tag ++ " -> " ++ quoted escape)
      | .error reason =>
        (.debug, "rejecting markup token " ++ quoted tag ++ ": " ++ reason.message)
  := by
  rw [ofTag]
  cases (Paint.ofTag tag).map Paint.escape with
  | ok escape => rfl
  | error reason => rfl

/-- Whether an event is about a tag, as its source tells. -/
def Event.isAboutTag (e : Event) : Bool :=
  e.source = "markup::resolver"

/-- The names that are not in the catalog, each of them once, in the order in which they come
first. -/
def Catalog.newNames (names : List String) : List String :=
  (names.filter fun name => (find? name).isNone).eraseDups

namespace Catalog

/-- A further name is new if it is not in the catalog and has not come before. -/
theorem newNames_append_singleton (names : List String) (name : String) :
  newNames (names ++ [name])
    = newNames names ++ if (find? name).isSome ∨ name ∈ names then [] else [name]
  := by
  rw [newNames, newNames, List.filter_append, List.eraseDups_append]
  congr 1
  cases hfind : find? name with
  | some escape => simp [hfind]
  | none =>
      by_cases hmem : name ∈ names
      · simp [hfind, hmem, List.removeAll]
      · simp [hfind, hmem, List.removeAll, List.eraseDups_cons]

theorem mem_newNames_iff {names : List String} {name : String} :
  name ∈ newNames names ↔ find? name = none ∧ name ∈ names
  := by
  rw [newNames, List.mem_eraseDups, List.mem_filter, Option.isNone_iff_eq_none, and_comm]

theorem nodup_newNames (names : List String) :
  (newNames names).Nodup
  := by
  induction names using List.reverseRecOn with
  | nil => exact List.nodup_nil
  | append_singleton names name ih =>
      rw [newNames_append_singleton]
      split
      · rw [List.append_nil]
        apply ih
      · next hnew =>
        rw [← List.concat_eq_append]
        apply List.Nodup.concat _ ih
        rw [mem_newNames_iff]
        rintro ⟨-, hmem⟩
        apply hnew (Or.inr hmem)

end Catalog

namespace Codebook

variable {book : Codebook} {met : List String}

/-! ### Consulting -/

/-- A name is reported when it is met for the first time and is not in the catalog. -/
theorem Met.events_consult (h : book.Met met) (tag : String) :
  (book.consult tag).events
    = if (Catalog.find? tag).isSome ∨ tag ∈ met then [] else [.ofTag tag]
  := by
  rw [consult_eq]
  have hstatus := h tag
  split at hstatus
  · next hheld =>
    rw [hstatus, Status.settled, if_pos hheld]
    cases escapeOf tag with
    | ok escape => rfl
    | error reason => rfl
  · next hnot =>
    rw [hstatus, Event.ofTag, if_neg hnot]
    cases Paint.ofTag tag with
    | ok paint => rfl
    | error reason => rfl

theorem Met.run_consult (h : book.Met met) (names : List String) :
  (Outcome.run consult book names).state.Met (met ++ names)
  := by
  induction names generalizing book met with
  | nil =>
      rw [List.append_nil]
      apply h
  | cons name names ih =>
      have hafter := ih (met_consult h name)
      rw [List.append_assoc] at hafter
      apply hafter

/-- A new codebook that is consulted about some names reports the new ones among them. -/
theorem events_run_consult (names : List String) :
  (Outcome.run consult initial names).events = (Catalog.newNames names).map Event.ofTag
  := by
  induction names using List.reverseRecOn with
  | nil => rfl
  | append_singleton names name ih =>
      have hmet : (Outcome.run consult initial names).state.Met names :=
        met_initial.run_consult names
      rw [Outcome.events_run_append, ih, Catalog.newNames_append_singleton, List.map_append,
        Outcome.events_run_singleton, hmet.events_consult]
      congr 1
      split
      · rfl
      · rfl

/-- All that a codebook reports is about tags. -/
theorem filter_events_consult (book : Codebook) (tag : String) :
  (book.consult tag).events.filter Event.isAboutTag = (book.consult tag).events
  := by
  rw [consult_eq]
  cases book.status tag with
  | known escape => rfl
  | refused => rfl
  | unknown =>
      cases Paint.ofTag tag with
      | ok paint => rfl
      | error reason => rfl

theorem filter_events_run_consult (book : Codebook) (names : List String) :
  (Outcome.run consult book names).events.filter Event.isAboutTag
    = (Outcome.run consult book names).events
  := by
  induction names generalizing book with
  | nil => rfl
  | cons name names ih => rw [Outcome.run, List.filter_append, filter_events_consult, ih]

theorem events_render (d : Delimiters) (mode : Mode) (book : Codebook) (row : List Piece) :
  (book.render d mode row).events = (Outcome.run consult book (Piece.names row)).events
  := by
  induction row generalizing book with
  | nil => rfl
  | cons p row ih =>
      cases p with
      | plain text => apply ih
      | tag name =>
          have hlater := ih (book.consult (String.ofList name)).state
          rw [render, hlater]
          rfl

end Codebook

namespace Renderer

/-! ### Calls and runs -/

theorem events_renderAs (r : Renderer) (mode : Mode) (text : String) :
  (r.renderAs mode text).events
    = (Outcome.run Codebook.consult r.book (r.settings.names mode text)).events
  := by
  rw [renderAs, Settings.names]
  split
  · rfl
  · apply Codebook.events_render

theorem filter_events_renderAs (r : Renderer) (mode : Mode) (text : String) :
  (r.renderAs mode text).events.filter Event.isAboutTag
    = (Outcome.run Codebook.consult r.book (r.settings.names mode text)).events
  := by
  rw [events_renderAs, Codebook.filter_events_run_consult]

/-- What a call reports of tags is what the codebook reports when it is consulted about the names
that the call meets. -/
theorem filter_events_perform (r : Renderer) {call : Call} (hown : call.isOwn) :
  (r.perform call).events.filter Event.isAboutTag
    = (Outcome.run Codebook.consult r.book (call.names r.settings)).events
  := by
  cases call with
  | render text => apply filter_events_renderAs
  | renderAs mode text => apply filter_events_renderAs
  | unmark text => apply filter_events_renderAs
  | look name =>
      rw [Call.names, Outcome.events_run_singleton]
      apply Codebook.filter_events_consult
  | useDelimiters opening closing =>
      simp only [perform, useDelimiters]
      cases Delimiters.ofStrings opening closing with
      | ok d => rfl
      | error e => rfl
  | book call =>
      cases call with
      | learn name escape => contradiction
      | refuse name => contradiction
      | consult name =>
          rw [Call.names, Outcome.events_run_singleton]
          apply Codebook.filter_events_consult
      | _ => rfl
  | _ => rfl

theorem filter_events_run (r : Renderer) {calls : List Call} (hown : ∀ call ∈ calls, call.isOwn) :
  (Outcome.run perform r calls).events.filter Event.isAboutTag
    = (Outcome.run Codebook.consult r.book (namesMet r.settings calls)).events
  := by
  induction calls generalizing r with
  | nil => rfl
  | cons call calls ih =>
      rw [List.forall_mem_cons] at hown
      rw [Outcome.run, List.filter_append, filter_events_perform r hown.1, ih _ hown.2, namesMet,
        Outcome.events_run_append, book_perform r hown.1, settings_perform]

/-- The making of a renderer reports nothing of tags. -/
theorem filter_events_start (opening closing : String) (mode : Mode) :
  (start opening closing mode).events.filter Event.isAboutTag = []
  := by
  rw [start]
  split
  · rfl
  · rfl

/-- The events about tags that a new renderer reports are one for each name that is met and is not
in the catalog, in the order in which the names are met first: its escape sequence if the name
spells a paint, and the reason why not if it does not.  A journal that lets everything pass
writes a line for each event. -/
theorem events_after_run (opening closing : String) (mode : Mode) {calls : List Call}
    (hown : ∀ call ∈ calls, call.isOwn) :
  let fresh := start opening closing mode
  let told := fresh.events ++ (Outcome.run perform fresh.answer calls).events
  let met := namesMet fresh.answer.settings calls
  let names := Catalog.newNames met
  told.filter Event.isAboutTag = names.map Event.ofTag
    ∧ names.Nodup ∧ (∀ name, name ∈ names ↔ Catalog.find? name = none ∧ name ∈ met)
    ∧ (∀ name, ((Event.ofTag name).level, (Event.ofTag name).message)
      = match (Paint.ofTag name).map Paint.escape with
        | .ok escape =>
          (.trace, "derived markup code " ++ Event.quoted name ++ " -> " ++ Event.quoted escape)
        | .error reason =>
          (.debug, "rejecting markup token " ++ Event.quoted name ++ ": " ++ reason.message))
    ∧ ∀ file, file.opens →
      ((Journal.opened file .trace).recordAll told).entries
        = told.map fun e => ⟨file.path, e.line⟩
  := by
  intro fresh told met names
  refine ⟨?events, ?nodup, ?names, ?wording, ?entries⟩
  case events =>
    rw [List.filter_append, filter_events_start, filter_events_run _ hown, book_start,
      Codebook.events_run_consult]
    rfl
  case nodup => apply Catalog.nodup_newNames
  case names =>
    intro name
    apply Catalog.mem_newNames_iff
  case wording => apply Event.level_message_ofTag
  case entries =>
    intro file hopens
    apply Journal.entries_recordAll_opened hopens

/-- A name is reported once, however often and under whatever delimiters it is met. -/
theorem events_after_repetition :
  let fresh := start "[" "]" .interpret
  let calls : List Call :=
    [.render "[fg:Teal]x[bogus][red][fg:Teal]", .useDelimiters "<" ">", .unmark "<y><bogus>",
      .renderAs .ignore "<z>", .look "bogus"]
  (∀ call ∈ calls, call.isOwn)
    ∧ (fresh.events ++ (Outcome.run perform fresh.answer calls).events).filter Event.isAboutTag
      = [.derived "fg:Teal" "\x1b[38;2;0;128;128m", .refused "bogus" (.noSuchColor "bogus"),
        .refused "y" (.noSuchColor "y")]
  := by
  intro fresh calls
  have hown : ∀ call ∈ calls, call.isOwn := by decide
  have hnames : Catalog.newNames (namesMet fresh.answer.settings calls)
      = ["fg:Teal", "bogus", "y"] := by decide +kernel
  have hteal : (Paint.ofTag "fg:Teal").map Paint.escape = .ok "\x1b[38;2;0;128;128m" := by
    decide +kernel
  have hbogus : (Paint.ofTag "bogus").map Paint.escape = .error (.noSuchColor "bogus") := by
    decide +kernel
  have hy : (Paint.ofTag "y").map Paint.escape = .error (.noSuchColor "y") := by decide +kernel
  have hevents := (events_after_run "[" "]" .interpret hown).1
  rw [hnames, List.map_cons, List.map_cons, List.map_singleton, Event.ofTag, hteal, Event.ofTag,
    hbogus, Event.ofTag, hy] at hevents
  exact ⟨hown, hevents⟩

end Renderer

end StyleTags
