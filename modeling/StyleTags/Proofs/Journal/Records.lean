import StyleTags.Proofs.Paint.Refusals
import StyleTags.Proofs.Renderer.Events
import StyleTags.Proofs.Text.Quoted

/-!
# Records of a log

An event about a tag is written to the log as one record, which begins with the level in brackets
and ends with a line end.  The tag stands in it as a quoted text, which has no line end; but the
wording of a refusal repeats the tag, or its last field, as it is.  The record of a tag that is
refused therefore has as many further line ends as the tag, and that of a tag that is read has none
(`record_of_consult`).
-/

namespace StyleTags

/-! ### Line ends -/

namespace Text

/-- The number of line ends in a text. -/
def lineEnds (text : String) : Nat :=
  text.toList.count '\n'

theorem lineEnds_append (text text' : String) :
  lineEnds (text ++ text') = lineEnds text + lineEnds text'
  := by
  rw [lineEnds, String.toList_append, List.count_append]
  rfl

theorem lineEnds_append_of_free {text : String} (h : lineEnds text = 0) (text' : String) :
  lineEnds (text ++ text') = lineEnds text'
  := by
  rw [lineEnds_append, h, Nat.zero_add]

theorem lineEnds_quoted (text : String) :
  lineEnds (String.ofList (quote text.toList)) = 0
  := by
  rw [lineEnds, String.toList_ofList]
  apply List.count_eq_zero_of_not_mem (lineEnd_not_mem_quote _)

end Text

open Text (lineEnds lineEnds_append lineEnds_append_of_free lineEnds_quoted)

/-! ### The wording of refusals -/

/-- A name is the only part of a tag in which line ends can stand, if its fields hold a name. -/
theorem HoldName.lineEnds_eq {tag name : String} (h : HoldName (tag.toList.splitOn ':') name) :
  lineEnds name = lineEnds tag
  := by
  have hjoined : [':'].intercalate (tag.toList.splitOn ':') = tag.toList :=
    List.intercalate_splitOn ':'
  rw [lineEnds, lineEnds, ← hjoined]
  rcases h with heq | ⟨mark, hmark, heq⟩
  · rw [heq, List.intercalate_singleton]
  · rw [heq, List.intercalate_cons_cons, List.intercalate_singleton, List.count_append,
      List.count_append]
    rcases hmark with rfl | rfl
    · simp
    · simp

/-- The wording of a refusal has the line ends of the tag in it, and no others. -/
theorem lineEnds_message_of_refusal {tag : String} {reason : TagError}
    (h : Refusal tag (tag.toList.splitOn ':') reason) :
  lineEnds reason.message = lineEnds tag
  := by
  generalize hfields : tag.toList.splitOn ':' = fields at h
  cases h with
  | badDigit hmark hshort hfirst =>
      apply lineEnds_append_of_free
      rw [lineEnds_append, lineEnds_append, lineEnds_quoted]
      decide
  | badByte hmark hlong hfirst =>
      apply lineEnds_append_of_free
      rw [lineEnds_append, lineEnds_append, lineEnds_quoted]
      decide
  | badShape hchannels hshape =>
      apply lineEnds_append_of_free (by decide)
  | translucent hname hmem halpha =>
      rw [← hfields] at hname
      rw [← hname.lineEnds_eq]
      apply lineEnds_append_of_free (by decide)
  | noSuchColor hname hmem hpacked =>
      rw [← hfields] at hname
      rw [← hname.lineEnds_eq]
      apply lineEnds_append_of_free (by decide)

/-! ### Events about a tag -/

/-- The line ends that a tag brings into the event about it: all of its own if it is refused, and
none if it is read. -/
def Event.broughtBy (tag : String) : Nat :=
  match Paint.ofTag tag with
  | .ok _ => 0
  | .error _ => lineEnds tag

theorem Event.lineEnds_message_ofTag (tag : String) :
  lineEnds (ofTag tag).message = broughtBy tag
  := by
  have hmessage := congrArg Prod.snd (level_message_ofTag tag)
  dsimp only at hmessage
  rw [hmessage, broughtBy]
  cases hread : Paint.ofTag tag with
  | ok paint =>
      have hderived : lineEnds "derived markup code " = 0 ∧ lineEnds " -> " = 0 := by decide
      simp only [Except.map, quoted, lineEnds_append, lineEnds_quoted, hderived.1, hderived.2]
  | error reason =>
      have hrefused : lineEnds "rejecting markup token " = 0 ∧ lineEnds ": " = 0 := by decide
      simp only [Except.map, quoted, lineEnds_append, lineEnds_quoted, hrefused.1, hrefused.2,
        lineEnds_message_of_refusal (Paint.refusal_of_ofTag hread), Nat.zero_add]

/-- A codebook reports a tag of which it holds nothing. -/
theorem Codebook.events_consult (book : Codebook) (tag : String) :
  (book.consult tag).events = if book.status tag = .unknown then [.ofTag tag] else []
  := by
  rw [consult_eq]
  cases book.status tag with
  | known escape => rfl
  | refused => rfl
  | unknown =>
      rw [if_pos rfl, Event.ofTag]
      cases Paint.ofTag tag with
      | ok paint => rfl
      | error reason => rfl

/-! ### Records -/

/-- A record of a log: a level in brackets, a text that has some line ends in it, and a line end
behind it. -/
def IsRecord (inside : Nat) (record : String) : Prop :=
  ∃ (level : Level) (text : String),
    record = "[" ++ level.name ++ "]" ++ text ++ "\n" ∧ lineEnds text = inside

theorem IsRecord.lineEnds_eq {inside : Nat} {record : String} (h : IsRecord inside record) :
  lineEnds record = inside + 1
  := by
  obtain ⟨level, text, rfl, rfl⟩ := h
  have hlevel : lineEnds ("[" ++ level.name ++ "]") = 0 := by
    cases level with
    | _ => decide
  have hend : lineEnds "\n" = 1 := by decide
  rw [lineEnds_append, lineEnds_append, hlevel, hend, Nat.zero_add]

theorem Event.isRecord_line_ofTag (tag : String) :
  IsRecord (broughtBy tag) (ofTag tag).line
  := by
  use (ofTag tag).level, " markup::resolver: " ++ (ofTag tag).message
  constructor
  · have hsource : (ofTag tag).source = "markup::resolver" := by
      rw [ofTag]
      split
      · rfl
      · rfl
    rw [line, hsource]
    simp only [String.append_assoc]
    rfl
  · rw [lineEnds_append_of_free (by decide), lineEnds_message_ofTag]

theorem Event.broughtBy_eq_zero_iff (tag : String) :
  broughtBy tag = 0 ↔ (∃ paint, Paint.ofTag tag = .ok paint) ∨ '\n' ∉ tag.toList
  := by
  rw [broughtBy]
  cases Paint.ofTag tag with
  | ok paint => simp
  | error reason => simp [lineEnds, List.count_eq_zero]

namespace Journal

/-- While a logger is in force, consulting a codebook adds nothing to its log, or one record that
begins with the level and ends with a line end; something is added if nothing is held of the tag
yet, and the event is grave enough.  The record has no other line end if the tag is read or has none
itself.  Otherwise it has the line ends of the tag. -/
theorem record_of_consult (logger : Logger) (entries : List Entry) (book : Codebook)
    (tag : String) :
  (∃ added, (ofLogger logger false entries).recordAll (book.consult tag).events
        = ofLogger logger false (entries ++ added)
      ∧ (added = [] ∨ ∃ record, added = [⟨logger.file.path, record⟩]
        ∧ IsRecord (Event.broughtBy tag) record)
      ∧ (added ≠ [] ↔ book.status tag = .unknown
        ∧ (Event.ofTag tag).level.rank ≤ logger.level.rank ∧ logger.file.opens))
    ∧ (Event.broughtBy tag = 0 ↔ (∃ paint, Paint.ofTag tag = .ok paint) ∨ '\n' ∉ tag.toList)
  := by
  constructor
  · rw [Codebook.events_consult]
    by_cases hunknown : book.status tag = .unknown
    · rw [if_pos hunknown]
      have hrecord := record_ofLogger logger entries (.ofTag tag)
      by_cases hpasses : (Event.ofTag tag).level.rank ≤ logger.level.rank ∧ logger.file.opens
      · rw [if_pos hpasses] at hrecord
        use [⟨logger.file.path, (Event.ofTag tag).line⟩], hrecord
        constructor
        · right
          use (Event.ofTag tag).line, rfl
          apply Event.isRecord_line_ofTag
        · simp [hunknown, hpasses]
      · rw [if_neg hpasses] at hrecord
        use [], hrecord
        simp [hpasses]
    · rw [if_neg hunknown]
      use []
      simp [recordAll, hunknown]
  · apply Event.broughtBy_eq_zero_iff

/-- A record is not always one line: the wording of a refusal can bring in a line of the tag's own
choosing. -/
theorem record_not_always_one_line :
  ¬ ∀ (logger : Logger) (entries : List Entry) (book : Codebook) (tag : String),
      ∃ added, (ofLogger logger false entries).recordAll (book.consult tag).events
          = ofLogger logger false (entries ++ added)
        ∧ (added = [] ∨ ∃ record, added = [⟨logger.file.path, record⟩] ∧ IsRecord 0 record)
  := by
  intro h
  let tag := "x\n[ERROR] app: forged"
  obtain ⟨added, hadded, hrecord⟩ := h ⟨⟨"log", true⟩, .debug⟩ [] .initial tag
  have hcatalog : Catalog.find? tag = none := by decide +kernel
  have hunknown : Codebook.initial.status tag = .unknown := by
    rw [Codebook.status_initial, hcatalog]
  have hread : Paint.ofTag tag = .error (.badShape tag) := by decide +kernel
  have hbrought : Event.broughtBy tag = 1 := by
    rw [Event.broughtBy, hread]
    decide
  have hlevel : (Event.ofTag tag).level = .debug := by
    rw [Event.ofTag, hread]
    rfl
  rw [Codebook.events_consult, if_pos hunknown, recordAll, List.foldl_cons, List.foldl_nil,
    record_ofLogger, hlevel] at hadded
  have hentries := congrArg entries hadded
  rcases hrecord with rfl | ⟨record, rfl, hone⟩
  · apply List.cons_ne_nil _ _ hentries
  · -- the record would have one line end, but it has that of the tag as well
    have hline : (Event.ofTag tag).line = record := congrArg Entry.line (List.cons.inj hentries).1
    have hends := hone.lineEnds_eq
    rw [← hline, (Event.isRecord_line_ofTag tag).lineEnds_eq, hbrought] at hends
    cases hends

end Journal

end StyleTags
