import StyleTags.Mode
import StyleTags.Proofs.Text.Ascii
import StyleTags.Proofs.Text.Blank
import Mathlib.Data.List.Forall2
import Mathlib.Data.List.TakeDrop

/-!
# Names of modes

A text names a mode if it is the name of the mode, whatever the case of the letters is, with blanks
around it or not (`NamedBy`).  Reading accepts exactly these texts.  A name fitted to a column names
its mode again, however wide the column is and to whichever side the name keeps, unless the name is
cut: no name begins with another, so that a name that is cut names no mode at all
(`ofString_names_and_columns`).
-/

namespace StyleTags.Mode

open Text (isBlank)

/-- A text is a word but for the case of its letters, where the word is in small letters. -/
def SameLetters (text word : List Char) : Prop :=
  List.Forall₂ (fun c l => c = l ∨ c = l.toUpper) text word

/-- A text is the name of a mode but for case, with blanks around it. -/
def NamedBy (mode : Mode) (text : List Char) : Prop :=
  ∃ before word after, text = before ++ (word ++ after) ∧ (∀ c ∈ before, isBlank c)
    ∧ (∀ c ∈ after, isBlank c) ∧ SameLetters word mode.name.toList

/-- The name of a mode fitted to a column. -/
def padded (p : Text.Padding) (mode : Mode) : String :=
  String.ofList (p.apply mode.name.toList)

/-! ### Names -/

theorem mem_all (mode : Mode) :
  mode ∈ all
  := by
  cases mode with
  | _ => decide

/-- Names are written in small letters. -/
theorem isSmall_of_mem_name (mode : Mode) :
  ∀ c ∈ mode.name.toList, 'a' ≤ c ∧ c ≤ 'z'
  := by
  have hall : mode.name.toList.all (fun c => 'a' ≤ c ∧ c ≤ 'z') := by
    cases mode with
    | _ => decide
  simpa using List.all_eq_true.mp hall

/-- No name begins with another. -/
theorem eq_of_prefix_name {mode mode' : Mode} (h : mode.name.toList <+: mode'.name.toList) :
  mode = mode'
  := by
  revert h
  cases mode with
  | _ => cases mode' with
    | _ => decide

/-- A mode is found by its name. -/
theorem find?_name_eq_some_iff {word : List Char} {mode : Mode} :
  all.find? (fun mode => mode.name.toList = word) = some mode ↔ word = mode.name.toList
  := by
  constructor
  · intro h
    simpa [eq_comm] using List.find?_some h
  · rintro rfl
    cases hfind : all.find? fun mode' => mode'.name.toList = mode.name.toList with
    | none =>
        have hnone := List.find?_eq_none.mp hfind mode (mem_all mode)
        simp at hnone
    | some mode' =>
        have hname : mode'.name.toList = mode.name.toList := by simpa using List.find?_some hfind
        have hprefix : mode'.name.toList <+: mode.name.toList := by
          use []
          rw [List.append_nil, hname]
        rw [eq_of_prefix_name hprefix]

/-! ### Letters -/

/-- Where a word is in small letters, a text is this word but for case if it is the word when all
its letters are made small. -/
theorem map_toLower_eq_iff {text word : List Char} (h : ∀ c ∈ word, 'a' ≤ c ∧ c ≤ 'z') :
  text.map Char.toLower = word ↔ SameLetters text word
  := by
  induction text generalizing word with
  | nil => simp [SameLetters, eq_comm]
  | cons c text ih =>
      cases word with
      | nil => simp [SameLetters]
      | cons l word =>
          rw [List.forall_mem_cons] at h
          rw [List.map_cons, List.cons.injEq, Text.toLower_eq_iff h.1, ih h.2, SameLetters,
            SameLetters, List.forall₂_cons]

/-- A letter is not blank, whether it is small or a capital. -/
theorem not_isBlank_of_toLower_mem (mode : Mode) {c : Char} (h : c.toLower ∈ mode.name.toList) :
  ¬ isBlank c
  := by
  have hall : mode.name.toList.all (fun l => !isBlank l && !isBlank l.toUpper) := by
    cases mode with
    | _ => decide
  have hl := List.all_eq_true.mp hall _ h
  rw [Bool.and_eq_true, Bool.not_eq_true', Bool.not_eq_true'] at hl
  obtain ⟨hsmall, hcapital⟩ := hl
  obtain hc | hc := (Text.toLower_eq_iff (isSmall_of_mem_name mode _ h)).mp rfl
  · rw [hc, hsmall]
    decide
  · rw [hc, hcapital]
    decide

/-- A text whose letters stand in a name is not changed by trimming. -/
theorem trim_of_toLower_mem (mode : Mode) {text : List Char}
    (h : ∀ c ∈ text, c.toLower ∈ mode.name.toList) :
  Text.trim text = text
  := by
  apply Text.trim_eq_self
  intro c hc
  apply not_isBlank_of_toLower_mem mode (h c hc)

/-! ### Reading -/

/-- A text is read by what is left of it when it is trimmed. -/
theorem ofString_eq_ok_iff {text : String} {mode : Mode} :
  ofString text = .ok mode ↔ (Text.trim text.toList).map Char.toLower = mode.name.toList
  := by
  rw [← find?_name_eq_some_iff, ofString]
  split
  · next h => rw [h, Except.ok.injEq, Option.some.injEq]
  · next h => simp [h]

/-- A text that cannot be read is all that the refusal carries. -/
theorem ofString_eq_error_iff {text : String} {e : UnknownMode} :
  ofString text = .error e ↔ e = ⟨text⟩ ∧ ∀ mode, ofString text ≠ .ok mode
  := by
  rw [ofString]
  split
  · next mode _ => simp
  · next h => simp [eq_comm]

/-- The texts that name a mode are those that are read. -/
theorem ofString_eq_ok_iff_namedBy {text : String} {mode : Mode} :
  ofString text = .ok mode ↔ NamedBy mode text.toList
  := by
  rw [ofString_eq_ok_iff]
  constructor
  · intro h
    obtain ⟨before, after, htext, hbefore, hafter⟩ := Text.exists_eq_append_trim text.toList
    use before, Text.trim text.toList, after
    refine ⟨htext, hbefore, hafter, ?_⟩
    apply (map_toLower_eq_iff (isSmall_of_mem_name mode)).mp h
  · rintro ⟨before, word, after, htext, hbefore, hafter, hword⟩
    rw [← map_toLower_eq_iff (isSmall_of_mem_name mode)] at hword
    have hletters : ∀ c ∈ word, c.toLower ∈ mode.name.toList := by
      intro c hc
      rw [← hword]
      apply List.mem_map_of_mem hc
    rw [htext, Text.trim_append hbefore hafter, trim_of_toLower_mem mode hletters, hword]

/-! ### Columns -/

/-- In a column that is filled with blanks a mode is read by what is kept of the name. -/
theorem ofString_padded_eq_ok_iff {p : Text.Padding} (hfill : isBlank p.fill) {mode mode' : Mode} :
  ofString (padded p mode) = .ok mode' ↔ p.cut mode.name.toList = mode'.name.toList
  := by
  have hkept := (p.cut_prefix_text mode.name.toList).subset
  have hsmall : ∀ c ∈ p.cut mode.name.toList, c.toLower = c := by
    intro c hc
    rw [Text.toLower_eq_iff (isSmall_of_mem_name mode c (hkept hc))]
    left
    rfl
  have hletters : ∀ c ∈ p.cut mode.name.toList, c.toLower ∈ mode.name.toList := by
    intro c hc
    rw [hsmall c hc]
    apply hkept hc
  rw [ofString_eq_ok_iff, padded, String.toList_ofList, Text.trim_apply hfill,
    trim_of_toLower_mem mode hletters, List.map_congr_left hsmall, List.map_id']

/-- What is kept of a name names its mode if all of the name is kept, and else no mode. -/
theorem cut_name_eq_name_iff {p : Text.Padding} {mode mode' : Mode} :
  p.cut mode.name.toList = mode'.name.toList
    ↔ mode' = mode ∧ p.cut mode.name.toList = mode.name.toList
  := by
  constructor
  · intro h
    have hprefix := p.cut_prefix_text mode.name.toList
    rw [h] at hprefix
    obtain rfl := eq_of_prefix_name hprefix
    exact ⟨rfl, h⟩
  · rintro ⟨rfl, h⟩
    apply h

/-- Exactly the texts that name a mode are read.  In a column filled with spaces a name is read as
its mode if it is not cut, and it is not read if it is. -/
theorem ofString_names_and_columns :
  (∀ text mode, ofString text = .ok mode ↔ NamedBy mode text.toList)
    ∧ (∀ text e, ofString text = .error e ↔ e = ⟨text⟩ ∧ ∀ mode, ¬ NamedBy mode text.toList)
    ∧ (∀ mode width alignment, ofString (padded { width, alignment } mode) = .ok mode)
    ∧ ∀ mode width alignment limit,
      let text := padded { width, alignment, limit := some limit } mode
      ofString text = if mode.name.length ≤ limit then .ok mode else .error ⟨text⟩
  := by
  have hspace : isBlank ' ' := by decide
  refine ⟨?_, ?_, ?_, ?_⟩
  · intro text mode
    apply ofString_eq_ok_iff_namedBy
  · intro text e
    simp only [ofString_eq_error_iff, ← ofString_eq_ok_iff_namedBy, ne_eq]
  · intro mode width alignment
    rw [ofString_padded_eq_ok_iff hspace]
    rfl
  · intro mode width alignment limit text
    have hcut (mode' : Mode) :
        ofString text = .ok mode' ↔ mode' = mode ∧ mode.name.length ≤ limit := by
      rw [ofString_padded_eq_ok_iff hspace, cut_name_eq_name_iff, Text.Padding.cut,
        List.take_eq_self_iff, String.length_toList]
    split
    · next hlimit =>
      rw [hcut]
      exact ⟨rfl, hlimit⟩
    · next hlimit =>
      rw [ofString_eq_error_iff]
      refine ⟨rfl, ?_⟩
      intro mode' hmode'
      exact hlimit ((hcut mode').mp hmode').2

end StyleTags.Mode
