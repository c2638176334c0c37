/-!
# Delimiters

A delimiter is a text that is not empty.  A tag stands between an opening and a closing
delimiter; the two may be equal, overlap, or have any length.  `Delimiters.ofStrings`
takes two given texts for a pair of delimiters and names the first of them that is empty.
-/

namespace StyleTags

/-- A text that marks where a tag begins or ends. -/
structure Delimiter where
  chars : List Char
  nonempty : chars ≠ []
  deriving DecidableEq

/-- The delimiter as a string. -/
def Delimiter.text (d : Delimiter) : String :=
  String.ofList d.chars

/-- The delimiter spelled by a string, if it is not empty. -/
def Delimiter.ofString? (s : String) : Option Delimiter :=
  if h : s.toList ≠ [] then some ⟨s.toList, h⟩ else none

theorem Delimiter.length_pos (d : Delimiter) :
  0 < d.chars.length
  := List.length_pos_iff.mpr d.nonempty

theorem Delimiter.ofString?_eq_some_iff {s : String} {d : Delimiter} :
  ofString? s = some d ↔ d.chars = s.toList
  := by
  obtain ⟨chars, hne⟩ := d
  unfold ofString?
  split
  · simp [eq_comm]
  · next hempty =>
    simp only [reduceCtorEq, false_iff]
    rintro rfl
    contradiction

theorem Delimiter.ofString?_eq_none_iff {s : String} :
  ofString? s = none ↔ s = ""
  := by
  simp [ofString?]

/-- The reason why two texts are no pair of delimiters. -/
inductive DelimiterError where
  | emptyOpening
  | emptyClosing
  deriving DecidableEq, Repr

/-- The wording of a refusal. -/
def DelimiterError.message : DelimiterError → String
  | .emptyOpening => "prefix delimiter must not be empty"
  | .emptyClosing => "suffix delimiter must not be empty"

/-- The delimiters in force: what opens a tag and what closes it. -/
structure Delimiters where
  opening : Delimiter
  closing : Delimiter
  deriving DecidableEq

namespace Delimiters

/-- The pair of delimiters spelled by two strings; the opening one is looked at first. -/
def ofStrings (opening closing : String) : Except DelimiterError Delimiters :=
  match Delimiter.ofString? opening, Delimiter.ofString? closing with
  | none, _ => .error .emptyOpening
  | some _, none => .error .emptyClosing
  | some o, some c => .ok ⟨o, c⟩

/-- Two strings spell the delimiters that consist of their characters. -/
theorem ofStrings_eq_ok_iff {opening closing : String} {d : Delimiters} :
  ofStrings opening closing = .ok d
    ↔ d.opening.chars = opening.toList ∧ d.closing.chars = closing.toList
  := by
  rw [← Delimiter.ofString?_eq_some_iff, ← Delimiter.ofString?_eq_some_iff]
  obtain ⟨o, c⟩ := d
  unfold ofStrings
  split <;> simp_all

/-- Two texts that are not empty spell delimiters, which have these texts. -/
theorem exists_ofStrings_eq_ok {opening closing : String} (hopening : opening ≠ "")
    (hclosing : closing ≠ "") :
  ∃ d, ofStrings opening closing = .ok d ∧ d.opening.text = opening ∧ d.closing.text = closing
  := by
  have ho := mt String.toList_eq_nil_iff.mp hopening
  have hc := mt String.toList_eq_nil_iff.mp hclosing
  refine ⟨⟨⟨opening.toList, ho⟩, ⟨closing.toList, hc⟩⟩, ?spelled, ?opening, ?closing⟩
  case spelled =>
    rw [ofStrings_eq_ok_iff]
    apply And.intro rfl rfl
  case opening => apply String.ofList_toList
  case closing => apply String.ofList_toList

/-- Square brackets, the delimiters used where no others are asked for. -/
def brackets : Delimiters :=
  ⟨⟨['['], by simp⟩, ⟨[']'], by simp⟩⟩

end Delimiters

end StyleTags
