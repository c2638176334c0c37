import StyleTags.Escape
import Mathlib.Data.List.Basic

/-!
# Signals

A signal is what a tag may send to a terminal: nothing, the bell, or the choice of a graphic
rendition.  `clear` takes the signals out of a text, from left to right.  A text in which no
control character stands is left as it is, whatever follows it
(`clear_append_of_not_mem`), and a signal is taken out whole (`clear_append_of_signal`).
-/

namespace StyleTags.Escape

/-- Whether a character may stand among the parameters of a graphic rendition. -/
def isParameter (c : Char) : Bool :=
  c.isDigit || c = ';'

/-- A text that changes nothing but the looks of what follows, or rings the bell. -/
inductive Signal : List Char → Prop where
  | silence : Signal []
  | bell : Signal [bell]
  | rendition {parameters : List Char} (h : ∀ c ∈ parameters, isParameter c) :
      Signal (esc :: '[' :: (parameters ++ ['m']))

/-- What follows the graphic rendition that begins a text, if one does. -/
def afterRendition? : List Char → Option (List Char)
  | c :: '[' :: rest =>
    match rest.dropWhile isParameter with
    | 'm' :: after => if c = esc then some after else none
    | _ => none
  | _ => none

/-- A graphic rendition begins a text in one way at most. -/
theorem afterRendition?_eq_some_iff {text after : List Char} :
  afterRendition? text = some after
    ↔ ∃ parameters, (∀ c ∈ parameters, isParameter c)
      ∧ text = esc :: '[' :: (parameters ++ 'm' :: after)
  := by
  constructor
  · intro h
    unfold afterRendition? at h
    split at h
    · next c rest =>
      split at h
      · next after' hafter =>
        rw [Option.ite_none_right_eq_some, Option.some.injEq] at h
        obtain ⟨rfl, rfl⟩ := h
        use rest.takeWhile isParameter
        constructor
        · intro c hc
          apply List.all_eq_true.mp List.all_takeWhile c hc
        · rw [← hafter, List.takeWhile_append_dropWhile]
      · contradiction
    · contradiction
  · rintro ⟨parameters, h, rfl⟩
    have hm : ¬ isParameter 'm' := by decide
    rw [afterRendition?, List.dropWhile_append_of_pos h, List.dropWhile_cons_of_neg hm]
    apply if_pos rfl

theorem length_of_afterRendition? {text after : List Char} (h : afterRendition? text = some after) :
  after.length < text.length
  := by
  obtain ⟨parameters, -, rfl⟩ := afterRendition?_eq_some_iff.mp h
  simp only [List.length_cons, List.length_append]
  omega

/-- A text without its bells and graphic renditions. -/
def clear : List Char → List Char
  | [] => []
  | c :: cs =>
    if c = bell then
      clear cs
    else
      match _ : afterRendition? (c :: cs) with
      | some after => clear after
      | none => c :: clear cs
termination_by text => text.length
decreasing_by
  · simp
  · apply length_of_afterRendition? ‹_›
  · simp

/-! ### What is a signal -/

theorem signal_iff {text : List Char} :
  Signal text
    ↔ text = [] ∨ text = [bell]
      ∨ text = esc :: '[' :: ((text.drop 2).dropLast ++ ['m'])
        ∧ (text.drop 2).dropLast.all isParameter
  := by
  constructor
  · intro h
    cases h with
    | silence => simp
    | bell => simp
    | rendition h =>
        right
        right
        simpa using h
  · rintro (rfl | rfl | ⟨heq, h⟩)
    · apply Signal.silence
    · apply Signal.bell
    · rw [heq]
      apply Signal.rendition (List.all_eq_true.mp h)

instance : DecidablePred Signal := fun _ => decidable_of_iff' _ signal_iff

theorem isParameter_of_mem_digits {n : Nat} {c : Char} (h : c ∈ digits n) :
  isParameter c
  := by
  have hdigit : c.isDigit := Nat.isDigit_of_mem_toDigits (by decide) (by decide) h
  rw [isParameter, hdigit, Bool.true_or]

theorem isParameter_of_mem_intercalate {numbers : List Nat} {c : Char}
    (h : c ∈ [';'].intercalate (numbers.map digits)) :
  isParameter c
  := by
  induction numbers with
  | nil => contradiction
  | cons n numbers ih =>
      cases numbers with
      | nil =>
          rw [List.map_singleton, List.intercalate_singleton] at h
          apply isParameter_of_mem_digits h
      | cons k numbers =>
          rw [List.map_cons, List.map_cons, List.intercalate_cons_cons, List.append_assoc,
            List.mem_append, List.mem_append] at h
          rcases h with hfirst | hseparator | hothers
          · apply isParameter_of_mem_digits hfirst
          · rw [List.mem_singleton.mp hseparator]
            rfl
          · apply ih hothers

/-- A graphic rendition is a signal, whatever its parameters are. -/
theorem signal_rendition (numbers : List Nat) :
  Signal (rendition numbers)
  := by
  apply Signal.rendition
  intro c hc
  apply isParameter_of_mem_intercalate hc

theorem toList_ofTemplate (template : String) :
  (ofTemplate template).toList
    = template.toList.map fun c => if c = 'e' then esc else if c = 'b' then bell else c
  := by
  rw [ofTemplate, String.toList_map]

/-! ### What is cleared -/

theorem clear_nil :
  clear [] = []
  := by
  rw [clear]

theorem afterRendition?_eq_none {c : Char} (h : c ≠ esc) (cs : List Char) :
  afterRendition? (c :: cs) = none
  := by
  rw [Option.eq_none_iff_forall_not_mem]
  intro after hafter
  obtain ⟨parameters, -, heq⟩ := afterRendition?_eq_some_iff.mp hafter
  apply h (List.cons.inj heq).1

/-- Where no control character stands nothing is cleared. -/
theorem clear_append_of_not_mem {text : List Char} (hesc : esc ∉ text) (hbell : bell ∉ text)
    (rest : List Char) :
  clear (text ++ rest) = text ++ clear rest
  := by
  induction text with
  | nil => rfl
  | cons c cs ih =>
      rw [List.mem_cons, not_or] at hesc hbell
      rw [List.cons_append, clear, if_neg (Ne.symm hbell.1)]
      split
      · next after hafter =>
        rw [afterRendition?_eq_none (Ne.symm hesc.1)] at hafter
        contradiction
      · rw [ih hesc.2 hbell.2, List.cons_append]

/-- A signal is cleared whole, whatever follows it. -/
theorem clear_append_of_signal {signal : List Char} (h : Signal signal) (rest : List Char) :
  clear (signal ++ rest) = clear rest
  := by
  cases h with
  | silence => rfl
  | bell => rw [List.singleton_append, clear, if_pos rfl]
  | @rendition parameters h =>
      have hafter : afterRendition? (esc :: '[' :: (parameters ++ 'm' :: rest)) = some rest := by
        rw [afterRendition?_eq_some_iff]
        use parameters, h
      have hbell : esc ≠ bell := by decide
      rw [List.cons_append, List.cons_append, List.append_assoc, List.singleton_append, clear,
        if_neg hbell]
      split
      · next after hsome =>
        rw [hafter, Option.some.injEq] at hsome
        rw [hsome]
      · next hnone =>
        rw [hafter] at hnone
        contradiction

end StyleTags.Escape
