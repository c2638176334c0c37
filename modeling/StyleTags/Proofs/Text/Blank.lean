import StyleTags.Text.Blank
import StyleTags.Text.Padding
import Mathlib.Data.List.DropRight
import Mathlib.Tactic.Use

/-!
# Blanks around a text

Trimming takes off blanks at both ends and nothing else (`exists_eq_append_trim`), and so blanks put
around a text do not change what is left when it is trimmed (`trim_append`).  Where a column is
filled with blanks, a text fitted to it is trimmed to what was kept of it (`trim_apply`).
-/

namespace StyleTags.Text

variable {text before after : List Char}

/-- The blanks at the ends of a text and what is left without them make up the text. -/
theorem exists_eq_append_trim (text : List Char) :
  ∃ before after, text = before ++ (trim text ++ after) ∧ (∀ c ∈ before, isBlank c)
    ∧ ∀ c ∈ after, isBlank c
  := by
  use text.takeWhile isBlank, (text.dropWhile isBlank).rtakeWhile isBlank
  refine ⟨?_, ?_, ?_⟩
  · have hrest : trim text ++ (text.dropWhile isBlank).rtakeWhile isBlank = text.dropWhile isBlank :=
      List.rdropWhile_append_rtakeWhile
    rw [hrest, List.takeWhile_append_dropWhile]
  · intro c hc
    apply List.mem_takeWhile_imp hc
  · intro c hc
    apply List.mem_rtakeWhile_imp hc

/-- Blanks around a text are trimmed off. -/
theorem trim_append (hbefore : ∀ c ∈ before, isBlank c) (hafter : ∀ c ∈ after, isBlank c)
    (text : List Char) :
  trim (before ++ (text ++ after)) = trim text
  := by
  have hreverse : ∀ c ∈ after.reverse, isBlank c := by
    intro c hc
    apply hafter c (List.mem_reverse.mp hc)
  rw [trim, trim, List.dropWhile_append_of_pos hbefore, List.dropWhile_append]
  split
  · next hempty =>
    have hnone : after.dropWhile isBlank = [] := by
      rw [List.dropWhile_eq_nil_iff]
      apply hafter
    rw [hnone, List.isEmpty_iff.mp hempty]
  · rw [List.reverse_append, List.dropWhile_append_of_pos hreverse]

/-- A text without blanks is left as it is. -/
theorem trim_eq_self (h : ∀ c ∈ text, ¬ isBlank c) :
  trim text = text
  := by
  have hself : ∀ text : List Char, (∀ c ∈ text, ¬ isBlank c) → text.dropWhile isBlank = text := by
    intro text h
    rw [List.dropWhile_eq_self_iff]
    intro hpos
    apply h _ (List.getElem_mem hpos)
  have hreverse : ∀ c ∈ text.reverse, ¬ isBlank c := by
    intro c hc
    apply h c (List.mem_reverse.mp hc)
  rw [trim, hself text h, hself text.reverse hreverse, List.reverse_reverse]

/-- What is kept of a text is its beginning. -/
theorem Padding.cut_prefix_text (p : Padding) (text : List Char) :
  p.cut text <+: text
  := by
  rw [Padding.cut]
  split
  · apply List.prefix_rfl
  · apply List.take_prefix

/-- What fills a column is trimmed off if it is blank. -/
theorem trim_apply {p : Padding} (hfill : isBlank p.fill) (text : List Char) :
  trim (p.apply text) = trim (p.cut text)
  := by
  have hblank : ∀ n, ∀ c ∈ List.replicate n p.fill, isBlank c := by
    intro n c hc
    rw [List.eq_of_mem_replicate hc]
    apply hfill
  apply trim_append (hblank _) (hblank _)

end StyleTags.Text
