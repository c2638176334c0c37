import StyleTags.Text.Quoted
import Mathlib.Data.List.Basic
import Mathlib.Data.Nat.Digits.Defs
import Mathlib.Tactic.IntervalCases
import Mathlib.Tactic.Use

/-!
# Line ends of a quoted text

A quoted text has no line end in it, whatever the text is (`lineEnd_not_mem_quote`).
-/

namespace StyleTags.Text

/-- A number is written in digits below the base. -/
theorem exists_of_mem_toDigits {b n : Nat} (hb : 1 < b) {c : Char} (h : c ∈ Nat.toDigits b n) :
  ∃ d < b, c = Nat.digitChar d
  := by
  induction n using Nat.strongRecOn with
  | ind n ih =>
      rw [Nat.toDigits_eq_if hb] at h
      split at h
      · next hn =>
        use n, hn
        simpa using h
      · next hn =>
        rcases List.mem_append.mp h with hfirst | hlast
        · apply ih (n / b) _ hfirst
          apply Nat.div_lt_self _ hb
          omega
        · use n % b, Nat.mod_lt n (by omega)
          simpa using hlast

theorem lineEnd_not_mem_escapeCode (c : Char) :
  '\n' ∉ escapeCode c
  := by
  have hdigits : '\n' ∉ Nat.toDigits 16 c.toNat := by
    intro h
    obtain ⟨d, hd, hc⟩ := exists_of_mem_toDigits (by decide) h
    interval_cases d <;> contradiction
  simp [escapeCode, hdigits]

theorem lineEnd_not_mem_escape (c : Char) :
  '\n' ∉ escape c
  := by
  unfold escape
  split_ifs with hquote hslash hline hreturn htab hnull hcode
  · simp
  · simp
  · simp
  · simp
  · simp
  · simp
  · apply lineEnd_not_mem_escapeCode
  · rw [List.mem_singleton]
    apply Ne.symm hline

/-- No line end stands in a quoted text. -/
theorem lineEnd_not_mem_quote (text : List Char) :
  '\n' ∉ quote text
  := by
  rw [quote, List.mem_cons, List.mem_append, List.mem_flatMap]
  rintro (hquote | ⟨c, -, hc⟩ | hquote)
  · contradiction
  · apply lineEnd_not_mem_escape c hc
  · contradiction

end StyleTags.Text
