import StyleTags.Piece
import Mathlib.Tactic.Use

/-!
# The first tag of a text

What the search for the first tag of a text finds.  `exists_of_nextTag?_eq_some` and
`cases_of_nextTag?_eq_none` list the ways in which the search ends, by its three steps.
Between the delimiters of the tag that is found neither of them begins a second time
(`not_prefix_of_nextTag?`).
-/

namespace StyleTags.Delimiters

/-- Between the last opening delimiter of the walk and the closing one, no other opening
delimiter begins. -/
theorem not_prefix_of_innermost? {opening : Delimiter} {text passed name : List Char} {n m : Nat}
    (h : innermost? opening text n = some (passed, name)) (hle : passed.length ≤ m)
    (hlt : m < n) :
  ¬ opening.chars <+: text.drop m
  := by
  -- along the walk; the place `m` is counted anew from behind every opening delimiter
  fun_induction innermost? opening text n generalizing passed m with
  | case1 text n hcut =>
      intro hp
      apply Text.cut?_eq_none_iff.mp hcut
      apply hp.isInfix.trans
      apply (List.drop_suffix m text).isInfix
  | case2 text n skipped tail hcut hn ih =>
      simp only [Option.map_eq_some_iff, Prod.exists, Prod.mk.injEq] at h
      obtain ⟨passed', name', hwalk, rfl, rfl⟩ := h
      simp only [List.length_append] at hle
      obtain ⟨k, rfl⟩ : ∃ k, m = skipped.length + opening.chars.length + k := by
        apply Nat.exists_eq_add_of_le
        omega
      rw [Text.drop_of_cut? hcut]
      apply ih hwalk
      · omega
      · omega
  | case3 text n skipped tail hcut hn hlt' => contradiction
  | case4 text n skipped tail hcut hn hge =>
      apply Text.not_prefix_of_cut? hcut
      omega

/-- The walk and the name fill the place up to the closing delimiter. -/
theorem length_of_innermost? {opening : Delimiter} {text passed name : List Char} {n : Nat}
    (h : innermost? opening text n = some (passed, name)) (hn : n ≤ text.length) :
  n = passed.length + name.length
  := by
  have hlen := congrArg List.length (append_take_of_innermost? h)
  simp only [List.length_append, List.length_take] at hlen
  omega

variable {d : Delimiters} {text : List Char}

/-- A tag that is found is found in three steps: the first opening delimiter, the first
closing one after it, and the walk between them. -/
theorem exists_of_nextTag?_eq_some {f : Found} (h : d.nextTag? text = some f) :
  ∃ before tail body passed,
    Text.cut? d.opening.chars text = some (before, tail)
      ∧ Text.cut? d.closing.chars tail = some (body, f.rest)
      ∧ innermost? d.opening tail body.length = some (passed, f.name)
      ∧ f.before = before ++ passed
  := by
  simp only [nextTag?] at h
  split at h
  · contradiction
  · next before tail hb =>
    split at h
    · contradiction
    · next body rest hc =>
      split at h
      · contradiction
      · next passed name hw =>
        split at h
        · contradiction
        · obtain rfl := Option.some.inj h
          use before, tail, body, passed

/-- Where no tag is found, one of the three steps fails, or the walk leaves no name. -/
theorem cases_of_nextTag?_eq_none (h : d.nextTag? text = none) :
  Text.cut? d.opening.chars text = none
    ∨ ∃ before tail, Text.cut? d.opening.chars text = some (before, tail)
      ∧ (Text.cut? d.closing.chars tail = none
        ∨ ∃ body rest, Text.cut? d.closing.chars tail = some (body, rest)
          ∧ (innermost? d.opening tail body.length = none
            ∨ ∃ passed, innermost? d.opening tail body.length = some (passed, [])))
  := by
  simp only [nextTag?] at h
  split at h
  · next hb =>
    left
    apply hb
  · next before tail hb =>
    right
    use before, tail, hb
    split at h
    · next hc =>
      left
      apply hc
    · next body rest hc =>
      right
      use body, rest, hc
      split at h
      · next hw =>
        left
        apply hw
      · next passed name hw =>
        right
        use passed
        split at h
        · next hname => rw [hw, List.isEmpty_iff.mp hname]
        · contradiction

/-- Neither delimiter begins inside the name of the tag that is found. -/
theorem not_prefix_of_nextTag? {f : Found} (h : d.nextTag? text = some f) {n : Nat}
    (hle : f.before.length + d.opening.chars.length ≤ n)
    (hlt : n < f.before.length + d.opening.chars.length + f.name.length) :
  ¬ d.opening.chars <+: text.drop n ∧ ¬ d.closing.chars <+: text.drop n
  := by
  obtain ⟨before, tail, body, passed, hb, hc, hw, hbefore⟩ := exists_of_nextTag?_eq_some h
  have htail := Text.length_of_cut? hc
  have hbody := length_of_innermost? hw (by omega)
  rw [hbefore, List.length_append] at hle hlt
  -- the same place, counted from behind the first opening delimiter
  obtain ⟨m, rfl⟩ : ∃ m, n = before.length + d.opening.chars.length + m := by
    apply Nat.exists_eq_add_of_le
    omega
  rw [Text.drop_of_cut? hb]
  constructor
  · apply not_prefix_of_innermost? hw
    · omega
    · omega
  · apply Text.not_prefix_of_cut? hc
    omega

end StyleTags.Delimiters
