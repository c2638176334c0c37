import StyleTags.Text.Bytes

/-!
# The search for tags, byte by byte

How the tags of a text are found in its bytes.  A search goes through the text with a cursor and
hands out one segment after the other, each of them a slice of the text.  At the cursor it looks for
the next opening delimiter and for the first closing one behind it, and then goes from opening
delimiter to opening delimiter up to the closing one.  What stands in front of a tag is handed out
before the tag, which is pending in the meantime.

Where a slice does not exist, a search breaks down: `next?` and `segments` are `none`.
-/

namespace StyleTags

/-- A piece of a marked-up text by its bytes; a tag also by all that is written of it. -/
inductive Segment where
  | plain (text : List UInt8)
  | tag (name source : List UInt8)
  deriving DecidableEq, Repr

/-- A search for the tags of a text. -/
structure Search where
  opening : List UInt8
  closing : List UInt8
  text : List UInt8
  /-- The place up to which the text has been searched. -/
  cursor : Nat := 0
  /-- A tag that was found with the run in front of it. -/
  pending : Option Segment := none
  deriving DecidableEq, Repr

namespace Search

/-- A search of a text between two texts. -/
def ofStrings (opening closing text : String) : Search :=
  { opening := Text.utf8 opening.toList,
    closing := Text.utf8 closing.toList,
    text := Text.utf8 text.toList }

/-- The next opening delimiter behind that at `i`, if it begins in front of `k`. -/
def later? (s : Search) (k i : Nat) : Option Nat :=
  (Text.find? s.text s.opening (i + s.opening.length)).filter (· < k)

/-- A later opening delimiter is further on. -/
theorem lt_of_later? {s : Search} (h : s.opening ≠ []) {k i next : Nat}
    (hnext : s.later? k i = some next) :
  i < next ∧ next < k
  := by
  simp only [later?, Option.filter_eq_some_iff, decide_eq_true_eq] at hnext
  have := Text.le_of_find? hnext.1
  have := List.length_pos_iff.mpr h
  omega

/-- The last of the opening delimiters from that at `i` on, as far as they begin in front of `k`. -/
def last (s : Search) (h : s.opening ≠ []) (k i : Nat) : Nat :=
  match _ : s.later? k i with
  | none => i
  | some next => s.last h k next
termination_by k - i
decreasing_by
  have := lt_of_later? h ‹_›
  omega

theorem le_last {s : Search} (h : s.opening ≠ []) (k i : Nat) :
  i ≤ s.last h k i
  := by
  fun_induction last s h k i with
  | case1 i hnone => apply Nat.le_refl
  | case2 i next hnext ih =>
      have := lt_of_later? h hnext
      omega

/-- The places of the next tag: where its opening delimiter begins, and its closing one. -/
def span? (s : Search) : Option (Nat × Nat) :=
  if h : s.opening ≠ [] ∧ s.closing ≠ [] then do
    let first ← Text.find? s.text s.opening s.cursor
    let k ← Text.find? s.text s.closing (first + s.opening.length)
    let i := s.last h.1 k first
    if i + s.opening.length < k then some (i, k) else none
  else
    none

/-- A tag is at the cursor or behind it, and there are bytes between its delimiters. -/
theorem lt_of_span? {s : Search} {i k : Nat} (h : s.span? = some (i, k)) :
  s.cursor ≤ i ∧ i + s.opening.length < k
  := by
  unfold span? at h
  split at h
  · next hne =>
    simp only [Option.bind_eq_bind, Option.bind_eq_some_iff, Option.ite_none_right_eq_some,
      Option.some.injEq, Prod.mk.injEq] at h
    obtain ⟨first, hfirst, k, -, hlt, rfl, rfl⟩ := h
    have := Text.le_of_find? hfirst
    have := le_last hne.1 k first
    omega
  · contradiction

/-- The rest of the text is handed out, if there is any. -/
def rest? (s : Search) : Option (Option Segment × Search) := do
  let rest ← Text.slice? s.text s.cursor s.text.length
  let done := { s with cursor := s.text.length }
  if rest.isEmpty then some (none, done) else some (some (.plain rest), done)

/-- What is handed out next, if there is anything left, and the search after it. -/
def next? (s : Search) : Option (Option Segment × Search) :=
  match s.pending with
  | some tag => some (some tag, { s with pending := none })
  | none =>
    if s.text.length ≤ s.cursor then
      some (none, s)
    else
      match s.span? with
      | none => s.rest?
      | some (i, k) => do
        let stop := k + s.closing.length
        let name ← Text.slice? s.text (i + s.opening.length) k
        let source ← Text.slice? s.text i stop
        let before ← Text.slice? s.text s.cursor i
        let found := Segment.tag name source
        if before.isEmpty then
          some (some found, { s with cursor := stop })
        else
          some (some (.plain before), { s with cursor := stop, pending := some found })

/-- What a search does in one step: it hands out a pending tag, it is at the end, it finds no tag, or
it finds one, which it hands out or keeps for later. -/
inductive Step (s : Search) : Option Segment → Search → Prop where
  | pending {tag : Segment} (hpending : s.pending = some tag) :
      Step s (some tag) { s with pending := none }
  | done (hpending : s.pending = none) (hend : s.text.length ≤ s.cursor) : Step s none s
  | rest {found : Option Segment} (hpending : s.pending = none) (hcursor : s.cursor < s.text.length)
      (hspan : s.span? = none) : Step s found { s with cursor := s.text.length }
  | tag {i k : Nat} {name source : List UInt8} (hpending : s.pending = none)
      (hcursor : s.cursor < s.text.length) (hspan : s.span? = some (i, k)) :
      Step s (some (.tag name source)) { s with cursor := k + s.closing.length }
  | run {i k : Nat} {run name source : List UInt8} (hpending : s.pending = none)
      (hcursor : s.cursor < s.text.length) (hspan : s.span? = some (i, k)) :
      Step s (some (.plain run))
        { s with cursor := k + s.closing.length, pending := some (.tag name source) }

theorem step_of_next? {s s' : Search} {found : Option Segment} (h : s.next? = some (found, s')) :
  Step s found s'
  := by
  unfold next? at h
  split at h
  · next tag hpending =>
    cases h
    apply Step.pending hpending
  · next hpending =>
    split at h
    · next hend =>
      cases h
      apply Step.done hpending hend
    · next hcursor =>
      rw [Nat.not_le] at hcursor
      split at h
      · next hspan =>
        simp only [rest?, Option.bind_eq_bind, Option.bind_eq_some_iff] at h
        obtain ⟨rest, -, h⟩ := h
        split at h
        · cases h
          apply Step.rest hpending hcursor hspan
        · cases h
          apply Step.rest hpending hcursor hspan
      · next i k hspan =>
        simp only [Option.bind_eq_bind, Option.bind_eq_some_iff] at h
        obtain ⟨name, -, source, -, before, -, h⟩ := h
        split at h
        · cases h
          apply Step.tag hpending hcursor hspan
        · cases h
          apply Step.run hpending hcursor hspan

/-- What is left for a search to do. -/
def remaining (s : Search) : Nat :=
  2 * (s.text.length - s.cursor) + if s.pending.isSome then 1 else 0

theorem remaining_lt_of_next? {s s' : Search} {segment : Segment}
    (h : s.next? = some (some segment, s')) :
  s'.remaining < s.remaining
  := by
  generalize hfound : some segment = found at h
  cases step_of_next? h with
  | pending hpending => simp [remaining, hpending]
  | done => contradiction
  | rest hpending hcursor hspan =>
      simp only [remaining, hpending, Option.isSome_none, Bool.false_eq_true, if_false]
      omega
  | tag hpending hcursor hspan =>
      have := lt_of_span? hspan
      simp only [remaining, hpending, Option.isSome_none, Bool.false_eq_true, if_false]
      omega
  | run hpending hcursor hspan =>
      have := lt_of_span? hspan
      simp only [remaining, hpending, Option.isSome_none, Option.isSome_some, Bool.false_eq_true,
        if_false, if_true]
      omega

/-- All that a search hands out. -/
def segments (s : Search) : Option (List Segment) :=
  match _ : s.next? with
  | none => none
  | some (none, _) => some []
  | some (some segment, s') => s'.segments.map (segment :: ·)
termination_by s.remaining
decreasing_by exact remaining_lt_of_next? ‹_›

end Search

end StyleTags
