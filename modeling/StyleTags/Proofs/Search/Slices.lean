import StyleTags.Proofs.Paint.Bytes
import StyleTags.Proofs.Search.Segments

/-!
# Slices of a text

No slice that is taken of a text fails to exist.

* Wherever a search comes to, its cursor is a boundary of the text, and so are the places of the
  next tag.  They are in order, and delimiters are looked for from boundaries only
  (`Search.InRange`).
* The walk from opening delimiter to opening delimiter strictly advances, and it comes to an end.
  A step that finds a tag moves the cursor, and hands out the tag or what is in front of it; in the
  latter case the next step hands out the tag and leaves the cursor (`Search.Advances`).  So not
  every step that hands out a tag moves the cursor (`cursor_not_always_moved`).

Main statement: so it is at every step of a search, and slices of a packed color exist too and can be
converted, as well as a channel (`slices_exist`).
-/

namespace StyleTags

open Text (utf8 placeOf isBoundary slice?)

namespace Search

variable {start s s' : Search} {opening closing text : List Char} {n : Nat}

/-! ### Places -/

/-- The places from which a search looks for delimiters: its cursor, if no delimiter is empty, and
then behind every opening delimiter that it finds. -/
inductive LooksFrom (s : Search) : Nat → Prop where
  | cursor (hopening : s.opening ≠ []) (hclosing : s.closing ≠ []) : LooksFrom s s.cursor
  | behind {place i : Nat} (hplace : LooksFrom s place)
      (hfind : Text.find? s.text s.opening place = some i) : LooksFrom s (i + s.opening.length)

theorem LooksFrom.opening_ne_nil {place : Nat} (h : s.LooksFrom place) :
  s.opening ≠ []
  := by
  induction h with
  | cursor hopening hclosing => apply hopening
  | behind hplace hfind ih => apply ih

/-- Delimiters are looked for from the places of characters. -/
theorem At.exists_of_looksFrom (h : s.At opening closing text n) {place : Nat}
    (hplace : s.LooksFrom place) :
  ∃ m ≤ text.length, place = placeOf text m
  := by
  have hopening := hplace.opening_ne_nil
  rw [h.opening_eq, ne_eq, Text.utf8_eq_nil_iff] at hopening
  induction hplace with
  | cursor => exact ⟨n, h.le_length, h.cursor_eq⟩
  | behind hplace hfind ih =>
      obtain ⟨m, hm, rfl⟩ := ih
      rw [h.text_eq, h.opening_eq] at hfind
      obtain ⟨m', hle, -, hbehind⟩ := Text.exists_of_find?_placeOf hopening hm hfind
      rw [h.opening_eq]
      exact ⟨_, hle, hbehind⟩

/-- What a search takes of its text where it stands, and between which places. -/
structure InRange (s : Search) : Prop where
  cursor : isBoundary s.text s.cursor ∧ s.cursor ≤ s.text.length
  order : ∀ i k, s.span? = some (i, k) →
    s.cursor ≤ i ∧ i + s.opening.length < k ∧ k + s.closing.length ≤ s.text.length
  boundaries : ∀ i k, s.span? = some (i, k) →
    ∀ place ∈ [i, i + s.opening.length, k, k + s.closing.length], isBoundary s.text place
  /-- The name of the next tag, all that is written of it, and what is in front of it. -/
  tag : ∀ i k, s.span? = some (i, k) →
    (slice? s.text (i + s.opening.length) k).isSome
      ∧ (slice? s.text i (k + s.closing.length)).isSome
      ∧ (slice? s.text s.cursor i).isSome
  /-- What delimiters are looked for in. -/
  look : ∀ place, s.LooksFrom place → (slice? s.text place s.text.length).isSome
  /-- What is left where there is no tag. -/
  rest : (slice? s.text s.cursor s.text.length).isSome
  next : s.next?.isSome

/-- The places of the next tag are boundaries. -/
theorem At.isBoundary_of_span? (h : s.At opening closing text n) {i k : Nat}
    (hspan : s.span? = some (i, k)) :
  ∀ place ∈ [i, i + s.opening.length, k, k + s.closing.length], isBoundary s.text place
  := by
  obtain ⟨f, hf, rfl, rfl⟩ := h.exists_parts hspan
  simp only [h.add_opening hf, h.add_closing hf, h.text_eq, List.forall_mem_cons,
    Text.isBoundary_placeOf]
  simp

/-- The next tag ends in the text. -/
theorem At.add_length_le_of_span? (h : s.At opening closing text n) {i k : Nat}
    (hspan : s.span? = some (i, k)) :
  k + s.closing.length ≤ s.text.length
  := by
  obtain ⟨f, hf, rfl, rfl⟩ := h.exists_parts hspan
  rw [h.add_closing hf, h.text_eq, ← Text.placeOf_length]
  apply (Text.placeOf_le_iff hf.le_length (Nat.le_refl _)).mpr hf.le_length

/-- A search that stands at the place of a character takes slices that exist. -/
theorem At.inRange (h : s.At opening closing text n) :
  s.InRange
  := by
  have hcursor : isBoundary s.text s.cursor := by
    rw [h.text_eq, h.cursor_eq]
    apply Text.isBoundary_placeOf
  constructor
  case cursor => exact ⟨hcursor, Text.le_length_of_isBoundary hcursor⟩
  case order =>
    intro i k hspan
    obtain ⟨hi, hk⟩ := lt_of_span? hspan
    exact ⟨hi, hk, h.add_length_le_of_span? hspan⟩
  case boundaries =>
    intro i k hspan
    apply h.isBoundary_of_span? hspan
  case tag =>
    intro i k hspan
    obtain ⟨hi, hk⟩ := lt_of_span? hspan
    have hboundaries := h.isBoundary_of_span? hspan
    simp only [List.forall_mem_cons] at hboundaries
    obtain ⟨hopening, hname, hclosing, hstop, -⟩ := hboundaries
    simp only [Text.isSome_slice?_iff]
    refine ⟨⟨?_, hname, hclosing⟩, ⟨?_, hopening, hstop⟩, ⟨hi, hcursor, hopening⟩⟩
    · omega
    · omega
  case look =>
    intro place hplace
    obtain ⟨m, hm, rfl⟩ := h.exists_of_looksFrom hplace
    rw [h.text_eq, ← Text.placeOf_length, Text.slice?_placeOf hm (Nat.le_refl _)]
    rfl
  case rest =>
    rw [h.slice?_rest]
    rfl
  case next =>
    obtain ⟨found, s', hnext⟩ := h.exists_next?
    rw [hnext]
    rfl

/-! ### Advance -/

/-- The walk strictly advances from opening delimiter to opening delimiter until there is no other
one. -/
theorem walk_last (h : s.opening ≠ []) (k i : Nat) :
  Relation.ReflTransGen (fun i next => s.later? k i = some next ∧ i < next) i (s.last h k i)
    ∧ s.later? k (s.last h k i) = none
  := by
  fun_induction last s h k i with
  | case1 i hnone => exact ⟨.refl, hnone⟩
  | case2 i next hnext ih =>
      obtain ⟨hwalk, hstop⟩ := ih
      exact ⟨.head ⟨hnext, (lt_of_later? h hnext).1⟩ hwalk, hstop⟩

/-- A search without a pending tag that hands something out moves its cursor. -/
theorem lt_cursor_of_next? (hpending : s.pending = none) {segment : Segment}
    (h : s.next? = some (some segment, s')) :
  s.cursor < s'.cursor
  := by
  generalize hfound : some segment = found at h
  cases step_of_next? h with
  | pending hsome =>
      rw [hpending] at hsome
      contradiction
  | done => contradiction
  | rest _ hcursor hspan => apply hcursor
  | tag _ hcursor hspan =>
      have := lt_of_span? hspan
      dsimp only
      omega
  | run _ hcursor hspan =>
      have := lt_of_span? hspan
      dsimp only
      omega

/-- How a search advances where it has come to from a start. -/
structure Advances (start s : Search) : Prop where
  /-- The walk from an opening delimiter to the last one in front of a closing one. -/
  walk : ∀ (h : s.opening ≠ []) (k i : Nat),
    Relation.ReflTransGen (fun i next => s.later? k i = some next ∧ i < next) i (s.last h k i)
      ∧ s.later? k (s.last h k i) = none
  /-- A step that finds what it hands out moves the cursor. -/
  found : s.pending = none → ∀ segment s', s.next? = some (some segment, s') →
    s.cursor < s'.cursor
  /-- A pending tag is handed out next, and the cursor stays.  The tag was found by the step before,
  together with what is in front of it, and that step moved the cursor. -/
  pending : ∀ tag, s.pending = some tag →
    s.next? = some (some tag, { s with pending := none })
      ∧ ∃ s₀ run, start.Reaches s₀ ∧ s₀.pending = none ∧ s₀.next? = some (some (.plain run), s)
        ∧ s₀.cursor < s.cursor

theorem Reaches.advances (hstart : start.pending = none) (h : start.Reaches s) :
  Advances start s
  := by
  constructor
  case walk => apply walk_last
  case found =>
    intro hpending segment s' hnext
    apply lt_cursor_of_next? hpending hnext
  case pending =>
    intro tag hpending
    use next?_of_pending hpending
    apply exists_next?_of_pending hstart h hpending

end Search

/-! ### All slices -/

/-- Whatever the delimiters and the text, at every step of a search the slices exist that it takes,
and it advances where it finds something, so that it hands out all pieces of the text.  Whatever is
read as a packed color or as a channel, once it is found to be made of hexadecimal digits its slices
exist and can be converted. -/
theorem slices_exist (opening closing text : String) (digits : List Char) :
  (∀ s, (Search.ofStrings opening closing text).Reaches s →
      s.opening = utf8 opening.toList ∧ s.closing = utf8 closing.toList ∧ s.text = utf8 text.toList
        ∧ s.InRange ∧ Search.Advances (Search.ofStrings opening closing text) s)
    ∧ (Search.ofStrings opening closing text).segments
      = some ((Piece.scan opening closing text).map
          (Piece.segment opening.toList closing.toList))
    ∧ (Color.writesPacked (utf8 digits) → ∀ place ∈ [0, 2, 4], ∃ pair byte,
        slice? (utf8 digits) place (place + 2) = some pair ∧ Text.radix16? pair = some byte)
    ∧ Color.ofPackedBytes? (utf8 digits) = some (Color.ofPacked? digits)
    ∧ (Text.writesByte (utf8 digits) → ∃ byte, Text.radix16? (utf8 digits) = some byte)
    ∧ Text.byteOf? (utf8 digits) = Text.hexByte? digits
  := by
  refine ⟨?steps, ?segments, ?slices, ?packed, ?conversion, ?channel⟩
  case steps =>
    intro s hreach
    obtain ⟨n, h⟩ := Search.exists_at_of_reaches hreach
    exact ⟨h.opening_eq, h.closing_eq, h.text_eq, h.inRange, hreach.advances rfl⟩
  case segments => apply Search.segments_ofStrings
  case slices =>
    intro h place hplace
    apply Color.exists_slice?_of_writesPacked h
    simp only [List.mem_cons, List.not_mem_nil, or_false] at hplace
    omega
  case packed => apply Color.ofPackedBytes?_utf8
  case conversion =>
    intro h
    obtain ⟨v, hv⟩ := Text.writesByte_utf8_iff.mp h
    exact ⟨_, Text.radix16?_utf8 hv⟩
  case channel => apply Text.byteOf?_utf8

/-- A step that hands out a tag need not move the cursor.  Between brackets, the first step in `a[b]`
finds the tag, hands out the run in front of it and moves the cursor to the end of the text; the
second step hands out the tag, and the cursor stays there. -/
theorem cursor_not_always_moved :
  ¬ ∀ (opening closing text : String) (s s' : Search) (name source : List UInt8),
      (Search.ofStrings opening closing text).Reaches s →
      s.next? = some (some (.tag name source), s') → s.cursor < s'.cursor
  := by
  intro h
  let start := Search.ofStrings "[" "]" "a[b]"
  let found := Segment.tag [0x62] [0x5B, 0x62, 0x5D]
  let s : Search := { start with cursor := 4, pending := some found }
  have hfirst : start.next? = some (some (.plain [0x61]), s) := by decide +kernel
  have hsecond : s.next? = some (some found, { s with pending := none }) :=
    Search.next?_of_pending rfl
  have hreach : start.Reaches s := .single ⟨_, hfirst⟩
  have hmoved := h "[" "]" "a[b]" s _ _ _ hreach hsecond
  exact Nat.lt_irrefl _ hmoved

end StyleTags
