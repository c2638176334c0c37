import StyleTags.Delimiter
import StyleTags.Text.Cut

/-!
# Pieces of a marked-up text

A text is read as a row of pieces: plain runs, and tags between an opening and a closing
delimiter.  `Delimiters.nextTag?` finds the first tag of a text and `Delimiters.pieces`
the whole row.

The first tag is found in three steps: the first opening delimiter, the first closing
delimiter after it, and then a walk from opening delimiter to opening delimiter as long as
they begin before that closing one.  The name is what is left between the last of them and
the closing delimiter.  Where no name is left the search ends for good, and the whole
remaining text is plain.

Main statement: a text is what stands before its first tag, that tag, and what follows it
(`eq_append_of_nextTag?`); the pieces are found one after the other in what is left
(`pieces_of_nextTag?_eq_some`).
-/

namespace StyleTags

/-- A part of a marked-up text. -/
inductive Piece where
  /-- A run of text outside all tags. -/
  | plain (text : List Char)
  /-- A tag, by its name. -/
  | tag (name : List Char)
  deriving DecidableEq, Repr

/-- The first tag of a text: what stands before it, its name, and what follows it. -/
structure Found where
  before : List Char
  name : List Char
  rest : List Char
  deriving DecidableEq, Repr

/-- A plain run, left out where it is empty. -/
def Piece.run (text : List Char) : List Piece :=
  if text.isEmpty then [] else [.plain text]

namespace Delimiters

/-- A piece as it is written between these delimiters. -/
def source (d : Delimiters) : Piece → List Char
  | .plain text => text
  | .tag name => d.opening.chars ++ name ++ d.closing.chars

/-- The walk to the last opening delimiter that begins among the first `n` characters of
`text`, where `text` follows an opening delimiter and a closing one stands at `n`.  The
result is what the walk passes over, and the name after it; there is none if the last
opening delimiter reaches beyond `n`. -/
def innermost? (opening : Delimiter) (text : List Char) (n : Nat) :
    Option (List Char × List Char) :=
  match _ : Text.cut? opening.chars text with
  | none => some ([], text.take n)
  | some (skipped, tail) =>
    if skipped.length + opening.chars.length ≤ n then
      (innermost? opening tail (n - (skipped.length + opening.chars.length))).map
        fun (passed, name) => (opening.chars ++ (skipped ++ passed), name)
    else if skipped.length < n then
      none
    else
      some ([], text.take n)
termination_by text.length
decreasing_by
  have := Text.length_of_cut? ‹_›
  have := opening.length_pos
  omega

/-- A step of the walk, where there is another opening delimiter. -/
theorem innermost?_of_cut? {opening : Delimiter} {text skipped tail : List Char}
    (h : Text.cut? opening.chars text = some (skipped, tail)) (n : Nat) :
  innermost? opening text n
    = if skipped.length + opening.chars.length ≤ n then
        (innermost? opening tail (n - (skipped.length + opening.chars.length))).map
          fun (passed, name) => (opening.chars ++ (skipped ++ passed), name)
      else if skipped.length < n then
        none
      else
        some ([], text.take n)
  := by
  rw [innermost?]
  split <;> simp_all

/-- The walk loses nothing: up to the closing delimiter, the text after the first opening
delimiter is what the walk passes over, the last opening delimiter, and the name. -/
theorem append_take_of_innermost? {opening : Delimiter} {text passed name : List Char} {n : Nat}
    (h : innermost? opening text n = some (passed, name)) :
  opening.chars ++ text.take n = passed ++ (opening.chars ++ name)
  := by
  rw [innermost?] at h
  split at h
  · simp only [Option.some.injEq, Prod.mk.injEq] at h
    rw [← h.1, ← h.2, List.nil_append]
  · next skipped tail hcut =>
    have htext := Text.eq_append_of_cut? hcut
    split at h
    · next hle =>
      simp only [Option.map_eq_some_iff, Prod.exists, Prod.mk.injEq] at h
      obtain ⟨passed', name', hwalk, rfl, rfl⟩ := h
      have ih := append_take_of_innermost? hwalk
      rw [htext, ← List.append_assoc skipped, List.take_append,
        List.take_of_length_le (by simpa using hle), List.length_append, List.append_assoc, ih]
      simp only [List.append_assoc]
    · split at h
      · contradiction
      · simp only [Option.some.injEq, Prod.mk.injEq] at h
        rw [← h.1, ← h.2, List.nil_append]
termination_by text.length
decreasing_by
  have := Text.length_of_cut? ‹_›
  have := opening.length_pos
  omega

/-- The first tag of a text, if it has one. -/
def nextTag? (d : Delimiters) (text : List Char) : Option Found :=
  match Text.cut? d.opening.chars text with
  | none => none
  | some (before, tail) =>
    match Text.cut? d.closing.chars tail with
    | none => none
    | some (body, rest) =>
      match innermost? d.opening tail body.length with
      | none => none
      | some (passed, name) =>
        if name.isEmpty then none else some ⟨before ++ passed, name, rest⟩

/-- A text is what stands before its first tag, the tag, and what follows it. -/
theorem eq_append_of_nextTag? {d : Delimiters} {text : List Char} {f : Found}
    (h : d.nextTag? text = some f) :
  text = f.before ++ (d.source (.tag f.name) ++ f.rest)
  := by
  simp only [nextTag?] at h
  split at h
  · contradiction
  · next before tail hb =>
    split at h
    · contradiction
    · next body rest hc =>
      split at h
      · contradiction
      · next passed name hw =>
        split at h
        · contradiction
        · obtain rfl := Option.some.inj h
          have hwalk := append_take_of_innermost? hw
          rw [Text.eq_append_of_cut? hc, List.take_left] at hwalk
          rw [Text.eq_append_of_cut? hb, Text.eq_append_of_cut? hc,
            ← List.append_assoc d.opening.chars, hwalk]
          simp only [source, List.append_assoc]

/-- The name of a tag is not empty. -/
theorem name_ne_nil_of_nextTag? {d : Delimiters} {text : List Char} {f : Found}
    (h : d.nextTag? text = some f) :
  f.name ≠ []
  := by
  simp only [nextTag?] at h
  repeat' split at h
  all_goals try contradiction
  next hname =>
    obtain rfl := Option.some.inj h
    simpa using hname

/-- What follows the first tag is shorter than the text. -/
theorem rest_lt_of_nextTag? {d : Delimiters} {text : List Char} {f : Found}
    (h : d.nextTag? text = some f) :
  f.rest.length < text.length
  := by
  have hlen := congrArg List.length (eq_append_of_nextTag? h)
  have := d.opening.length_pos
  simp only [source, List.length_append] at hlen
  omega

/-- The pieces of a text, from left to right. -/
def pieces (d : Delimiters) (text : List Char) : List Piece :=
  match _ : d.nextTag? text with
  | none => Piece.run text
  | some f => Piece.run f.before ++ .tag f.name :: d.pieces f.rest
termination_by text.length
decreasing_by exact rest_lt_of_nextTag? ‹_›

theorem pieces_of_nextTag?_eq_none {d : Delimiters} {text : List Char}
    (h : d.nextTag? text = none) :
  d.pieces text = Piece.run text
  := by
  rw [pieces]
  split <;> simp_all

theorem pieces_of_nextTag?_eq_some {d : Delimiters} {text : List Char} {f : Found}
    (h : d.nextTag? text = some f) :
  d.pieces text = Piece.run f.before ++ .tag f.name :: d.pieces f.rest
  := by
  rw [pieces]
  split <;> simp_all

end Delimiters

/-- The pieces of a text between two given texts: an empty one delimits nothing, so that
all of the text is plain. -/
def Piece.scan (opening closing text : String) : List Piece :=
  match Delimiters.ofStrings opening closing with
  | .ok d => d.pieces text.toList
  | .error _ => Piece.run text.toList

/-- Scanning between two texts that spell delimiters finds the pieces between these. -/
theorem Piece.scan_eq_pieces {opening closing : String} {d : Delimiters}
    (h : Delimiters.ofStrings opening closing = .ok d) (text : String) :
  scan opening closing text = d.pieces text.toList
  := by
  rw [scan, h]

end StyleTags
