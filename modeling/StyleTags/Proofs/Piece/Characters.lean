import StyleTags.Proofs.Piece.Division
import Mathlib.Data.List.Infix

/-!
# Delimiters of one character

Between two different characters the tags of a text can be read off the text itself.  With
`p` for the opening character and `s` for the closing one, let the head of the text be what
stands before the first `ps`.  The tags are then all the places of the head where
a text `p n s` stands with a name `n` that is not empty and has neither `p` nor `s` in it
(`scan_tags_of_characters`).

The proof asks of every place whether a tag *opens* there, be its name empty or not.
A place where none opens can be passed over without a change to the tags that follow
(`tagAt_upTo_append_iff`), and the search for the first tag passes over such places only.
-/

namespace StyleTags

/-- The part of a text before the first place where the pattern stands; all of it if the
pattern stands nowhere. -/
def Text.upTo (pattern : List Char) : List Char → List Char
  | [] => []
  | c :: cs => if pattern <+: c :: cs then [] else c :: upTo pattern cs

theorem Text.upTo_prefix (pattern text : List Char) :
  upTo pattern text <+: text
  := by
  induction text with
  | nil => apply List.prefix_rfl
  | cons c cs ih =>
      unfold upTo
      split
      · apply List.nil_prefix
      · apply (List.prefix_cons_inj c).mpr ih

namespace Piece

/-- At a place of a text there is a tag between two characters: its name is not empty and
contains neither of them. -/
structure TagAt (p s : Char) (text : List Char) (i : Nat) (name : List Char) : Prop where
  name_ne_nil : name ≠ []
  opening_not_mem : p ∉ name
  closing_not_mem : s ∉ name
  stands : p :: (name ++ [s]) <+: text.drop i

/-- A tag, with or without a name, begins a text. -/
def Opens (p s : Char) (text : List Char) : Prop :=
  ∃ name rest, text = p :: (name ++ s :: rest) ∧ p ∉ name ∧ s ∉ name

variable {p s : Char}

/-- A tag of a text ends with it at the latest. -/
theorem TagAt.end_le {text name : List Char} {i : Nat} (h : TagAt p s text i name) :
  i + (name.length + 2) ≤ text.length
  := by
  have hlen := h.stands.length_le
  simp only [List.length_cons, List.length_append, List.length_nil, List.length_drop] at hlen
  omega

/-! ### Places where no tag opens -/

theorem closing_mem_of_opens {text : List Char} (h : Opens p s text) :
  s ∈ text
  := by
  obtain ⟨name, rest, rfl, -, -⟩ := h
  simp

theorem not_opens_of_not_mem {before rest : List Char} (h : p ∉ before) {k : Nat}
    (hk : k < before.length) :
  ¬ Opens p s ((before ++ rest).drop k)
  := by
  rintro ⟨name, rest', heq, -, -⟩
  rw [List.drop_append_of_le_length hk.le, List.drop_eq_getElem_cons hk] at heq
  apply h
  rw [← (List.cons.inj heq).1]
  apply List.getElem_mem

/-- No tag opens where the opening character comes again before the closing one. -/
theorem not_opens_of_opening_behind (hps : p ≠ s) {passed rest : List Char} (h : s ∉ passed)
    {k : Nat} (hk : k < passed.length) :
  ¬ Opens p s ((passed ++ p :: rest).drop k)
  := by
  rintro ⟨name, rest', heq, hp, hs⟩
  rw [List.drop_append_of_le_length hk.le, List.drop_eq_getElem_cons hk] at heq
  have heq := (List.cons.inj heq).2
  have hpassed : s ∉ passed.drop (k + 1) := fun hmem => h (List.mem_of_mem_drop hmem)
  rcases List.append_eq_append_iff.mp heq with ⟨mid, hname, hrest⟩ | ⟨mid, hdrop, hrest⟩
  · cases mid with
    | nil => apply hps (List.cons.inj hrest).1
    | cons c mid =>
        apply hp
        rw [hname, (List.cons.inj hrest).1]
        simp
  · cases mid with
    | nil => apply hps (List.cons.inj hrest).1.symm
    | cons c mid =>
        apply hpassed
        rw [hdrop, (List.cons.inj hrest).1]
        simp

/-! ### Tags before the first empty tag -/

theorem tagAt_cons_succ_iff {c : Char} {cs name : List Char} {k : Nat} :
  TagAt p s (c :: cs) (k + 1) name ↔ TagAt p s cs k name
  := by
  constructor
  · rintro ⟨hne, hp, hs, hstands⟩
    exact ⟨hne, hp, hs, hstands⟩
  · rintro ⟨hne, hp, hs, hstands⟩
    exact ⟨hne, hp, hs, hstands⟩

/-- Where no tag opens, the tags of a text are those of what follows. -/
theorem tagAt_upTo_cons_iff {c : Char} {cs : List Char} (h : ¬ Opens p s (c :: cs)) {i : Nat}
    {name : List Char} :
  TagAt p s (Text.upTo [p, s] (c :: cs)) i name
    ↔ ∃ j, i = j + 1 ∧ TagAt p s (Text.upTo [p, s] cs) j name
  := by
  have hgoes : Text.upTo [p, s] (c :: cs) = c :: Text.upTo [p, s] cs := by
    rw [Text.upTo, if_neg]
    rintro ⟨rest, hrest⟩
    apply h
    use [], rest
    simp [← hrest]
  rw [hgoes]
  cases i with
  | zero =>
      constructor
      · rintro ⟨-, hp, hs, rest, hrest⟩
        -- a tag at the first place would have opened there
        obtain ⟨more, hmore⟩ := Text.upTo_prefix [p, s] cs
        apply (h _).elim
        use name, rest ++ more
        constructor
        · rw [List.drop_zero] at hrest
          rw [← hmore, ← List.cons_append, ← hrest]
          simp
        · apply And.intro hp hs
      · rintro ⟨j, hj, -⟩
        contradiction
  | succ k => simp [tagAt_cons_succ_iff]

/-- A stretch of a text where no tag opens can be passed over. -/
theorem tagAt_upTo_append_iff {before rest : List Char}
    (h : ∀ k < before.length, ¬ Opens p s ((before ++ rest).drop k)) {i : Nat}
    {name : List Char} :
  TagAt p s (Text.upTo [p, s] (before ++ rest)) i name
    ↔ ∃ j, i = before.length + j ∧ TagAt p s (Text.upTo [p, s] rest) j name
  := by
  induction before generalizing i with
  | nil => simp
  | cons c before ih =>
      have hfirst : ¬ Opens p s (c :: (before ++ rest)) := h 0 (by simp)
      have hlater : ∀ k < before.length, ¬ Opens p s ((before ++ rest).drop k) := by
        intro k hk
        apply h (k + 1)
        simpa using hk
      rw [List.cons_append, tagAt_upTo_cons_iff hfirst]
      constructor
      · rintro ⟨_, rfl, htag⟩
        obtain ⟨j, rfl, hj⟩ := (ih hlater).mp htag
        use j
        simp only [List.length_cons, hj, and_true]
        omega
      · rintro ⟨j, rfl, hj⟩
        use before.length + j
        constructor
        · simp only [List.length_cons]
          omega
        · apply (ih hlater).mpr
          use j

/-- A text where no tag opens has none. -/
theorem not_tagAt_upTo {text : List Char} (h : ∀ k < text.length, ¬ Opens p s (text.drop k))
    (i : Nat) (name : List Char) :
  ¬ TagAt p s (Text.upTo [p, s] text) i name
  := by
  rw [← List.append_nil text, tagAt_upTo_append_iff (by simpa using h)]
  rintro ⟨j, -, -, -, -, hstands⟩
  simp [Text.upTo] at hstands

/-- No tag is left where the head of a text ends. -/
theorem not_tagAt_upTo_nil_name {before rest : List Char}
    (h : ∀ k < before.length, ¬ Opens p s ((before ++ p :: s :: rest).drop k)) (i : Nat)
    (name : List Char) :
  ¬ TagAt p s (Text.upTo [p, s] (before ++ p :: s :: rest)) i name
  := by
  rw [tagAt_upTo_append_iff h, Text.upTo, if_pos (by simp)]
  rintro ⟨j, -, -, -, -, hstands⟩
  simp at hstands

/-- A stretch of a text without the opening character belongs to the head, if the text
before it does. -/
theorem upTo_append_of_not_mem {before : List Char} (h : p ∉ before) (rest : List Char) :
  Text.upTo [p, s] (before ++ rest) = before ++ Text.upTo [p, s] rest
  := by
  induction before with
  | nil => rfl
  | cons c before ih =>
      rw [List.mem_cons, not_or] at h
      rw [List.cons_append, Text.upTo, if_neg, ih h.2, List.cons_append]
      rintro ⟨more, hmore⟩
      apply h.1 (List.cons.inj hmore).1

/-- A tag with a name belongs to the head, if the text before it does. -/
theorem upTo_tag {name : List Char} (hne : name ≠ []) (hs : s ∉ name) (rest : List Char) :
  Text.upTo [p, s] (p :: ((name ++ [s]) ++ rest)) = p :: Text.upTo [p, s] ((name ++ [s]) ++ rest)
  := by
  rw [Text.upTo, if_neg]
  rintro ⟨more, hmore⟩
  cases name with
  | nil => contradiction
  | cons c name =>
      apply hs
      rw [(List.cons.inj (List.cons.inj hmore).2).1]
      apply List.mem_cons_self

/-- The tag that begins a text is determined by the text. -/
theorem tagAt_zero_iff {name rest : List Char} (hne : name ≠ []) (hp : p ∉ name) (hs : s ∉ name)
    {name' : List Char} :
  TagAt p s (p :: ((name ++ [s]) ++ rest)) 0 name' ↔ name' = name
  := by
  constructor
  · rintro ⟨-, -, hs', more, hmore⟩
    rw [List.drop_zero, List.cons_append, List.append_assoc, List.append_assoc] at hmore
    have hnames := congrArg (List.takeWhile (· ≠ s)) (List.cons.inj hmore).2
    rw [List.singleton_append, List.singleton_append, Text.takeWhile_ne_append_cons hs',
      Text.takeWhile_ne_append_cons hs] at hnames
    apply hnames
  · rintro rfl
    use hne, hp, hs, rest
    rfl

/-- The tags of a text that begins with a tag are that tag, and those of what follows. -/
theorem tagAt_upTo_tag_iff (hps : p ≠ s) {name rest : List Char} (hne : name ≠ [])
    (hp : p ∉ name) (hs : s ∉ name) {i : Nat} {name' : List Char} :
  TagAt p s (Text.upTo [p, s] (p :: ((name ++ [s]) ++ rest))) i name'
    ↔ i = 0 ∧ name' = name
      ∨ ∃ j, i = (p :: (name ++ [s])).length + j ∧ TagAt p s (Text.upTo [p, s] rest) j name'
  := by
  have hbehind : p ∉ name ++ [s] := by simp [hp, hps]
  rw [upTo_tag hne hs]
  cases i with
  | zero =>
      rw [upTo_append_of_not_mem hbehind, tagAt_zero_iff hne hp hs]
      constructor
      · intro hname
        left
        apply And.intro rfl hname
      · rintro (⟨-, hname⟩ | ⟨j, hj, -⟩)
        · apply hname
        · simp only [List.length_cons] at hj
          omega
  | succ k =>
      -- behind its first character the tag is passed over like any text without tags
      rw [tagAt_cons_succ_iff, tagAt_upTo_append_iff (fun l hl => not_opens_of_not_mem hbehind hl)]
      constructor
      · rintro ⟨j, rfl, hj⟩
        right
        use j
        simp only [List.length_cons, hj, and_true]
        omega
      · rintro (⟨h, -⟩ | ⟨j, hk, hj⟩)
        · contradiction
        · use j
          simp only [List.length_cons] at hk
          constructor
          · omega
          · apply hj

end Piece

/-! ### The search for the first tag -/

/-- Two characters as delimiters. -/
def Delimiters.ofChars (p s : Char) : Delimiters :=
  ⟨⟨[p], by simp⟩, ⟨[s], by simp⟩⟩

theorem Text.not_mem_of_cut? {c : Char} {text before after : List Char}
    (h : cut? [c] text = some (before, after)) :
  c ∉ before
  := by
  intro hmem
  obtain ⟨a, b, rfl⟩ := List.append_of_mem hmem
  apply not_prefix_of_cut? h (n := a.length)
  · simp
  · rw [eq_append_of_cut? h, List.append_assoc, List.drop_left]
    simp

namespace Delimiters

open Piece

variable {p s : Char} {text : List Char}

/-- The walk over openings of one character always ends with a name, though it may be empty;
the opening character is not in it. -/
theorem innermost?_character {opening : Delimiter} (ho : opening.chars = [p]) (text : List Char)
    (n : Nat) :
  ∃ passed name, innermost? opening text n = some (passed, name) ∧ p ∉ name
  := by
  fun_induction innermost? opening text n with
  | case1 text n hcut =>
      use [], text.take n
      constructor
      · rfl
      · intro hmem
        rw [ho, Text.cut?_eq_none_iff, List.singleton_infix_iff] at hcut
        apply hcut (List.mem_of_mem_take hmem)
  | case2 text n skipped tail hcut hn ih =>
      obtain ⟨passed, name, hwalk, hname⟩ := ih
      rw [hwalk]
      use opening.chars ++ (skipped ++ passed), name
      apply And.intro rfl hname
  | case3 text n skipped tail hcut hn hlt =>
      rw [ho] at hn
      simp only [List.length_singleton] at hn
      omega
  | case4 text n skipped tail hcut hn hge =>
      use [], text.take n
      constructor
      · rfl
      · intro hmem
        rw [Text.eq_append_of_cut? hcut, List.take_append_of_le_length (by omega)] at hmem
        rw [ho] at hcut
        apply Text.not_mem_of_cut? hcut (List.mem_of_mem_take hmem)

/-- What the search passes over, and what it then stands before. -/
theorem eq_append_and_not_opens_of_cut? (hps : p ≠ s)
    {before tail body rest passed name : List Char}
    (hb : Text.cut? [p] text = some (before, tail)) (hc : Text.cut? [s] tail = some (body, rest))
    (hw : innermost? (ofChars p s).opening tail body.length = some (passed, name)) :
  text = (before ++ passed) ++ (p :: ((name ++ [s]) ++ rest)) ∧ s ∉ name
    ∧ ∀ k < (before ++ passed).length, ¬ Opens p s (text.drop k)
  := by
  have htext := Text.eq_append_of_cut? hb
  have htail := Text.eq_append_of_cut? hc
  have hwalk : p :: body = passed ++ p :: name := by
    have h := append_take_of_innermost? hw
    rw [htail, List.take_left] at h
    apply h
  have hs : s ∉ passed ++ p :: name := by
    rw [← hwalk, List.mem_cons, not_or]
    apply And.intro hps.symm (Text.not_mem_of_cut? hc)
  rw [List.mem_append, not_or, List.mem_cons, not_or] at hs
  have hwhole : text = before ++ (passed ++ p :: ((name ++ [s]) ++ rest)) := by
    calc text
      _ = before ++ ((p :: body) ++ s :: rest) := by rw [htext, htail]; rfl
      _ = before ++ (passed ++ p :: ((name ++ [s]) ++ rest)) := by
        rw [hwalk]
        simp only [List.append_assoc, List.cons_append, List.nil_append]
  constructor
  · rw [hwhole, List.append_assoc before]
  constructor
  · apply hs.2.2
  · intro k hk
    rw [hwhole]
    rcases Nat.lt_or_ge k before.length with hlt | hge
    · apply not_opens_of_not_mem (Text.not_mem_of_cut? hb) hlt
    · obtain ⟨m, rfl⟩ := Nat.exists_eq_add_of_le hge
      rw [List.drop_length_add_append]
      apply not_opens_of_opening_behind hps hs.1
      rw [List.length_append] at hk
      omega

/-- Where the search finds nothing, the text has no tags before its first empty tag. -/
theorem not_tagAt_of_nextTag?_eq_none (hps : p ≠ s) (h : (ofChars p s).nextTag? text = none)
    (i : Nat) (name : List Char) :
  ¬ TagAt p s (Text.upTo [p, s] text) i name
  := by
  rcases cases_of_nextTag?_eq_none h with hb | ⟨before, tail, hb, hc | ⟨body, rest, hc, hw | hw⟩⟩
  · apply not_tagAt_upTo
    intro k hk
    have hp : p ∉ text := by
      rw [← List.singleton_infix_iff]
      apply Text.cut?_eq_none_iff.mp hb
    rw [← List.append_nil text]
    apply not_opens_of_not_mem hp hk
  · apply not_tagAt_upTo
    intro k hk
    have hs : s ∉ p :: tail := by
      rw [List.mem_cons, not_or, ← List.singleton_infix_iff]
      apply And.intro hps.symm (Text.cut?_eq_none_iff.mp hc)
    rw [Text.eq_append_of_cut? hb]
    rcases Nat.lt_or_ge k before.length with hlt | hge
    · apply not_opens_of_not_mem (Text.not_mem_of_cut? hb) hlt
    · obtain ⟨m, rfl⟩ := Nat.exists_eq_add_of_le hge
      rw [List.drop_length_add_append]
      intro hopens
      apply hs
      apply List.mem_of_mem_drop (closing_mem_of_opens hopens)
  · have hchars : (ofChars p s).opening.chars = [p] := rfl
    obtain ⟨passed, name', hsome, -⟩ := innermost?_character hchars tail body.length
    rw [hsome] at hw
    contradiction
  · obtain ⟨passed, hw⟩ := hw
    obtain ⟨htext, -, hopens⟩ := eq_append_and_not_opens_of_cut? hps hb hc hw
    rw [htext] at hopens ⊢
    apply not_tagAt_upTo_nil_name hopens

/-- The tags of a text between two characters are those that stand in its head. -/
theorem mem_tags_pieces_iff (hps : p ≠ s) (text : List Char) {i : Nat} {name : List Char} :
  (i, name) ∈ tags [p] [s] ((ofChars p s).pieces text) ↔ TagAt p s (Text.upTo [p, s] text) i name
  := by
  rw [mem_tags_iff]
  induction text using pieces.induct (ofChars p s) generalizing i with
  | case1 text h =>
      rw [pieces_of_nextTag?_eq_none h]
      constructor
      · intro hplaced
        cases (eq_of_mem_run (mem_of_mem_placed hplaced)).1
      · intro htag
        apply (not_tagAt_of_nextTag?_eq_none hps h i name htag).elim
  | case2 text f h ih =>
      rw [pieces_of_nextTag?_eq_some h, mem_placed_run_append_iff]
      obtain ⟨before, tail, body, passed, hb, hc, hw, hbefore⟩ := exists_of_nextTag?_eq_some h
      obtain ⟨htext, hs, hopens⟩ := eq_append_and_not_opens_of_cut? hps hb hc hw
      have hne := name_ne_nil_of_nextTag? h
      have hp : p ∉ f.name := by
        have hchars : (ofChars p s).opening.chars = [p] := rfl
        obtain ⟨_, _, hsome, hp⟩ := innermost?_character hchars tail body.length
        cases hw.symm.trans hsome
        apply hp
      rw [← hbefore] at htext hopens
      rw [htext] at hopens ⊢
      simp only [tagAt_upTo_append_iff hopens, tagAt_upTo_tag_iff hps hne hp hs, ih]
      constructor
      · rintro (⟨rfl, rfl⟩ | ⟨j, rfl, hj⟩)
        · use 0
          simp
        · use (p :: (f.name ++ [s])).length + j
          constructor
          · simp only [List.length_append, List.length_cons, List.length_nil]
            omega
          · right
            use j
      · rintro ⟨_, rfl, ⟨rfl, rfl⟩ | ⟨j, rfl, hj⟩⟩
        · left
          apply And.intro rfl rfl
        · right
          use j
          constructor
          · simp only [List.length_append, List.length_cons, List.length_nil]
            omega
          · apply hj

end Delimiters

namespace Piece

theorem scan_singleton (p s : Char) (text : String) :
  scan (String.singleton p) (String.singleton s) text
    = (Delimiters.ofChars p s).pieces text.toList
  := by
  have h : Delimiters.ofStrings (String.singleton p) (String.singleton s)
      = .ok (Delimiters.ofChars p s) := by
    rw [Delimiters.ofStrings_eq_ok_iff]
    simp [Delimiters.ofChars]
  rw [scan, h]

/-- Between two different characters, the tags of a text are exactly those that stand in its
head, from left to right; written out, the pieces are the text; and every character that is
behind the head or in none of these tags lies in a plain run. -/
theorem scan_tags_of_characters {p s : Char} (hps : p ≠ s) (text : String) :
  let row := scan (String.singleton p) (String.singleton s) text
  let head := Text.upTo [p, s] text.toList
  (tags [p] [s] row).Pairwise (fun a b => a.1 < b.1)
    ∧ (∀ i name, (i, name) ∈ tags [p] [s] row ↔ TagAt p s head i name)
    ∧ row.flatMap (written [p] [s]) = text.toList
    ∧ ∀ j < text.toList.length,
      (head.length ≤ j ∨ ∀ i name, TagAt p s head i name → j < i ∨ i + (name.length + 2) ≤ j) →
      ∃ i run, (i, .plain run) ∈ placed [p] [s] 0 row ∧ i ≤ j ∧ run[j - i]? = text.toList[j]?
  := by
  dsimp only
  rw [scan_singleton]
  have hdivides : Divides [p] [s] text.toList _ :=
    (Delimiters.ofChars p s).divides_pieces text.toList
  have htags : ∀ i name, (i, name) ∈ tags [p] [s] _ ↔ TagAt p s _ i name := fun _ _ =>
    Delimiters.mem_tags_pieces_iff hps text.toList
  use hdivides.pairwise_tags, htags, hdivides.written_eq
  intro j hj houtside
  apply hdivides.exists_run hj
  intro i name hmem
  have htag := (htags i name).mp hmem
  simp only [List.length_append, List.length_cons, List.length_nil]
  rcases houtside with hhead | hother
  · have := htag.end_le
    omega
  · have := hother i name htag
    omega

/-- A closing character by itself, an opening one in front of another and what follows an
empty tag make no tags. -/
theorem scan_tags_of_brackets :
  let row := scan (String.singleton '[') (String.singleton ']') "]x[[red]y[]z[d]"
  '[' ≠ ']' ∧ tags ['['] [']'] row = [(3, ['r', 'e', 'd'])]
    ∧ TagAt '[' ']' (Text.upTo ['[', ']'] "]x[[red]y[]z[d]".toList) 3 ['r', 'e', 'd']
  := by
  have hne : '[' ≠ ']' := by decide
  have hrow : tags ['['] [']'] (scan (String.singleton '[') (String.singleton ']') "]x[[red]y[]z[d]")
      = [(3, ['r', 'e', 'd'])] := by decide +kernel
  obtain ⟨-, hiff, -⟩ := scan_tags_of_characters hne "]x[[red]y[]z[d]"
  use hne, hrow
  apply (hiff _ _).mp
  rw [hrow]
  apply List.mem_singleton_self

end Piece

end StyleTags
