import StyleTags.Proofs.Renderer.History

/-!
# Documents

A document is a text before its tags are written out: runs of text, each with the name of the
tag behind it, and the run behind the last tag.  It fits two delimiters if none of its runs has
a character of the opening one and none of its names has a character of either.  Written out
between them, it is then scanned back to its own pieces (`scan_text`), however the delimiters
overlap each other or themselves, and it is rendered name by name (`document_after_run`).
-/

namespace StyleTags

/-! ### Cutting where the pattern was put -/

namespace Text

variable {pattern before : List Char}

/-- A pattern is found where it was put, if what stands before has none of its characters. -/
theorem cut?_append (hne : pattern ≠ []) (h : ∀ c ∈ before, c ∉ pattern) (after : List Char) :
  cut? pattern (before ++ (pattern ++ after)) = some (before, after)
  := by
  induction before with
  | nil =>
      obtain ⟨c, cs, rfl⟩ := List.exists_cons_of_ne_nil hne
      rw [List.nil_append, List.cons_append, cut?, if_pos]
      · simp
      · simp
  | cons c cs ih =>
      rw [List.forall_mem_cons] at h
      have hnot : ¬ pattern.isPrefixOf (c :: (cs ++ (pattern ++ after))) := by
        rw [List.isPrefixOf_iff_prefix]
        intro hstands
        obtain ⟨p, ps, rfl⟩ := List.exists_cons_of_ne_nil hne
        rw [List.cons_prefix_cons] at hstands
        apply h.1
        rw [hstands.1]
        apply List.mem_cons_self
      rw [List.cons_append, cut?, if_neg hnot, ih h.2]
      rfl

/-- A text that has none of the characters of a pattern is not cut. -/
theorem cut?_of_forall_not_mem {text : List Char} (hne : pattern ≠ [])
    (h : ∀ c ∈ text, c ∉ pattern) :
  cut? pattern text = none
  := by
  rw [cut?_eq_none_iff]
  intro hinfix
  obtain ⟨c, cs, rfl⟩ := List.exists_cons_of_ne_nil hne
  have hmem := hinfix.subset List.mem_cons_self
  apply h c hmem List.mem_cons_self

/-- The first place of a pattern is not among characters that the pattern has not. -/
theorem length_le_of_cut?_append {rest skipped tail : List Char} (hne : pattern ≠ [])
    (h : ∀ c ∈ before, c ∉ pattern) (hcut : cut? pattern (before ++ rest) = some (skipped, tail)) :
  before.length ≤ skipped.length
  := by
  have htext := eq_append_of_cut? hcut
  -- the place is behind `before`, or `mid` is what of `before` stands behind the place
  rcases List.append_eq_append_iff.mp htext with ⟨mid, rfl, -⟩ | ⟨mid, rfl, hpattern⟩
  · simp
  · cases mid with
    | nil => simp
    | cons c mid =>
        obtain ⟨p, ps, rfl⟩ := List.exists_cons_of_ne_nil hne
        rw [List.cons_append, List.cons_append] at hpattern
        apply (h c _ _).elim
        · simp
        · rw [(List.cons.inj hpattern).1]
          apply List.mem_cons_self

end Text

/-! ### Documents and their pieces -/

/-- Runs of text, each with the name of the tag behind it, and the run behind the last tag. -/
structure Document where
  marked : List (List Char × List Char)
  last : List Char

namespace Document

/-- A document with something put in the place of every name. -/
def fill (put : List Char → List Char) (doc : Document) : List Char :=
  doc.marked.flatMap (fun part => part.1 ++ put part.2) ++ doc.last

/-- A document written out between delimiters. -/
def text (d : Delimiters) (doc : Document) : String :=
  String.ofList (doc.fill fun name => d.source (.tag name))

/-- The runs of a document and nothing else. -/
def plain (doc : Document) : List Char :=
  doc.marked.flatMap Prod.fst ++ doc.last

/-- The pieces of a document; runs are left out where they are empty. -/
def pieces (doc : Document) : List Piece :=
  doc.marked.flatMap (fun part => Piece.run part.1 ++ [.tag part.2]) ++ Piece.run doc.last

/-- Delimiters that cannot be taken for anything else in a document. -/
structure Fits (d : Delimiters) (doc : Document) : Prop where
  run_free : ∀ part ∈ doc.marked, ∀ c ∈ part.1, c ∉ d.opening.chars
  last_free : ∀ c ∈ doc.last, c ∉ d.opening.chars
  name_ne_nil : ∀ part ∈ doc.marked, part.2 ≠ []
  name_free : ∀ part ∈ doc.marked, ∀ c ∈ part.2, c ∉ d.opening.chars ∧ c ∉ d.closing.chars

theorem flatMap_run {f : Piece → List Char} (hf : ∀ run, f (.plain run) = run) (run : List Char) :
  (Piece.run run).flatMap f = run
  := by
  cases run with
  | nil => rfl
  | cons c cs => simp [Piece.run, hf]

/-- Where runs are copied, the pieces of a document become the document with its tags
replaced. -/
theorem flatMap_pieces {f : Piece → List Char} (hf : ∀ run, f (.plain run) = run)
    (doc : Document) :
  doc.pieces.flatMap f = doc.fill fun name => f (.tag name)
  := by
  rw [pieces, fill, List.flatMap_append, List.flatMap_assoc, flatMap_run hf]
  simp only [List.flatMap_append, flatMap_run hf, List.flatMap_singleton]

theorem fill_congr {put put' : List Char → List Char} {doc : Document}
    (h : ∀ part ∈ doc.marked, put part.2 = put' part.2) :
  doc.fill put = doc.fill put'
  := by
  rw [fill, fill]
  congr 1
  apply List.flatMap_congr
  intro part hpart
  rw [h part hpart]

theorem fill_nil (doc : Document) :
  doc.fill (fun _ => []) = doc.plain
  := by
  simp only [fill, plain, List.append_nil]

end Document

/-! ### Scanning a document -/

namespace Delimiters

variable {d : Delimiters}

/-- There is nothing to walk over where the name has no character of the opening delimiter. -/
theorem innermost?_append {opening : Delimiter} {name : List Char}
    (h : ∀ c ∈ name, c ∉ opening.chars) (rest : List Char) :
  innermost? opening (name ++ rest) name.length = some ([], name)
  := by
  rw [innermost?]
  split
  · rw [List.take_left]
  · next skipped tail hcut =>
    -- another opening delimiter may begin behind the name, too late for a step of the walk
    have hle := Text.length_le_of_cut?_append opening.nonempty h hcut
    have := opening.length_pos
    rw [if_neg (by omega), if_neg (by omega), List.take_left]

/-- The first tag is found behind a run that has no character of the opening delimiter. -/
theorem nextTag?_append {run name : List Char} (hrun : ∀ c ∈ run, c ∉ d.opening.chars)
    (hne : name ≠ []) (hname : ∀ c ∈ name, c ∉ d.opening.chars ∧ c ∉ d.closing.chars)
    (rest : List Char) :
  d.nextTag? (run ++ (d.source (.tag name) ++ rest)) = some ⟨run, name, rest⟩
  := by
  have ho : ∀ c ∈ name, c ∉ d.opening.chars := fun c hc => (hname c hc).1
  have hc : ∀ c ∈ name, c ∉ d.closing.chars := fun c hc => (hname c hc).2
  have hempty : name.isEmpty = false := by simpa using hne
  simp only [nextTag?, source, List.append_assoc, Text.cut?_append d.opening.nonempty hrun,
    Text.cut?_append d.closing.nonempty hc, innermost?_append ho, hempty]
  simp

/-- A document that fits the delimiters is scanned back to its pieces. -/
theorem pieces_fill {doc : Document} (h : doc.Fits d) :
  d.pieces (doc.fill fun name => d.source (.tag name)) = doc.pieces
  := by
  obtain ⟨marked, last⟩ := doc
  induction marked with
  | nil =>
      have hnone : d.nextTag? last = none := by
        rw [nextTag?, Text.cut?_of_forall_not_mem d.opening.nonempty h.last_free]
      apply pieces_of_nextTag?_eq_none hnone
  | cons part marked ih =>
      obtain ⟨run, name⟩ := part
      have hrest : (Document.mk marked last).Fits d := by
        constructor
        case run_free => exact (List.forall_mem_cons.mp h.run_free).2
        case last_free => exact h.last_free
        case name_ne_nil => exact (List.forall_mem_cons.mp h.name_ne_nil).2
        case name_free => exact (List.forall_mem_cons.mp h.name_free).2
      have hfirst := nextTag?_append (h.run_free _ List.mem_cons_self)
        (h.name_ne_nil _ List.mem_cons_self) (h.name_free _ List.mem_cons_self)
        ((Document.mk marked last).fill fun name => d.source (.tag name))
      have hpieces := pieces_of_nextTag?_eq_some hfirst
      rw [ih hrest] at hpieces
      simpa [Document.fill, Document.pieces] using hpieces

end Delimiters

theorem Document.scan_text {d : Delimiters} {doc : Document} (h : doc.Fits d) :
  Piece.scan d.opening.text d.closing.text (doc.text d) = doc.pieces
  := by
  have hscan := Settings.scan_eq_pieces ⟨d, .interpret⟩ (doc.text d)
  rw [text, String.toList_ofList, Delimiters.pieces_fill h] at hscan
  apply hscan

/-! ### Rendering a document -/

namespace Renderer

/-- What a renderer shows for a name: its escape sequence where tags are shown, nothing where
they are removed, and the tag as it is written where it has none. -/
def shownFor (r : Renderer) (mode : Mode) (name : List Char) : List Char :=
  match (r.look (String.ofList name)).answer with
  | .ok escape => if mode = .interpret then escape.toList else []
  | .error _ => r.settings.delimiters.source (.tag name)

variable {r : Renderer} {met : List String}

theorem shownFor_eq_shown (h : r.book.Met met) (mode : Mode) (name : List Char) :
  r.shownFor mode name
    = Piece.shown r.settings.delimiters.opening.chars r.settings.delimiters.closing.chars mode
      (.tag name)
  := by
  rw [shownFor, answer_look h, Piece.shown, Piece.source_eq_written]
  cases escapeOf (String.ofList name) with
  | ok escape => rfl
  | error reason => rfl

/-- A document that fits the delimiters is rendered name by name. -/
theorem answer_renderAs_document (h : r.book.Met met) {doc : Document}
    (hfits : doc.Fits r.settings.delimiters) {mode : Mode} (hmode : mode ≠ .ignore) :
  (r.renderAs mode (doc.text r.settings.delimiters)).answer
    = String.ofList (doc.fill (r.shownFor mode))
  := by
  have hscan : Piece.scan r.settings.opening r.settings.closing _ = _ := doc.scan_text hfits
  rw [answer_renderAs h, shown, if_neg hmode, hscan, Document.flatMap_pieces (fun _ => rfl)]
  congr 2
  funext name
  rw [shownFor_eq_shown h, Settings.opening, Settings.closing, Delimiter.text, Delimiter.text,
    String.toList_ofList, String.toList_ofList]

/-- Where all names have an escape sequence, tags are replaced by these, or by nothing. -/
theorem fill_shownFor {doc : Document} {escape : List Char → String}
    (h : ∀ part ∈ doc.marked, (r.look (String.ofList part.2)).answer = .ok (escape part.2))
    (mode : Mode) :
  doc.fill (r.shownFor mode)
    = doc.fill fun name => if mode = .interpret then (escape name).toList else []
  := by
  apply Document.fill_congr
  intro part hpart
  rw [shownFor, h part hpart]

/-- A document that fits the delimiters is scanned back to its pieces.  A renderer that came to
these delimiters by calls that leave the codebook to it renders the document name by name.
Where all names have an escape sequence, nothing but the runs is left when tags are removed,
and the sequences stand in the places of the tags when they are shown. -/
theorem document_after_run {d : Delimiters} {doc : Document} (h : doc.Fits d) :
  Piece.scan d.opening.text d.closing.text (doc.text d) = doc.pieces
    ∧ ∀ opening closing mode calls, (∀ call ∈ calls, call.isOwn) →
      let r := (start opening closing mode).answer.run calls
      r.settings.delimiters = d →
      (∀ m, m ≠ .ignore →
          (r.renderAs m (doc.text d)).answer = String.ofList (doc.fill (r.shownFor m)))
        ∧ ∀ escape : List Char → String,
          (∀ part ∈ doc.marked, (r.look (String.ofList part.2)).answer = .ok (escape part.2)) →
          (r.unmark (doc.text d)).answer = String.ofList doc.plain
            ∧ (r.renderAs .interpret (doc.text d)).answer
              = String.ofList (doc.fill fun name => (escape name).toList)
  := by
  use Document.scan_text h
  rintro opening closing mode calls hown r rfl
  have hmet := met_after_run opening closing mode hown
  have hanswer : ∀ m, m ≠ .ignore → (r.renderAs m _).answer = _ := fun _ hm =>
    answer_renderAs_document hmet h hm
  use hanswer
  intro escape hescape
  constructor
  · rw [unmark, hanswer .remove (by decide), fill_shownFor hescape, ← Document.fill_nil]
    rfl
  · rw [hanswer .interpret (by decide), fill_shownFor hescape]
    rfl

/-- Two delimiters that share a character, a name right behind another tag, and runs that have
characters of the closing delimiter. -/
theorem document_between_arrows :
  let d : Delimiters := ⟨⟨['<', '-'], by simp⟩, ⟨['-', '>'], by simp⟩⟩
  let doc : Document := ⟨[([], "red".toList), (['>'], "fg:1:2:3".toList)], ['>', '>']⟩
  let r := standard.run [.useDelimiters "<-" "->", .look "zz"]
  doc.Fits d ∧ r.settings.delimiters = d
    ∧ (r.unmark "<-red->><-fg:1:2:3->>>").answer = ">>>"
    ∧ (r.renderAs .interpret "<-red->><-fg:1:2:3->>>").answer = "\x1b[31m>\x1b[38;5;67m>>"
  := by
  intro d doc r
  have hfits : doc.Fits d := by
    constructor
    case run_free => simp [doc, d]
    case last_free => simp [doc, d]
    case name_ne_nil => simp [doc]
    case name_free => simp [doc, d]
  have hown : ∀ call ∈ [Call.useDelimiters "<-" "->", .look "zz"], call.isOwn := by decide
  have hdelimiters : r.settings.delimiters = d := by decide +kernel
  let escape : List Char → String := fun name =>
    if name = "red".toList then "\x1b[31m" else "\x1b[38;5;67m"
  have hanew : ∀ part ∈ doc.marked, escapeOf (String.ofList part.2) = .ok (escape part.2) := by
    decide +kernel
  have hescape : ∀ part ∈ doc.marked,
      (r.look (String.ofList part.2)).answer = .ok (escape part.2) := by
    intro part hpart
    have hlook := answer_look (met_after_run "[" "]" .interpret hown) (String.ofList part.2)
    rw [hanew part hpart] at hlook
    apply hlook
  obtain ⟨-, hrender⟩ := document_after_run hfits
  obtain ⟨-, hresolved⟩ := hrender "[" "]" .interpret _ hown hdelimiters
  obtain ⟨hunmark, hinterpret⟩ := hresolved escape hescape
  have htext : doc.text d = "<-red->><-fg:1:2:3->>>" := by decide +kernel
  have hfill : String.ofList (doc.fill fun name => (escape name).toList)
      = "\x1b[31m>\x1b[38;5;67m>>" := by decide +kernel
  rw [htext] at hunmark hinterpret
  rw [hfill] at hinterpret
  exact ⟨hfits, hdelimiters, hunmark, hinterpret⟩

end Renderer

end StyleTags
