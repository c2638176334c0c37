import StyleTags.Proofs.Escape
import StyleTags.Proofs.Piece.Division
import StyleTags.Proofs.Renderer.History

/-!
# What tags can send to a terminal

Every escape sequence that a name stands for is a signal (`signal_of_escapeOf`): a tag can
choose a graphic rendition, ring the bell, or do nothing.  Where a text has no control
characters of its own, the text as it is shown differs from the text without its tags by
signals only, and clearing these gives the text without its tags (`clear_shown`).
-/

namespace StyleTags

open Escape (Signal)

namespace Catalog

theorem signal_of_mem_fixed :
  ∀ entry ∈ fixed, Signal (Escape.ofTemplate entry.2).toList
  := by
  simp only [Escape.toList_ofTemplate]
  decide

theorem signal_of_mem_greyStep {step : Nat} {entry : String × String} (h : entry ∈ greyStep step) :
  Signal entry.2.toList
  := by
  simp only [greyStep, List.mem_flatMap, List.mem_cons, List.not_mem_nil, or_false] at h
  obtain ⟨spelling, -, rfl | rfl⟩ := h
  · rw [String.toList_ofList]
    apply Escape.signal_rendition
  · rw [String.toList_ofList]
    apply Escape.signal_rendition

theorem signal_of_mem {entry : String × String} (h : entry ∈ entries) :
  Signal entry.2.toList
  := by
  rcases List.mem_append.mp h with hfixed | hgrey
  · obtain ⟨template, hmem, rfl⟩ := List.mem_map.mp hfixed
    apply signal_of_mem_fixed template hmem
  · obtain ⟨step, -, hmem⟩ := List.mem_flatMap.mp hgrey
    apply signal_of_mem_greyStep hmem

end Catalog

/-- Every escape sequence that a name stands for is a signal. -/
theorem signal_of_escapeOf {name escape : String} (h : escapeOf name = .ok escape) :
  Signal escape.toList
  := by
  rw [escapeOf] at h
  cases hcatalog : Catalog.find? name with
  | some held =>
      rw [hcatalog] at h
      cases h
      have hmem := (Table.lookup_eq_some_iff_mem Catalog.nodup_names).mp hcatalog
      apply Catalog.signal_of_mem hmem
  | none =>
      rw [hcatalog] at h
      cases hread : Paint.ofTag name with
      | error reason =>
          rw [hread] at h
          contradiction
      | ok paint =>
          rw [hread] at h
          cases h
          rw [Paint.escape, String.toList_ofList]
          apply Escape.signal_rendition

/-! ### A row of pieces with its tags shown and removed -/

namespace Piece

variable {opening closing : List Char}

/-- Clearing a row as it is shown gives the row without its tags. -/
theorem clear_flatMap_shown {row : List Piece}
    (hesc : Escape.esc ∉ row.flatMap (written opening closing))
    (hbell : Escape.bell ∉ row.flatMap (written opening closing)) :
  Escape.clear (row.flatMap (shown opening closing .interpret))
    = row.flatMap (shown opening closing .remove)
  := by
  induction row with
  | nil => apply Escape.clear_nil
  | cons p row ih =>
      rw [List.flatMap_cons, List.mem_append, not_or] at hesc hbell
      rw [List.flatMap_cons, List.flatMap_cons, ← ih hesc.2 hbell.2]
      cases p with
      | plain text => apply Escape.clear_append_of_not_mem hesc.1 hbell.1
      | tag name =>
          rw [shown, shown]
          -- a tag without an escape sequence is part of the text, and has no control characters
          cases hanew : escapeOf (String.ofList name) with
          | ok escape => apply Escape.clear_append_of_signal (signal_of_escapeOf hanew)
          | error reason => apply Escape.clear_append_of_not_mem hesc.1 hbell.1

end Piece

/-- Clearing a text as it is shown gives the text without its tags, if the text has no control
characters of its own. -/
theorem clear_shown {text : String} (opening closing : String) (hesc : Escape.esc ∉ text.toList)
    (hbell : Escape.bell ∉ text.toList) :
  Escape.clear (shown text opening closing .interpret).toList
    = (shown text opening closing .remove).toList
  := by
  have hwritten := (Piece.divides_scan opening closing text).written_eq
  rw [← hwritten] at hesc hbell
  rw [shown, shown, if_neg (by decide), if_neg (by decide), String.toList_ofList,
    String.toList_ofList]
  apply Piece.clear_flatMap_shown hesc hbell

namespace Renderer

/-- After any calls that leave the codebook to the renderer, every escape sequence that it
finds is a signal, and clearing a text as it is shown gives the text without its tags, if the
text has no control characters of its own; be it asked for before or after. -/
theorem signals_after_run (opening closing : String) (mode : Mode) {calls : List Call}
    (hown : ∀ call ∈ calls, call.isOwn) :
  let r := (start opening closing mode).answer.run calls
  (∀ name escape, (r.look name).answer = .ok escape → Signal escape.toList)
    ∧ ∀ text : String, Escape.esc ∉ text.toList → Escape.bell ∉ text.toList →
      Escape.clear (r.renderAs .interpret text).answer.toList = (r.unmark text).answer.toList
        ∧ Escape.clear (r.renderAs .interpret text).answer.toList
          = ((r.renderAs .interpret text).state.unmark text).answer.toList
  := by
  intro r
  have hmet := met_after_run opening closing mode hown
  constructor
  · intro name escape hlook
    rw [answer_look hmet] at hlook
    cases hanew : escapeOf name with
    | ok found =>
        rw [hanew] at hlook
        cases hlook
        apply signal_of_escapeOf hanew
    | error reason =>
        rw [hanew] at hlook
        contradiction
  · intro text hesc hbell
    have hinterpret := answer_renderAs hmet .interpret text
    have hafter := met_renderAs hmet .interpret text
    have hclear := clear_shown r.settings.opening r.settings.closing hesc hbell
    constructor
    · rw [hinterpret, hclear, unmark, answer_renderAs hmet]
    · rw [hinterpret, hclear, unmark, answer_renderAs hafter, settings_renderAs]

/-- Runs that begin and end as a graphic rendition does are left alone, and so is a tag without
an escape sequence. -/
theorem signals_between_renditions :
  let r := standard.run [.useDelimiters "m[" ";1m", .look "zz"]
  let text := "[0;m[red;1m1mm[beep;1m[m[zz;1m"
  (r.look "fg:1:2:3").answer = .ok "\x1b[38;5;67m" ∧ Signal "\x1b[38;5;67m".toList
    ∧ Escape.esc ∉ text.toList ∧ Escape.bell ∉ text.toList
    ∧ (r.unmark text).answer = "[0;1m[m[zz;1m"
    ∧ Escape.clear (r.renderAs .interpret text).answer.toList = "[0;1m[m[zz;1m".toList
  := by
  intro r text
  have hown : ∀ call ∈ [Call.useDelimiters "m[" ";1m", .look "zz"], call.isOwn := by decide
  have hmet : r.book.Met _ := met_after_run "[" "]" .interpret hown
  have hpaint : escapeOf "fg:1:2:3" = .ok "\x1b[38;5;67m" := by decide +kernel
  have hlook := answer_look hmet "fg:1:2:3"
  rw [hpaint] at hlook
  have hopening : r.settings.opening = "m[" ∧ r.settings.closing = ";1m" := by decide +kernel
  have hshown : shown text "m[" ";1m" .remove = "[0;1m[m[zz;1m" := by decide +kernel
  have hunmark : (r.unmark text).answer = _ := answer_renderAs hmet .remove text
  rw [hopening.1, hopening.2, hshown] at hunmark
  have hesc : Escape.esc ∉ text.toList := by decide
  have hbell : Escape.bell ∉ text.toList := by decide
  obtain ⟨hsignal, hclear⟩ := signals_after_run "[" "]" .interpret hown
  have hcleared : _ = (r.unmark text).answer.toList := (hclear text hesc hbell).1
  rw [hunmark] at hcleared
  exact ⟨hlook, hsignal _ _ hlook, hesc, hbell, hunmark, hcleared⟩

end Renderer

end StyleTags
