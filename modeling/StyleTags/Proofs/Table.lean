import Std.Data.TreeMap.Lemmas
import Mathlib.Data.Set.Card
import Mathlib.Tactic.Use

/-!
# Tables

A table is a list of entries, each of them a name with what it stands for.  Where no name
comes twice, what is looked up is what the entries say (`lookup_eq_some_iff_mem`), and a
search tree made of the table finds the same (`getElem?_ofList`).  The size of a search tree
is the number of names that it holds (`ncard_names`).
-/

namespace StyleTags.Table

variable {α β : Type} {table : List (α × β)} {name : α} {value : β}

theorem lookup_eq_some_iff_mem [BEq α] [LawfulBEq α] (h : (table.map Prod.fst).Nodup) :
  table.lookup name = some value ↔ (name, value) ∈ table
  := by
  induction table with
  | nil => simp
  | cons entry table ih =>
      obtain ⟨first, held⟩ := entry
      rw [List.map_cons, List.nodup_cons] at h
      rw [List.lookup_cons, List.mem_cons, Prod.mk.injEq]
      cases heq : name == first with
      | false =>
          have hne : name ≠ first := by simpa using heq
          rw [ih h.2]
          simp [hne]
      | true =>
          obtain rfl : name = first := by simpa using heq
          have hnot : (name, value) ∉ table := by
            intro hmem
            apply h.1
            apply List.mem_map.mpr
            use (name, value)
          simp [hnot, eq_comm]

theorem getElem?_ofList {cmp : α → α → Ordering} [BEq α] [LawfulBEq α] [Std.TransCmp cmp]
    [Std.LawfulEqCmp cmp] (h : (table.map Prod.fst).Nodup) :
  (Std.TreeMap.ofList table cmp)[name]? = table.lookup name
  := by
  have hdistinct : table.Pairwise fun a b => ¬ cmp a.1 b.1 = .eq := by
    rw [List.Nodup, List.pairwise_map] at h
    apply h.imp
    intro a b hne heq
    apply hne (Std.LawfulEqCmp.compare_eq_iff_eq.mp heq)
  cases hfound : table.lookup name with
  | none =>
      apply Std.TreeMap.getElem?_ofList_of_contains_eq_false
      rw [← Bool.not_eq_true, List.contains_iff_mem]
      intro hmem
      obtain ⟨entry, hentry, rfl⟩ := List.mem_map.mp hmem
      simpa using List.lookup_eq_none_iff.mp hfound entry hentry
  | some value =>
      rw [lookup_eq_some_iff_mem h] at hfound
      apply Std.TreeMap.getElem?_ofList_of_mem Std.ReflCmp.compare_self hdistinct hfound

section Size

variable {cmp : α → α → Ordering} [Std.TransCmp cmp] [Std.LawfulEqCmp cmp]

theorem names_eq_keys (tree : Std.TreeMap α β cmp) :
  {name | tree.contains name = true} = {name | name ∈ tree.keys}
  := by
  ext name
  rw [Set.mem_ofPred_eq, Set.mem_ofPred_eq, Std.TreeMap.contains_iff_mem, Std.TreeMap.mem_keys]

theorem finite_names (tree : Std.TreeMap α β cmp) :
  {name | tree.contains name = true}.Finite
  := by
  rw [names_eq_keys]
  apply List.finite_toSet

theorem ncard_names (tree : Std.TreeMap α β cmp) :
  {name | tree.contains name = true}.ncard = tree.size
  := by
  classical
  have hnodup : tree.keys.Nodup := by
    apply Std.TreeMap.distinct_keys.imp
    intro a b hne heq
    apply hne (Std.LawfulEqCmp.compare_eq_iff_eq.mpr heq)
  rw [names_eq_keys, ← List.coe_toFinset, Set.ncard_coe_finset,
    List.toFinset_card_of_nodup hnodup, Std.TreeMap.length_keys]

end Size

end StyleTags.Table
