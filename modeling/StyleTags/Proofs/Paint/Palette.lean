import StyleTags.Paint.Spelling
import StyleTags.Proofs.Table

/-!
# The palette

No two colors of the palette share a name, so that a color is found by its name exactly if
an entry says so (`Swatch.find?_eq_some_iff`).  No name can be taken for anything else that a
tag may hold: it has no colon, is no mark of the background and no packed color.
-/

namespace StyleTags

namespace Swatch

theorem nodup_names :
  (entries.map Prod.fst).Nodup
  := by decide +kernel

theorem find?_eq_some_iff {name : String} {c : Swatch} :
  find? name = some c ↔ (name, c) ∈ entries
  := Table.lookup_eq_some_iff_mem nodup_names

/-- The names are none of the other things that a field of a tag may be. -/
theorem name_plain :
  ∀ entry ∈ entries, ':' ∉ entry.1.toList ∧ Layer.ofMark entry.1.toList = .foreground
    ∧ Color.ofPacked? entry.1.toList = none
  := by decide +kernel

end Swatch

namespace Color

/-- The solid colors of the palette, and no others, are known by name. -/
theorem named_eq_ok_iff {name : String} {color : Color} :
  named name = .ok color
    ↔ ∃ c, (name, c) ∈ Swatch.entries ∧ c.alpha = 255 ∧ color = .rgb c.red c.green c.blue
  := by
  simp only [← Swatch.find?_eq_some_iff]
  unfold named Swatch.isSolid
  cases Swatch.find? name with
  | none => simp
  | some c =>
      by_cases hsolid : c.alpha = 255
      · simp [hsolid, eq_comm]
      · simp [hsolid]

end Color

end StyleTags
