import Mathlib.Data.List.Induction
import Mathlib.Data.List.Nodup

-- A list of which each element is kept where it comes first.
namespace CssSelectors

variable {α β : Type} [DecidableEq α] [DecidableEq β]

theorem eraseDups_concat (items : List α) (last : α) :
    (items ++ [last]).eraseDups =
      if last ∈ items.eraseDups then items.eraseDups else items.eraseDups ++ [last] := by
  rw [List.eraseDups_append]
  by_cases known : last ∈ items
  · simp [List.removeAll, List.mem_eraseDups, known]
  · simp [List.removeAll, List.mem_eraseDups, known, List.eraseDups_cons]

theorem nodup_eraseDups (items : List α) : items.eraseDups.Nodup := by
  induction items using List.reverseRecOn with
  | nil => exact List.nodup_nil
  | append_singleton items last ih =>
      rw [eraseDups_concat]
      split
      · exact ih
      · rename_i fresh
        rw [← List.concat_eq_append, List.nodup_concat]
        exact ⟨fresh, ih⟩

theorem eraseDups_of_nodup {items : List α} (different : items.Nodup) : items.eraseDups = items := by
  induction items using List.reverseRecOn with
  | nil => rfl
  | append_singleton items last ih =>
      rw [← List.concat_eq_append, List.nodup_concat] at different
      rw [eraseDups_concat, ih different.2, if_neg different.1]

theorem eraseDups_map {f : α → β} (apart : Function.Injective f) (items : List α) :
    (items.map f).eraseDups = items.eraseDups.map f := by
  induction items using List.reverseRecOn with
  | nil => rfl
  | append_singleton items last ih =>
      have member : f last ∈ items.eraseDups.map f ↔ last ∈ items.eraseDups := List.mem_map_of_injective apart
      rw [List.map_append, List.map_singleton, eraseDups_concat, eraseDups_concat, ih]
      by_cases known : last ∈ items.eraseDups
      · rw [if_pos (member.mpr known), if_pos known]
      · rw [if_neg (mt member.mp known), if_neg known, List.map_append, List.map_singleton]

end CssSelectors
