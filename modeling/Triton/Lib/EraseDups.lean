/-
# Each item once, in the order of first appearance

`List.eraseDups` keeps the first of equal items. It commutes with filters, it may
be done before a map as long as it is done again after it, and adding the items of a
list one by one, unless they are there already, comes to the same.
-/

import Mathlib.Data.List.Nodup

namespace Triton.Lib

universe u v

variable {α : Type u} {β : Type v} [BEq α] [LawfulBEq α] [BEq β] [LawfulBEq β]

omit [BEq α] [LawfulBEq α] in
/-- Induction along what is left once the first item and its equals are gone. -/
theorem eraseDups_induction {motive : List α → Prop} (nil : motive [])
    (cons : ∀ item items, (∀ p : α → Bool, motive (items.filter p)) → motive (item :: items)) :
    ∀ items, motive items := by
  intro items
  induction size : items.length using Nat.strongRecOn generalizing items with
  | _ n ih =>
    cases items with
    | nil => exact nil
    | cons item items =>
      refine cons item items fun p => ih _ ?_ _ rfl
      rw [← size, List.length_cons]
      exact Nat.lt_succ_of_le (List.length_filter_le _ _)

theorem nodup_eraseDups (items : List α) : items.eraseDups.Nodup := by
  induction items using eraseDups_induction with
  | nil => exact List.nodup_nil
  | cons item items ih =>
    rw [List.eraseDups_cons, List.nodup_cons]
    refine ⟨fun member => ?_, ih _⟩
    have kept := List.mem_filter.mp (List.mem_eraseDups.mp member)
    simp at kept

theorem eraseDups_filter (p : α → Bool) (items : List α) :
    (items.filter p).eraseDups = items.eraseDups.filter p := by
  induction items using eraseDups_induction with
  | nil => rfl
  | cons item items ih =>
    rw [List.eraseDups_cons, List.filter_cons, List.filter_cons, ← ih, List.filter_filter]
    split
    · rw [List.eraseDups_cons, List.filter_filter]
      simp only [Bool.and_comm]
    · rename_i dropped
      congr 1
      apply List.filter_congr
      intro other _
      by_cases same : other = item
      · subst same
        simp [dropped]
      · simp [same]

/-- Dropping repetitions before a map makes no difference after it. -/
theorem eraseDups_map_eraseDups (f : α → β) (items : List α) :
    (items.eraseDups.map f).eraseDups = (items.map f).eraseDups := by
  induction items using eraseDups_induction with
  | nil => rfl
  | cons item items ih =>
    rw [List.eraseDups_cons, List.map_cons, List.map_cons, List.eraseDups_cons,
      List.eraseDups_cons, List.filter_map, List.filter_map, ← eraseDups_filter,
      List.filter_filter, ih]
    congr 3
    apply List.filter_congr
    intro other _
    by_cases same : other = item
    · subst same
      simp
    · simp [same]

/-- Items that are all different stay as they are. -/
theorem eraseDups_of_nodup {items : List α} (nodup : items.Nodup) : items.eraseDups = items := by
  induction items with
  | nil => rfl
  | cons item items ih =>
    obtain ⟨fresh, nodup⟩ := List.nodup_cons.mp nodup
    have kept : (items.filter fun other => !other == item) = items := by
      apply List.filter_eq_self.mpr
      intro other member
      have differs : other ≠ item := fun same => fresh (same ▸ member)
      simpa using differs
    rw [List.eraseDups_cons, kept, ih nodup]

/-- Repetitions in one of two lists may go before the lists are joined. -/
theorem eraseDups_eraseDups_append (first second : List α) :
    (first.eraseDups ++ second).eraseDups = (first ++ second).eraseDups := by
  have removed : second.removeAll first.eraseDups = second.removeAll first := by
    apply List.filter_congr
    intro item _
    rw [Bool.eq_iff_iff]
    simp
  rw [List.eraseDups_append, List.eraseDups_append, removed,
    eraseDups_of_nodup (nodup_eraseDups first)]

theorem eraseDups_append_eraseDups (first second : List α) :
    (first ++ second.eraseDups).eraseDups = (first ++ second).eraseDups := by
  rw [List.eraseDups_append, List.eraseDups_append, List.removeAll, List.removeAll,
    ← eraseDups_filter, eraseDups_of_nodup (nodup_eraseDups _)]

/-- Adding one item to a list of different ones. -/
theorem eraseDups_concat {items : List α} (nodup : items.Nodup) (item : α) :
    (items ++ [item]).eraseDups = if items.contains item then items else items ++ [item] := by
  rw [List.eraseDups_append, eraseDups_of_nodup nodup]
  unfold List.removeAll
  split
  · rename_i there
    simp only [List.elem_eq_contains, List.filter_cons, there]
    simp
  · rename_i fresh
    simp only [List.elem_eq_contains, List.filter_cons, fresh]
    simp [List.eraseDups_cons]

end Triton.Lib
