/-
# Lists by position

What stands at each place of a list after one item was replaced or added.
-/

import Mathlib.Data.List.Basic

namespace Triton.Lib

universe u

/-- Putting back what is there changes nothing. -/
theorem set_of_getElem? {α : Type u} {items : List α} {i : Nat} {item : α}
    (found : items[i]? = some item) : items.set i item = items := by
  obtain ⟨inside, rfl⟩ := List.getElem?_eq_some_iff.mp found
  exact List.set_getElem_self inside

/-- Where one item was replaced, it stands, and everywhere else what stood there. -/
theorem getElem?_set_of_getElem? {α : Type u} {items : List α} {i : Nat} {item : α}
    (found : items[i]? = some item) (new : α) (j : Nat) :
    (items.set i new)[j]? = if i = j then some new else items[j]? := by
  obtain ⟨inside, _⟩ := List.getElem?_eq_some_iff.mp found
  simp [List.getElem?_set, inside]

/-- An item of a longer list is an older one, or the one that was added. -/
theorem getElem?_concat_cases {α : Type u} {items : List α} {added item : α} {i : Nat}
    (found : (items ++ [added])[i]? = some item) :
    items[i]? = some item ∨ (i = items.length ∧ item = added) := by
  rcases Nat.lt_trichotomy i items.length with inside | here | outside
  · rw [List.getElem?_append_left inside] at found
    exact .inl found
  · rw [here, List.getElem?_concat_length] at found
    exact .inr ⟨here, (Option.some.inj found).symm⟩
  · rw [List.getElem?_eq_none (by simpa using Nat.succ_le_of_lt outside)] at found
    cases found

end Triton.Lib
