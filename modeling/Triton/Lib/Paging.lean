/-
# Following a cursor through a list

A server hands out a list page by page: every page names the cursor of the next
one, until there is none. The server is any function from the number of the
request and the cursor to a page, so page sizes may vary and a cursor may be any
kind of token. If every answer is the slice at the place its cursor stands for,
following the cursors from the start ends, and the pages make up the list.
-/

import Mathlib.Data.List.Basic

namespace Triton.Lib

universe u v w

variable {κ : Type u} {π : Type v} {α : Type w}

/-- What a client reads off a page. -/
structure Paged (κ : Type u) (π : Type v) (α : Type w) where
  items : π → List α
  next : π → Option κ

namespace Paged

variable (reads : Paged κ π α) (ask : ℕ → Option κ → Option π)

/-- Follow the cursors for at most so many requests. No result stands for a
request that failed, or for a client that gave up before the last page. -/
def follow : ℕ → ℕ → Option κ → Option (List π)
  | 0, _, _ => none
  | fuel + 1, i, cursor =>
    (ask i cursor).bind fun page =>
      match reads.next page with
      | none => some [page]
      | some next => (follow fuel (i + 1) (some next)).map (page :: ·)

/-- The page at this place: a slice that is not empty by size, a cursor for what
follows it if anything does, and whatever else holds of every page. -/
structure IsSlice (place : Option κ → ℕ → Prop) (all : List α) (holds : π → Prop) (offset size : ℕ)
    (page : π) : Prop where
  positive : 0 < size
  items : reads.items page = (all.drop offset).take size
  last : all.length ≤ offset + size → reads.next page = none
  more : offset + size < all.length →
    ∃ cursor, reads.next page = some cursor ∧ place (some cursor) (offset + size)
  extra : holds page

variable {reads ask}

/-- From any place, following ends within as many requests as items are left, and
the pages are what is left of the list. -/
theorem follow_complete {place : Option κ → ℕ → Prop} {all : List α} {holds : π → Prop}
    (serves : ∀ i cursor offset, place cursor offset →
      ∃ page size, ask i cursor = some page ∧ reads.IsSlice place all holds offset size page)
    {fuel i offset : ℕ} {cursor : Option κ} (here : place cursor offset)
    (enough : all.length - offset < fuel) :
    ∃ pages, reads.follow ask fuel i cursor = some pages ∧
      pages.flatMap reads.items = all.drop offset ∧ ∀ page ∈ pages, holds page := by
  induction fuel generalizing i offset cursor with
  | zero => omega
  | succ fuel ih =>
    obtain ⟨page, size, answered, slice⟩ := serves i cursor offset here
    rw [follow, answered, Option.bind_some]
    by_cases done : all.length ≤ offset + size
    · rw [slice.last done]
      refine ⟨[page], rfl, ?_, fun other member => ?_⟩
      · rw [List.flatMap_singleton, slice.items, List.take_of_length_le]
        rw [List.length_drop]
        omega
      · rw [List.mem_singleton.mp member]
        exact slice.extra
    · obtain ⟨next, named, there⟩ := slice.more (by omega)
      have positive := slice.positive
      obtain ⟨pages, followed, items, all_hold⟩ := ih (i := i + 1) there (by omega)
      rw [named]
      refine ⟨page :: pages, ?_, ?_, List.forall_mem_cons.mpr ⟨slice.extra, all_hold⟩⟩
      · simp only [followed, Option.map_some]
      · rw [List.flatMap_cons, slice.items, items, ← List.drop_drop, List.take_append_drop]

end Paged

end Triton.Lib
