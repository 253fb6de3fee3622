/-
# Rows filed under a derived slot

A table that files the row of a key under a slot computed from the key, instead
of under the key itself. What such a table is meant to answer is the latest
write of each key. It does so throughout a sequence of writes exactly when every
key a row was written for is alone in its slot.
-/

import Mathlib.Data.List.Induction
import Triton.Lib.Run
import Triton.Lib.Table

namespace Triton.Lib.Slots

universe u v w

/-- One write: a row for the key, or the removal of its row. -/
structure Write (κ : Type u) (ρ : Type w) where
  key : κ
  row : Option ρ

variable {κ : Type u} {ι : Type v} {ρ : Type w} [DecidableEq κ] [DecidableEq ι]

/-- The row of the latest write for the key itself. -/
def latest (key : κ) (writes : List (Write κ ρ)) : Option ρ :=
  writes.foldl (fun held write => if write.key = key then write.row else held) none

@[simp]
theorem latest_concat (key : κ) (writes : List (Write κ ρ)) (write : Write κ ρ) :
    latest key (writes ++ [write]) =
      if write.key = key then write.row else latest key writes := by
  simp [latest]

variable {writes : List (Write κ ρ)}

/-- A row that is still the latest was written for that key. -/
theorem exists_of_latest {key : κ} {row : ρ} (found : latest key writes = some row) :
    ∃ write ∈ writes, write.key = key ∧ write.row = some row := by
  induction writes using List.reverseRecOn with
  | nil => cases found
  | append_singleton writes write ih =>
    rw [latest_concat] at found
    split at found
    · rename_i same
      exact ⟨write, by simp, same, found⟩
    · obtain ⟨earlier, member, facts⟩ := ih found
      exact ⟨earlier, List.mem_append_left _ member, facts⟩

variable (slot : κ → ι)

/-- File a write under the slot of its key. -/
def file (table : Table ι ρ) (write : Write κ ρ) : Table ι ρ :=
  match write.row with
  | some row => table.insert (slot write.key) row
  | none => table.erase (slot write.key)

omit [DecidableEq κ] in
theorem lookup_file (table : Table ι ρ) (write : Write κ ρ) (place : ι) :
    (file slot table write).lookup place =
      if place = slot write.key then write.row else table.lookup place := by
  unfold file
  cases write.row with
  | some row => exact Table.lookup_insert_eq table _ place row
  | none => exact Table.lookup_erase_eq table _ place

/-- No other key shares the slot of this one. -/
def Alone (key : κ) : Prop := ∀ other, slot other = slot key → other = key

/-- Every row written so far is for a key alone in its slot. -/
def AllAlone (writes : List (Write κ ρ)) : Prop :=
  ∀ write ∈ writes, write.row.isSome → Alone slot write.key

/-- The table answers the latest write of every key. -/
def Answers (writes : List (Write κ ρ)) : Prop :=
  ∀ key, (run (file slot) ∅ writes).lookup (slot key) = latest key writes

variable {slot}

omit [DecidableEq κ] [DecidableEq ι] in
theorem AllAlone.init {write : Write κ ρ} (alone : AllAlone slot (writes ++ [write])) :
    AllAlone slot writes :=
  fun earlier member => alone earlier (List.mem_append_left _ member)

omit [DecidableEq ι] in
/-- A key alone in its slot shares it with no key that has a latest row. -/
theorem eq_of_latest (alone : AllAlone slot writes) {key other : κ} {row : ρ}
    (found : latest key writes = some row) (shared : slot other = slot key) : other = key := by
  obtain ⟨write, member, rfl, written⟩ := exists_of_latest found
  exact alone write member (by simp [written]) other shared

omit [DecidableEq κ] in
theorem lookup_run_concat (writes : List (Write κ ρ)) (write : Write κ ρ) (key : κ) :
    (run (file slot) ∅ (writes ++ [write])).lookup (slot key) =
      if slot key = slot write.key then write.row
      else (run (file slot) ∅ writes).lookup (slot key) := by
  rw [run_append, run_cons, run_nil, lookup_file]

theorem answers_of_allAlone (alone : AllAlone slot writes) : Answers slot writes := by
  induction writes using List.reverseRecOn with
  | nil => exact fun key => rfl
  | append_singleton writes write ih =>
    intro key
    rw [lookup_run_concat, latest_concat, ih alone.init key]
    by_cases same : write.key = key
    · simp [same]
    · rw [if_neg same]
      split
      · rename_i shared
        -- A row under a shared slot belongs to a key alone in it, so neither
        -- the write nor the latest row of `key` can be one.
        cases written : write.row with
        | some row =>
          have last := alone write (by simp) (by simp [written])
          exact absurd (last key shared).symm same
        | none =>
          cases found : latest key writes with
          | none => rfl
          | some row => exact absurd (eq_of_latest alone.init found shared.symm) same
      · rfl

/-- The first row written for a key that shares its slot shows up under the
other key. -/
theorem alone_of_answers {write : Write κ ρ} (earlier : AllAlone slot writes)
    (answers : Answers slot (writes ++ [write])) (written : write.row.isSome) :
    Alone slot write.key := by
  intro other shared
  obtain ⟨row, some_row⟩ := Option.isSome_iff_exists.mp written
  by_contra different
  have answer := answers other
  rw [lookup_run_concat, if_pos shared, latest_concat, if_neg (Ne.symm different),
    some_row] at answer
  exact different (eq_of_latest earlier answer.symm shared.symm).symm

/-- The table answers the latest write after every write of a sequence exactly
when every key a row is written for is alone in its slot. -/
theorem answers_throughout_iff (writes : List (Write κ ρ)) :
    (∀ before, before <+: writes → Answers slot before) ↔ AllAlone slot writes := by
  constructor
  · intro answers
    induction writes using List.reverseRecOn with
    | nil => exact fun write member => absurd member List.not_mem_nil
    | append_singleton writes write ih =>
      have earlier := ih fun before part => answers before (part.trans (List.prefix_append _ _))
      have last := alone_of_answers earlier (answers _ (List.prefix_refl _))
      intro other member written
      rcases List.mem_append.mp member with member | member
      · exact earlier other member written
      · cases List.mem_singleton.mp member
        exact last written
  · intro alone before part
    exact answers_of_allAlone fun write member => alone write (part.subset member)

end Triton.Lib.Slots
