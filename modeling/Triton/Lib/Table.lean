/-
# Keyed tables

A finite map from keys to rows, as an association list without duplicate keys.
Mathlib supplies lookup, insertion and removal; this module adds what a change
of one row does to a lookup of any other, and the bulk removal of the rows that
fail a test.
-/

import Mathlib.Data.List.AList

namespace Triton.Lib

universe u v

/-- A finite map with rows of one type. -/
abbrev Table (κ : Type u) (ρ : Type v) := AList (fun _ : κ => ρ)

namespace Table

variable {κ : Type u} {ρ : Type v}

/-- Keep the rows that pass the test. -/
def keep (test : ρ → Bool) (table : Table κ ρ) : Table κ ρ :=
  ⟨table.entries.filter fun entry => test entry.2,
    table.nodupKeys.sublist List.filter_sublist⟩

/-- Change every row, keys untouched. -/
def mapRows (change : κ → ρ → ρ) (table : Table κ ρ) : Table κ ρ :=
  ⟨table.entries.map fun entry => ⟨entry.1, change entry.1 entry.2⟩, by
    simpa [List.NodupKeys, List.keys, Function.comp_def] using table.nodupKeys⟩

@[simp]
theorem keys_mapRows (change : κ → ρ → ρ) (table : Table κ ρ) :
    (mapRows change table).keys = table.keys := by
  simp [mapRows, AList.keys, List.keys]

/-- The rows, in the order of the table. -/
def values (table : Table κ ρ) : List ρ := table.entries.map (·.2)

variable [DecidableEq κ]

variable {table : Table κ ρ}

theorem mem_values_iff {row : ρ} : row ∈ values table ↔ ∃ key, table.lookup key = some row := by
  rw [values, List.mem_map]
  constructor
  · rintro ⟨⟨key, found⟩, member, rfl⟩
    exact ⟨key, AList.mem_lookup_iff.mpr member⟩
  · rintro ⟨key, found⟩
    exact ⟨⟨key, row⟩, AList.mem_lookup_iff.mp found, rfl⟩

theorem lookup_mapRows (change : κ → ρ → ρ) (table : Table κ ρ) (key : κ) :
    (mapRows change table).lookup key = (table.lookup key).map (change key) := by
  obtain ⟨entries, nodup⟩ := table
  show List.dlookup key (entries.map fun entry =>
      (⟨entry.1, change entry.1 entry.2⟩ : Sigma fun _ : κ => ρ)) =
    Option.map (change key) (List.dlookup key entries : Option ρ)
  clear nodup
  induction entries with
  | nil => rfl
  | cons entry rest ih =>
    obtain ⟨first, row⟩ := entry
    by_cases here : key = first
    · subst here
      simp
    · simp [List.dlookup_cons_ne, here, ih]

theorem length_keys_insert_of_mem {key : κ} (present : key ∈ table) (row : ρ) :
    (table.insert key row).keys.length = table.keys.length := by
  have listed : key ∈ table.keys := AList.mem_keys.mp present
  have positive := List.length_pos_of_mem listed
  rw [AList.keys_insert, List.length_cons, List.length_erase_of_mem listed]
  omega

theorem length_keys_insert_of_notMem {key : κ} (absent : key ∉ table) (row : ρ) :
    (table.insert key row).keys.length = table.keys.length + 1 := by
  have unlisted : key ∉ table.keys := fun listed => absent (AList.mem_keys.mpr listed)
  rw [AList.keys_insert, List.length_cons, List.erase_of_not_mem unlisted]

theorem length_keys_erase_of_mem {key : κ} (present : key ∈ table) :
    (table.erase key).keys.length + 1 = table.keys.length := by
  have listed : key ∈ table.keys := AList.mem_keys.mp present
  have positive := List.length_pos_of_mem listed
  rw [AList.keys_erase, List.length_erase_of_mem listed]
  omega

theorem lookup_insert_eq (table : Table κ ρ) (key other : κ) (row : ρ) :
    (table.insert key row).lookup other = if other = key then some row else table.lookup other := by
  by_cases same : other = key
  · rw [if_pos same, same, AList.lookup_insert]
  · rw [if_neg same, AList.lookup_insert_ne same]

theorem lookup_erase_eq (table : Table κ ρ) (key other : κ) :
    (table.erase key).lookup other = if other = key then none else table.lookup other := by
  by_cases same : other = key
  · rw [if_pos same, same, AList.lookup_erase]
  · rw [if_neg same, AList.lookup_erase_ne same]

/-- The sum of the counts of a table. -/
def total (table : Table κ ℕ) : ℕ := (values table).foldr (· + ·) 0

/-- A count that is written anew takes its old value out of the sum. -/
theorem total_insert (table : Table κ ℕ) (key : κ) (n : ℕ) :
    total (table.insert key n) + (table.lookup key).getD 0 = n + total table := by
  have written : total (table.insert key n) = n + total (table.erase key) := rfl
  rw [written, Nat.add_assoc]
  congr 1
  by_cases present : key ∈ table.keys
  · obtain ⟨old, before, after, _, entries, erased⟩ := List.exists_of_kerase present
    have found : table.lookup key = some old := by
      apply AList.mem_lookup_iff.mpr
      simp [entries]
    have left : (table.erase key).entries = before ++ after := erased
    rw [found, total, total, values, values, entries, left]
    clear * -
    induction before with
    | nil => exact Nat.add_comm _ _
    | cons first before ih =>
      simp only [List.cons_append, List.map_cons, List.foldr_cons] at ih ⊢
      omega
  · have missing : table.lookup key = none := AList.lookup_eq_none.mpr present
    have same : (table.erase key).entries = table.entries := List.kerase_of_notMem_keys present
    rw [missing, total, total, values, values, same]
    rfl

theorem lookup_keep (test : ρ → Bool) (table : Table κ ρ) (key : κ) :
    (keep test table).lookup key = (table.lookup key).filter test := by
  obtain ⟨entries, nodup⟩ := table
  ext row
  change row ∈ List.dlookup key (entries.filter fun entry => test entry.2) ↔
    row ∈ (List.dlookup key entries).filter test
  rw [List.mem_dlookup_iff (nodup.sublist List.filter_sublist), List.mem_filter,
    ← List.mem_dlookup_iff nodup]
  simp [Option.mem_def, Option.filter_eq_some_iff]

end Table

end Triton.Lib
