/-
# Dispatch metrics

Every dispatch is counted under its tool, protocol and result. A caller chooses the
name of the tool before anything is known about it, so once there are too many
different names the others share one label. No dispatch is lost to this, and the names
that came first keep exact counts, whatever comes after them and in which order.
-/

import Mathlib.Data.Finset.Card
import Triton.Lib.EraseDups
import Triton.Lib.Run
import Triton.Lib.Table

namespace Triton.Core

open Triton.Lib

def maxDistinctToolLabels : ℕ := 256

def overflowLabel : String := "<overflow>"

structure DispatchKey where
  tool : String
  protocol : String
  result : String
  deriving DecidableEq, Repr

/-- The counters. The tool of a call is not always the label it is counted under. -/
structure Metrics where
  dispatch : Table DispatchKey ℕ

namespace Metrics

def new : Metrics := ⟨∅⟩

variable (m : Metrics)

def distinctTools : Finset String := (m.dispatch.keys.map DispatchKey.tool).toFinset

def label (tool : String) : String :=
  if maxDistinctToolLabels ≤ m.distinctTools.card ∧ tool ∉ m.distinctTools then overflowLabel
  else tool

def counter (key : DispatchKey) : ℕ := (m.dispatch.lookup key).getD 0

/-- Count one more. -/
def bump (key : DispatchKey) : Metrics := ⟨m.dispatch.insert key (m.counter key + 1)⟩

/-- Record one dispatch outcome. -/
def recordDispatch (call : DispatchKey) : Metrics :=
  m.bump { call with tool := m.label call.tool }

/-- The sum of all counters. -/
def total : ℕ := Table.total m.dispatch

end Metrics

/-- The names of the tools that were called, in the order in which they came up. -/
def toolNames (calls : List DispatchKey) : List String := (calls.map DispatchKey.tool).eraseDups

/-- The names that have a label of their own. -/
def ownLabels (calls : List DispatchKey) : List String :=
  (toolNames calls).take maxDistinctToolLabels

/-! ## Counters -/

namespace Metrics

variable {m : Metrics}

theorem total_bump (key : DispatchKey) : (m.bump key).total = m.total + 1 := by
  have sums : (m.bump key).total + m.counter key = m.counter key + 1 + m.total :=
    Table.total_insert m.dispatch key (m.counter key + 1)
  omega

theorem counter_bump (key other : DispatchKey) :
    (m.bump key).counter other = if other = key then m.counter other + 1 else m.counter other := by
  rw [counter, bump, Table.lookup_insert_eq]
  split
  case isTrue same => rw [same, Option.getD_some]
  case isFalse => rfl

theorem mem_distinctTools_bump {key : DispatchKey} {tool : String} :
    tool ∈ (m.bump key).distinctTools ↔ tool = key.tool ∨ tool ∈ m.distinctTools := by
  simp only [distinctTools, bump, AList.keys_insert, List.mem_toFinset, List.mem_map,
    List.mem_cons]
  constructor
  · rintro ⟨other, rfl | kept, rfl⟩
    · exact .inl rfl
    · exact .inr ⟨other, List.mem_of_mem_erase kept, rfl⟩
  · rintro (rfl | ⟨other, listed, rfl⟩)
    · exact ⟨key, .inl rfl, rfl⟩
    · by_cases same : other = key
      · exact ⟨key, .inl rfl, by rw [same]⟩
      · exact ⟨other, .inr ((List.mem_erase_of_ne same).mpr listed), rfl⟩

end Metrics

/-! ## Names -/

section Names

variable (calls : List DispatchKey) (call : DispatchKey)

theorem toolNames_concat :
    toolNames (calls ++ [call]) =
      if call.tool ∈ toolNames calls then toolNames calls else toolNames calls ++ [call.tool] := by
  rw [toolNames, List.map_append, ← eraseDups_eraseDups_append]
  exact (eraseDups_concat (nodup_eraseDups _) call.tool).trans (by simp [toolNames])

/-- How the name of a call arrives: it has a label, it gets one, or all labels are given
away. -/
inductive Arrives : Prop
  | known (labelled : call.tool ∈ ownLabels calls)
      (names : toolNames (calls ++ [call]) = toolNames calls)
      (labels : ownLabels (calls ++ [call]) = ownLabels calls)
  | fresh (unknown : call.tool ∉ toolNames calls)
      (room : (toolNames calls).length < maxDistinctToolLabels)
      (few : (toolNames (calls ++ [call])).length ≤ maxDistinctToolLabels)
      (labels : ownLabels (calls ++ [call]) = ownLabels calls ++ [call.tool])
  | late (unlabelled : call.tool ∉ ownLabels calls)
      (full : maxDistinctToolLabels ≤ (toolNames calls).length)
      (beyond : maxDistinctToolLabels < (toolNames (calls ++ [call])).length)
      (labels : ownLabels (calls ++ [call]) = ownLabels calls)

theorem arrives : Arrives calls call := by
  have concat := toolNames_concat calls call
  by_cases known : call.tool ∈ toolNames calls
  · rw [if_pos known] at concat
    have labels : ownLabels (calls ++ [call]) = ownLabels calls := by
      rw [ownLabels, concat, ownLabels]
    by_cases labelled : call.tool ∈ ownLabels calls
    · exact .known labelled concat labels
    · have beyond : maxDistinctToolLabels < (toolNames calls).length := by
        by_contra short
        exact labelled (by rwa [ownLabels, List.take_of_length_le (not_lt.mp short)])
      exact .late labelled beyond.le (by rwa [concat]) labels
  · rw [if_neg known] at concat
    have size := congrArg List.length concat
    rw [List.length_append, List.length_singleton] at size
    by_cases room : (toolNames calls).length < maxDistinctToolLabels
    · refine .fresh known room (by omega) ?_
      rw [ownLabels, List.take_of_length_le (by omega), concat, ownLabels,
        List.take_of_length_le room.le]
    · have full := not_lt.mp room
      refine .late (mt List.mem_of_mem_take known) full (by omega) ?_
      rw [ownLabels, concat, List.take_append_of_le_length full, ownLabels]

variable {calls}

theorem count_eq_zero_of_unknown {key : DispatchKey} (unknown : key.tool ∉ toolNames calls) :
    calls.count key = 0 := by
  apply List.count_eq_zero_of_not_mem
  intro called
  exact unknown (List.mem_eraseDups.mpr (List.mem_map_of_mem called))

end Names

/-! ## Every sequence of calls -/

namespace Metrics

/-- What the counters say about the calls so far. -/
structure Tells (m : Metrics) (calls : List DispatchKey) : Prop where
  labels : ∀ label, label ∈ m.distinctTools ↔
    label ∈ ownLabels calls ∨
      (maxDistinctToolLabels < (toolNames calls).length ∧ label = overflowLabel)
  total : m.total = calls.length
  counter : ∀ key, key.tool ≠ overflowLabel →
    m.counter key = if key.tool ∈ ownLabels calls then calls.count key else 0

variable {m : Metrics} {calls : List DispatchKey} {call : DispatchKey}

theorem Tells.new : Metrics.new.Tells [] where
  labels label := by simp [Metrics.new, distinctTools, ownLabels, toolNames, maxDistinctToolLabels]
  total := rfl
  counter key _ := by simp [Metrics.new, Metrics.counter]

/-- The map is full exactly when all labels are given away. -/
theorem Tells.full_iff (tells : m.Tells calls) :
    maxDistinctToolLabels ≤ m.distinctTools.card ↔
      maxDistinctToolLabels ≤ (toolNames calls).length := by
  have distinct : (ownLabels calls).Nodup := (nodup_eraseDups _).sublist (List.take_sublist _ _)
  have count := List.toFinset_card_of_nodup distinct
  rw [ownLabels, List.length_take, ← ownLabels] at count
  constructor
  · intro many
    by_contra few
    have same : m.distinctTools = (ownLabels calls).toFinset := by
      ext label
      rw [tells.labels, List.mem_toFinset]
      exact or_iff_left fun overflowed => few overflowed.1.le
    rw [same, count] at many
    omega
  · intro many
    have among : (ownLabels calls).toFinset ⊆ m.distinctTools := by
      intro label member
      exact (tells.labels label).mpr (.inl (List.mem_toFinset.mp member))
    have := Finset.card_le_card among
    omega

/-- A name with a label, or with one to get, is counted as it is. -/
theorem Tells.label_of_own (tells : m.Tells calls)
    (own : call.tool ∈ ownLabels calls ∨ (toolNames calls).length < maxDistinctToolLabels) :
    m.label call.tool = call.tool := by
  rw [label, if_neg]
  rintro ⟨full, unlisted⟩
  rcases own with labelled | room
  · exact unlisted ((tells.labels call.tool).mpr (.inl labelled))
  · exact not_le.mpr room (tells.full_iff.mp full)

/-- Any other name is counted under the overflow label, which may be the name itself. -/
theorem Tells.label_of_late (tells : m.Tells calls) (unlabelled : call.tool ∉ ownLabels calls)
    (full : maxDistinctToolLabels ≤ (toolNames calls).length) :
    m.label call.tool = overflowLabel := by
  rw [label]
  split
  case isTrue => rfl
  case isFalse kept =>
    have listed : call.tool ∈ m.distinctTools := by
      by_contra unlisted
      exact kept ⟨tells.full_iff.mpr full, unlisted⟩
    exact (((tells.labels call.tool).mp listed).resolve_left unlabelled).2

theorem Tells.counter_record (tells : m.Tells calls) {key : DispatchKey}
    (named : key.tool ≠ overflowLabel) :
    (m.recordDispatch call).counter key =
      if key.tool ∈ ownLabels (calls ++ [call]) then (calls ++ [call]).count key else 0 := by
  rw [recordDispatch, counter_bump, tells.counter key named, List.count_append,
    List.count_singleton]
  cases arrives calls call with
  | known labelled names labels =>
    rw [tells.label_of_own (.inl labelled), labels]
    by_cases equal : key = call
    · subst equal
      simp [labelled]
    · simp [equal, Ne.symm equal]
  | fresh unknown room few labels =>
    rw [tells.label_of_own (.inr room), labels]
    by_cases same : key.tool = call.tool
    · -- a name that has just come up has not been called before
      have new : key.tool ∉ toolNames calls := by rwa [same]
      have unlabelled : key.tool ∉ ownLabels calls := mt List.mem_of_mem_take new
      rw [if_neg unlabelled, count_eq_zero_of_unknown new, same]
      by_cases equal : key = call
      · simp [equal]
      · simp [equal, Ne.symm equal]
    · have other : key ≠ call := fun equal => same (by rw [equal])
      simp [other, Ne.symm other, same]
  | late unlabelled full beyond labels =>
    have differ : key ≠ { call with tool := overflowLabel } := fun equal => named (by rw [equal])
    rw [tells.label_of_late unlabelled full, labels, if_neg differ]
    by_cases mine : key.tool ∈ ownLabels calls
    · have other : key ≠ call := fun equal => unlabelled (equal ▸ mine)
      simp [mine, Ne.symm other]
    · rw [if_neg mine, if_neg mine]

theorem Tells.record (tells : m.Tells calls) (call : DispatchKey) :
    (m.recordDispatch call).Tells (calls ++ [call]) where
  labels label := by
    rw [recordDispatch, mem_distinctTools_bump, tells.labels]
    cases arrives calls call with
    | known labelled names labels =>
      rw [tells.label_of_own (.inl labelled), labels, names]
      grind
    | fresh unknown room few labels =>
      rw [tells.label_of_own (.inr room), labels, List.mem_append, List.mem_singleton]
      grind
    | late unlabelled full beyond labels =>
      rw [tells.label_of_late unlabelled full, labels]
      grind
  total := by
    rw [recordDispatch, total_bump, tells.total, List.length_append]
    rfl
  counter _ := tells.counter_record

theorem tells_run (calls : List DispatchKey) : (run recordDispatch .new calls).Tells calls := by
  induction calls using List.reverseRecOn with
  | nil => exact .new
  | append_singleton calls call ih =>
    rw [run_append]
    exact ih.record call

end Metrics

/-- The counters lose no call, there is one label more than allowed at most, and every
name among the first ones has exact counts. -/
theorem metrics_lose_nothing (calls : List DispatchKey) :
    (run Metrics.recordDispatch .new calls).total = calls.length ∧
      (run Metrics.recordDispatch .new calls).distinctTools.card ≤ maxDistinctToolLabels + 1 ∧
      ∀ key, key.tool ∈ ownLabels calls → key.tool ≠ overflowLabel →
        (run Metrics.recordDispatch .new calls).counter key = calls.count key := by
  have tells := Metrics.tells_run calls
  refine ⟨tells.total, ?_, fun key first named => by rw [tells.counter key named, if_pos first]⟩
  have among : (run Metrics.recordDispatch .new calls).distinctTools ⊆
      insert overflowLabel (ownLabels calls).toFinset := by
    intro label member
    rw [Finset.mem_insert, List.mem_toFinset]
    exact ((tells.labels label).mp member).symm.imp_left And.right
  calc
    _ ≤ (insert overflowLabel (ownLabels calls).toFinset).card := Finset.card_le_card among
    _ ≤ (ownLabels calls).toFinset.card + 1 := Finset.card_insert_le _ _
    _ ≤ (ownLabels calls).length + 1 := Nat.succ_le_succ (List.toFinset_card_le _)
    _ ≤ maxDistinctToolLabels + 1 := by
      rw [ownLabels, List.length_take]
      omega

end Triton.Core
