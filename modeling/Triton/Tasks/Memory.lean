/-
# The in-memory task store

The memory backend keeps a map of records and a queue of their ids, and bounds
itself by evicting the oldest finished record when a new id arrives. The queue
should list exactly the keys of the map. It does as long as a full store that
takes in a new id still holds a finished record: the new id is queued before it
is in the map, and the victim rule takes a queued id without a row for one that
may be dropped.
-/

import Triton.Lib.Run
import Triton.Lib.Table
import Triton.Tasks.Record

namespace Triton.Tasks

open Triton.Lib

/-- In-memory store bound. -/
def memoryCapacity : Nat := 1024

structure Memory where
  rows : Table String TaskRecord
  order : List String

namespace Memory

def empty : Memory := ⟨∅, []⟩

def getRaw (m : Memory) (id : String) : Option TaskRecord := m.rows.lookup id

/-- May the eviction drop this id? A queued id without a row counts as one. -/
def droppable (m : Memory) (id : String) : Bool :=
  (m.rows.lookup id).all (·.state.isTerminal)

/-- The queue position the eviction takes: the first droppable id, else the
front. -/
def victim (m : Memory) : Nat := (m.order.findIdx? m.droppable).getD 0

/-- One turn of the eviction loop. -/
def evictOne (m : Memory) : Memory :=
  match m.order[m.victim]? with
  | some old => ⟨m.rows.erase old, m.order.eraseIdx m.victim⟩
  | none => m

theorem victim_lt (m : Memory) (nonempty : 0 < m.order.length) :
    m.victim < m.order.length := by
  unfold victim
  cases found : m.order.findIdx? m.droppable with
  | none => simpa using nonempty
  | some position =>
    obtain ⟨inside, _⟩ := List.findIdx?_eq_some_iff_getElem.mp found
    simpa using inside

theorem evictOne_order_length (m : Memory) (nonempty : 0 < m.order.length) :
    m.evictOne.order.length + 1 = m.order.length := by
  have inside := m.victim_lt nonempty
  unfold evictOne
  rw [List.getElem?_eq_getElem inside]
  simp only [List.length_eraseIdx, inside, if_true]
  omega

/-- The eviction loop of `put`. -/
def evict (m : Memory) : Memory :=
  if memoryCapacity < m.order.length then m.evictOne.evict else m
termination_by m.order.length
decreasing_by
  have := m.evictOne_order_length (by omega)
  omega

/-- Insert or replace a record. -/
def put (m : Memory) (rec : TaskRecord) : Memory :=
  let m :=
    if rec.id ∈ m.rows then m
    else evict { m with order := m.order ++ [rec.id] }
  { m with rows := m.rows.insert rec.id rec }

/-! ## The representation invariant -/

/-- The queue lists the keys of the map, each once, and the map is bounded. -/
structure WellFormed (m : Memory) : Prop where
  nodup : m.order.Nodup
  mem_iff : ∀ id, id ∈ m.order ↔ id ∈ m.rows
  bounded : m.rows.keys.length ≤ memoryCapacity

/-- A new id that arrives at a full store finds a finished record to take the
place of. -/
def HasVictim (m : Memory) (rec : TaskRecord) : Prop :=
  rec.id ∉ m.rows → memoryCapacity ≤ m.rows.keys.length →
    ∃ id row, m.getRaw id = some row ∧ row.state.isTerminal = true

theorem wellFormed_empty : empty.WellFormed where
  nodup := List.nodup_nil
  mem_iff id := by simp [empty]
  bounded := Nat.zero_le _

/-- The record just put is the one read back, whatever the store held. -/
@[simp]
theorem getRaw_put (m : Memory) (rec : TaskRecord) : (m.put rec).getRaw rec.id = some rec :=
  AList.lookup_insert _

/-- The eviction loop only drops records. -/
theorem getRaw_evict (m : Memory) (id : String) :
    m.evict.getRaw id = m.getRaw id ∨ m.evict.getRaw id = none := by
  induction m using evict.induct with
  | case1 m full ih =>
    rw [evict, if_pos full]
    rcases ih with kept | gone
    · rw [kept, evictOne]
      split
      · simp only [getRaw, Table.lookup_erase_eq]
        split
        · exact .inr rfl
        · exact .inl rfl
      · exact .inl rfl
    · exact .inr gone
  | case2 m room =>
    rw [evict, if_neg room]
    exact .inl rfl

theorem getRaw_put_ne (m : Memory) (rec : TaskRecord) {other : String}
    (different : other ≠ rec.id) :
    (m.put rec).getRaw other = m.getRaw other ∨ (m.put rec).getRaw other = none := by
  simp only [put, getRaw, AList.lookup_insert_ne different]
  split
  · exact .inl rfl
  · exact getRaw_evict { m with order := m.order ++ [rec.id] } other

variable {m : Memory} {rec : TaskRecord}

theorem WellFormed.order_length (wf : m.WellFormed) : m.order.length = m.rows.keys.length := by
  have same : m.order.Perm m.rows.keys :=
    (List.perm_ext_iff_of_nodup wf.nodup m.rows.nodupKeys).mpr fun id =>
      (wf.mem_iff id).trans AList.mem_keys
  exact same.length_eq

/-! ### The three ways a put can go -/

theorem put_of_mem (present : rec.id ∈ m.rows) :
    m.put rec = ⟨m.rows.insert rec.id rec, m.order⟩ := by
  simp [put, present]

theorem put_of_room (absent : rec.id ∉ m.rows) (room : m.order.length < memoryCapacity) :
    m.put rec = ⟨m.rows.insert rec.id rec, m.order ++ [rec.id]⟩ := by
  have fits : ¬ memoryCapacity < m.order.length + 1 := by omega
  simp only [put, absent, if_false]
  rw [evict]
  simp [fits]

/-- A new id at a full store turns the eviction loop exactly once. -/
theorem put_of_full (absent : rec.id ∉ m.rows) (full : m.order.length = memoryCapacity) :
    m.put rec =
      let evicted := evictOne { m with order := m.order ++ [rec.id] }
      ⟨evicted.rows.insert rec.id rec, evicted.order⟩ := by
  have length :=
    evictOne_order_length { m with order := m.order ++ [rec.id] } (by simp)
  simp only [List.length_append, List.length_singleton] at length
  simp only [put, absent, if_false]
  rw [evict, if_pos (by simp [full]), evict, if_neg (by omega)]

/-- The queued new id is droppable: it has no row yet. -/
theorem droppable_of_notMem {id : String} (absent : id ∉ m.rows) : m.droppable id = true := by
  simp [droppable, AList.lookup_eq_none.mpr absent]

/-- The victim is looked for in the old queue before the new id. -/
theorem victim_concat (m : Memory) (new : String) :
    victim { m with order := m.order ++ [new] } =
      ((m.order.findIdx? m.droppable).or
        (([new].findIdx? m.droppable).map (· + m.order.length))).getD 0 := by
  rw [victim, List.findIdx?_append]
  rfl

/-- With a finished record in the map the eviction of a full store removes a
key of the map, and the new id stays queued. -/
theorem evictOne_of_terminal {id : String} {row : TaskRecord} (wf : m.WellFormed) (new : String)
    (stored : m.getRaw id = some row) (finished : row.state.isTerminal = true) :
    ∃ position, ∃ inside : position < m.order.length,
      evictOne { m with order := m.order ++ [new] } =
        ⟨m.rows.erase (m.order.get ⟨position, inside⟩),
          m.order.eraseIdx position ++ [new]⟩ := by
  have queued : id ∈ m.order :=
    (wf.mem_iff id).mpr (AList.lookup_isSome.mp (by rw [getRaw] at stored; simp [stored]))
  have droppable : m.droppable id = true := by
    rw [getRaw] at stored
    simp [Memory.droppable, stored, finished]
  obtain ⟨position, found⟩ :
      ∃ position, m.order.findIdx? m.droppable = some position := by
    apply Option.isSome_iff_exists.mp
    rw [List.findIdx?_isSome]
    exact List.any_eq_true.mpr ⟨id, queued, droppable⟩
  obtain ⟨inside, _⟩ := List.findIdx?_eq_some_iff_getElem.mp found
  have victim : victim { m with order := m.order ++ [new] } = position := by
    rw [victim_concat, found]
    rfl
  refine ⟨position, inside, ?_⟩
  unfold evictOne
  rw [victim, List.getElem?_append_left inside, List.getElem?_eq_getElem inside]
  simp [List.eraseIdx_append_of_lt_length inside]

/-- With nothing but running records the eviction takes the new id itself out of
the queue, before it has a row. -/
theorem evictOne_of_running {new : String} (wf : m.WellFormed) (absent : new ∉ m.rows)
    (running : ∀ id row, m.getRaw id = some row → row.state.isTerminal = false) :
    evictOne { m with order := m.order ++ [new] } = m := by
  have none_found : m.order.findIdx? m.droppable = none := by
    rw [List.findIdx?_eq_none_iff]
    intro id queued
    obtain ⟨row, stored⟩ := Option.isSome_iff_exists.mp
      (AList.lookup_isSome.mpr ((wf.mem_iff id).mp queued))
    simp [droppable, stored, running id row stored]
  have victim : victim { m with order := m.order ++ [new] } = m.order.length := by
    rw [victim_concat, none_found]
    simp [List.findIdx?_cons, droppable_of_notMem absent]
  unfold evictOne
  rw [victim]
  have erased : m.rows.erase new = m.rows := by
    apply AList.ext
    exact List.kerase_of_notMem_keys fun mem => absent (AList.mem_keys.mpr mem)
  simp [erased, List.eraseIdx_append_of_length_le]

/-! ### Exactly when a put keeps the invariant -/

theorem put_wellFormed_of_mem (wf : m.WellFormed) (present : rec.id ∈ m.rows) :
    (m.put rec).WellFormed := by
  rw [put_of_mem present]
  refine ⟨wf.nodup, fun id => ?_, ?_⟩
  · rw [wf.mem_iff, AList.mem_insert]
    exact ⟨Or.inr, fun either => either.elim (fun same => same ▸ present) fun mem => mem⟩
  · rw [Table.length_keys_insert_of_mem present]
    exact wf.bounded

theorem put_wellFormed_of_room (wf : m.WellFormed) (absent : rec.id ∉ m.rows)
    (room : m.order.length < memoryCapacity) : (m.put rec).WellFormed := by
  rw [put_of_room absent room]
  have unqueued : rec.id ∉ m.order := fun queued => absent ((wf.mem_iff _).mp queued)
  refine ⟨by simpa using wf.nodup.concat unqueued, fun id => ?_, ?_⟩
  · rw [AList.mem_insert, List.mem_append, List.mem_singleton, wf.mem_iff, or_comm]
  · rw [Table.length_keys_insert_of_notMem absent, ← wf.order_length]
    exact room

theorem put_wellFormed_of_terminal {row : TaskRecord} {id : String} (wf : m.WellFormed)
    (absent : rec.id ∉ m.rows) (full : m.order.length = memoryCapacity)
    (stored : m.getRaw id = some row) (finished : row.state.isTerminal = true) :
    (m.put rec).WellFormed := by
  obtain ⟨position, inside, evicted⟩ := evictOne_of_terminal wf rec.id stored finished
  rw [put_of_full absent full, evicted]
  have unqueued : rec.id ∉ m.order := fun queued => absent ((wf.mem_iff _).mp queued)
  have kept : ∀ id, id ∈ m.order.eraseIdx position ↔
      id ≠ m.order.get ⟨position, inside⟩ ∧ id ∈ m.order := by
    intro id
    rw [← wf.nodup.erase_getElem position inside, wf.nodup.mem_erase_iff]
    rfl
  have absent' : rec.id ∉ m.rows.erase (m.order.get ⟨position, inside⟩) := fun mem =>
    absent (AList.mem_erase.mp mem).2
  refine ⟨?_, fun id => ?_, ?_⟩
  · have unqueued' : rec.id ∉ m.order.eraseIdx position := fun mem =>
      unqueued ((kept _).mp mem).2
    simpa using (wf.nodup.eraseIdx position).concat unqueued'
  · simp only [AList.mem_insert, AList.mem_erase, List.mem_append, List.mem_singleton, kept,
      wf.mem_iff]
    exact or_comm
  · have key : m.order.get ⟨position, inside⟩ ∈ m.rows.keys :=
      AList.mem_keys.mp ((wf.mem_iff _).mp (List.get_mem _ _))
    have positive := List.length_pos_of_mem key
    rw [Table.length_keys_insert_of_notMem absent', AList.keys_erase,
      List.length_erase_of_mem key]
    have := wf.bounded
    omega

/-- A full store of running records ends up with a row that no queue entry
names. -/
theorem not_put_wellFormed_of_running (wf : m.WellFormed) (absent : rec.id ∉ m.rows)
    (full : m.order.length = memoryCapacity)
    (running : ∀ id row, m.getRaw id = some row → row.state.isTerminal = false) :
    ¬ (m.put rec).WellFormed := by
  rw [put_of_full absent full, evictOne_of_running wf absent running]
  intro broken
  have queued : rec.id ∈ m.order := (broken.mem_iff rec.id).mpr (by simp)
  exact absent ((wf.mem_iff _).mp queued)

/-- From a well-formed store, a put keeps the invariant exactly when a full
store that takes in a new id holds a finished record. -/
theorem put_wellFormed_iff (wf : m.WellFormed) (rec : TaskRecord) :
    (m.put rec).WellFormed ↔ m.HasVictim rec := by
  by_cases present : rec.id ∈ m.rows
  · exact iff_of_true (put_wellFormed_of_mem wf present) fun absent => absurd present absent
  by_cases room : m.order.length < memoryCapacity
  · refine iff_of_true (put_wellFormed_of_room wf present room) fun _ full => ?_
    have := wf.order_length
    omega
  have full : m.order.length = memoryCapacity := by
    have := wf.bounded
    have := wf.order_length
    omega
  constructor
  · intro kept _ _
    by_contra running
    simp only [not_exists, not_and, Bool.not_eq_true] at running
    exact not_put_wellFormed_of_running wf present full running kept
  · intro victim
    obtain ⟨id, row, stored, finished⟩ := victim present (by rw [← wf.order_length, full])
    exact put_wellFormed_of_terminal wf present full stored finished

/-- Along any sequence of puts on an empty store, every put leaves the queue and
the map in step, within the bound, and readable at the new record, exactly when
no put of the sequence brings a new id to a full store of running tasks. -/
theorem put_run_wellFormed_iff (recs : List TaskRecord) :
    EveryStep put (fun m rec => (m.put rec).WellFormed ∧
        (m.put rec).getRaw rec.id = some rec) empty recs ↔
      EveryStep put HasVictim empty recs := by
  refine everyStep_congr_of_invariant (fun _ _ _ kept => kept.1) (fun m rec wf => ?_)
    wellFormed_empty
  rw [put_wellFormed_iff wf]
  exact and_iff_left (getRaw_put m rec)

/-- However the store evicts, a read finds the record put last under the id, or none. -/
theorem reads_latest_or_nothing (recs : List TaskRecord) (id : String) :
    (run put empty recs).getRaw id = none ∨
      (run put empty recs).getRaw id = recs.reverse.find? (·.id == id) := by
  induction recs using List.reverseRecOn with
  | nil => exact .inl rfl
  | append_singleton recs rec ih =>
    rw [run_append, run_cons, run_nil, List.reverse_concat, List.find?_cons]
    by_cases own : rec.id = id
    · subst own
      simp
    · simp only [beq_false_of_ne own]
      rcases getRaw_put_ne (run put empty recs) rec (Ne.symm own) with kept | dropped
      · exact kept ▸ ih
      · exact .inl dropped

/-! ### A full store of running tasks -/

/-- The running task number `i`; the ids differ in length. -/
def runningTask (i : Nat) : TaskRecord :=
  { TaskRecord.new 0 (String.ofList (List.replicate i 'a')) "context" "tool" none with
    state := .working }

def runningTasks (n : Nat) : List TaskRecord := (List.range n).map runningTask

theorem runningTask_id_inj {i j : Nat} (same : (runningTask i).id = (runningTask j).id) :
    i = j := by
  have chars := congrArg (fun s : String => s.toList.length) same
  simpa [runningTask, TaskRecord.new] using chars

theorem runningTasks_succ (n : Nat) :
    runningTasks (n + 1) = runningTasks n ++ [runningTask n] := by
  simp [runningTasks, List.range_succ]

theorem runningTask_id_notMem (n : Nat) :
    (runningTask n).id ∉ (runningTasks n).map TaskRecord.id := by
  simp only [runningTasks, List.map_map, List.mem_map, List.mem_range, not_exists, not_and]
  intro i small same
  exact absurd (runningTask_id_inj same) (by omega)

/-- Up to the bound, running tasks fill an empty store in arrival order. -/
theorem run_runningTasks (n : Nat) (fits : n ≤ memoryCapacity) :
    (run put empty (runningTasks n)).WellFormed ∧
      (run put empty (runningTasks n)).order = (runningTasks n).map TaskRecord.id ∧
      ∀ id row, (run put empty (runningTasks n)).getRaw id = some row →
        row.state.isTerminal = false := by
  induction n with
  | zero =>
    refine ⟨wellFormed_empty, rfl, fun id row stored => ?_⟩
    simp [runningTasks, getRaw, empty] at stored
  | succ n ih =>
    obtain ⟨wf, order, running⟩ := ih (by omega)
    have absent : (runningTask n).id ∉ (run put empty (runningTasks n)).rows := by
      rw [← wf.mem_iff, order]
      exact runningTask_id_notMem n
    have room : (run put empty (runningTasks n)).order.length < memoryCapacity := by
      rw [order]
      simp only [runningTasks, List.length_map, List.length_range]
      omega
    rw [runningTasks_succ, run_append, run_cons, run_nil]
    refine ⟨put_wellFormed_of_room wf absent room, ?_, fun id row stored => ?_⟩
    · rw [put_of_room absent room, order, List.map_append]
      rfl
    · rw [put_of_room absent room, getRaw] at stored
      by_cases same : id = (runningTask n).id
      · subst same
        rw [AList.lookup_insert, Option.some.injEq] at stored
        subst stored
        rfl
      · rw [AList.lookup_insert_ne same] at stored
        exact running id row stored

/-- One running task more than the store holds: the last put leaves its own row
without a queue entry. -/
theorem put_running_beyond_capacity :
    ¬ EveryStep put (fun m rec => (m.put rec).WellFormed ∧
        (m.put rec).getRaw rec.id = some rec) empty (runningTasks (memoryCapacity + 1)) := by
  obtain ⟨wf, order, running⟩ := run_runningTasks memoryCapacity le_rfl
  rw [runningTasks_succ, everyStep_append]
  rintro ⟨_, last, _⟩
  refine not_put_wellFormed_of_running wf ?_ ?_ running last.1
  · rw [← wf.mem_iff, order]
    exact runningTask_id_notMem memoryCapacity
  · rw [order]
    simp [runningTasks]

end Memory

end Triton.Tasks
