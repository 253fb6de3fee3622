/-
# The task store

One interface over two backends: process memory, bounded by count, and a SQLite
table, bounded by age. Each method is one critical section of the source. The
clock reading and the outcome of a database write are arguments, so a run of the
store ranges over every clock and every pattern of failed writes.
-/

import Triton.Tasks.Memory

namespace Triton.Tasks

open Triton.Lib

/-- A row of the SQLite table. The columns besides the record are what the
queries filter and sort by. -/
structure Row where
  owner : Option String
  contextId : String
  createdMs : Int
  updatedMs : Int
  record : TaskRecord

inductive Backend where
  | memory (m : Memory)
  | sqlite (codec : RowCodec) (rows : Table String Row)

/-- The store. `retentionMs` is the retention period in milliseconds; `writes`
counts the successful database writes. -/
structure TaskStore where
  backend : Backend
  retentionMs : Int
  writes : Nat

/-- Prune the SQLite store every this many writes. -/
def pruneEvery : Nat := 256

namespace TaskStore

/-- Process memory: bounded, restart-clean. -/
def memory : TaskStore := ⟨.memory Memory.empty, 86400 * 1000, 0⟩

/-- Drop the rows older than the retention period; the memory store is bounded
by count instead. -/
def prune (s : TaskStore) (now : Int) : TaskStore :=
  match s.backend with
  | .memory _ => s
  | .sqlite codec rows =>
    let kept := Table.keep (fun row => now - s.retentionMs ≤ row.updatedMs) rows
    { s with backend := .sqlite codec kept }

/-- Open the rows a file holds. -/
def sqlite (codec : RowCodec) (rows : Table String Row) (retentionMs now : Int) : TaskStore :=
  prune ⟨.sqlite codec rows, retentionMs, 0⟩ now

/-- A record past the retention period is gone, pruned or not. -/
def live (s : TaskStore) (now : Int) (rec : TaskRecord) : Bool :=
  now - s.retentionMs ≤ rec.updatedMs

def getRaw (s : TaskStore) (id : String) : Option TaskRecord :=
  match s.backend with
  | .memory m => m.getRaw id
  | .sqlite codec rows => (rows.lookup id).bind fun row => codec.reread row.record

def get (s : TaskStore) (now : Int) (id : String) : Option TaskRecord :=
  (s.getRaw id).filter (s.live now)

/-- The upsert of the SQLite backend: a conflict keeps the owner, the context and
the creation time of the row. -/
def upsert (rows : Table String Row) (rec : TaskRecord) : Table String Row :=
  rows.insert rec.id
    (match rows.lookup rec.id with
    | some row => { row with updatedMs := rec.updatedMs, record := rec }
    | none => ⟨rec.owner, rec.contextId, rec.createdMs, rec.updatedMs, rec⟩)

/-- Insert or replace a record. `fault` is the database error of a write that
fails. -/
def put (s : TaskStore) (now : Int) (fault : Option String) (rec : TaskRecord) :
    TaskStore × Except String Unit :=
  match s.backend with
  | .memory m => ({ s with backend := .memory (m.put rec) }, .ok ())
  | .sqlite codec rows =>
    match fault with
    | some e => (s, .error s!"task store write failed: {e}")
    | none =>
      let written :=
        { s with backend := .sqlite codec (upsert rows rec), writes := s.writes + 1 }
      (if s.writes % pruneEvery = pruneEvery - 1 then written.prune now else written, .ok ())

/-- Read, change and write one record. A failed write is only logged: the caller
gets the changed record either way. -/
def update (s : TaskStore) (now : Int) (fault : Option String) (id : String)
    (f : TaskRecord → TaskRecord) : TaskStore × Option TaskRecord :=
  match s.get now id with
  | none => (s, none)
  | some rec =>
    let changed := { f rec with updatedMs := now }
    ((s.put now fault changed).1, some changed)

/-- `update` that never touches a finished task. -/
def updateRunning (s : TaskStore) (now : Int) (fault : Option String) (id : String)
    (f : TaskRecord → TaskRecord) : TaskStore × Option TaskRecord :=
  match s.get now id with
  | none => (s, none)
  | some rec =>
    if rec.state.isTerminal then (s, none)
    else
      let changed := { f rec with updatedMs := now }
      ((s.put now fault changed).1, some changed)

/-! ## What a write leaves alone -/

/-- Every record is stored under its own id. -/
def Keyed (s : TaskStore) : Prop := ∀ id rec, s.getRaw id = some rec → rec.id = id

/-- From one store to the other, at most the record of `id` is written: any
other is as it was, or gone. -/
def WritesOnly (s after : TaskStore) (id : String) : Prop :=
  ∀ other, other ≠ id → after.getRaw other = s.getRaw other ∨ after.getRaw other = none

variable {s : TaskStore} {now : Int} {fault : Option String} {id : String}

theorem WritesOnly.refl : s.WritesOnly s id := fun _ _ => .inl rfl

theorem getRaw_prune (s : TaskStore) (now : Int) (id : String) :
    (s.prune now).getRaw id = s.getRaw id ∨ (s.prune now).getRaw id = none := by
  unfold prune
  split
  · exact .inl rfl
  · rename_i codec rows found
    simp only [getRaw, found, Table.lookup_keep]
    cases rows.lookup id with
    | none => exact .inl rfl
    | some row =>
      rw [Option.filter_some]
      split
      · exact .inl rfl
      · exact .inr rfl

/-- A database write that fails changes nothing; the memory store has no such
write. -/
theorem put_fault (s : TaskStore) (now : Int) (e : String) (rec : TaskRecord) :
    (s.put now (some e) rec).1 = s ∨ s.put now (some e) rec = s.put now none rec := by
  cases backend : s.backend with
  | memory m => exact .inr (by simp [put, backend])
  | sqlite codec rows => exact .inl (by simp [put, backend])

theorem put_ok (s : TaskStore) (now : Int) (rec : TaskRecord) :
    (s.put now none rec).2 = .ok () := by
  unfold put
  split <;> rfl

theorem lookup_upsert (rows : Table String Row) (rec : TaskRecord) (id : String) :
    (upsert rows rec).lookup id =
      if id = rec.id then
        some (match rows.lookup rec.id with
          | some row => { row with updatedMs := rec.updatedMs, record := rec }
          | none => ⟨rec.owner, rec.contextId, rec.createdMs, rec.updatedMs, rec⟩)
      else rows.lookup id :=
  Table.lookup_insert_eq _ _ _ _

theorem getRaw_upsert (codec : RowCodec) (rows : Table String Row) (rec : TaskRecord)
    (other : String) :
    (((upsert rows rec).lookup other).bind fun row => codec.reread row.record) =
      if other = rec.id then codec.reread rec
      else (rows.lookup other).bind fun row => codec.reread row.record := by
  rw [lookup_upsert]
  split
  · cases rows.lookup rec.id <;> rfl
  · rfl

/-- A write that succeeds stores the record, unless the store drops it at once or cannot
read it; nothing else is written. -/
theorem getRaw_put (s : TaskStore) (now : Int) (rec : TaskRecord) (other : String) :
    (s.put now none rec).1.getRaw other = none ∨
      if other = rec.id then
        ∃ stored, (s.put now none rec).1.getRaw other = some stored ∧ stored.Alike rec
      else (s.put now none rec).1.getRaw other = s.getRaw other := by
  cases backend : s.backend with
  | memory m =>
    have stored : (s.put now none rec).1.getRaw other = (m.put rec).getRaw other := by
      simp [put, backend, getRaw]
    have before : s.getRaw other = m.getRaw other := by simp [getRaw, backend]
    rw [stored, before]
    split
    · rename_i same
      rw [same, Memory.getRaw_put]
      exact .inr ⟨rec, rfl, rfl⟩
    · rename_i different
      rcases m.getRaw_put_ne rec different with kept | gone
      · exact .inr kept
      · exact .inl gone
  | sqlite codec rows =>
    have before : s.getRaw other =
        (rows.lookup other).bind fun row => codec.reread row.record := by
      simp [getRaw, backend]
    let written : TaskStore :=
      { s with backend := .sqlite codec (upsert rows rec), writes := s.writes + 1 }
    have read : written.getRaw other =
        if other = rec.id then codec.reread rec else s.getRaw other := by
      rw [before]
      exact getRaw_upsert codec rows rec other
    have kept : (s.put now none rec).1.getRaw other = written.getRaw other ∨
        (s.put now none rec).1.getRaw other = none := by
      simp only [put, backend]
      split
      · exact written.getRaw_prune now other
      · exact .inl rfl
    rcases kept with kept | gone
    · rw [kept, read]
      split
      · cases back : codec.reread rec with
        | none => exact .inl rfl
        | some stored => exact .inr ⟨stored, rfl, codec.alike rec stored back⟩
      · exact .inr rfl
    · exact .inl gone

theorem put_writesOnly (s : TaskStore) (now : Int) (fault : Option String) (rec : TaskRecord) :
    s.WritesOnly (s.put now fault rec).1 rec.id := by
  have succeeds : s.WritesOnly (s.put now none rec).1 rec.id := by
    intro other different
    rcases s.getRaw_put now rec other with gone | written
    · exact .inr gone
    · rw [if_neg different] at written
      exact .inl written
  cases fault with
  | none => exact succeeds
  | some e =>
    rcases s.put_fault now e rec with unchanged | same
    · rw [unchanged]
      exact .refl
    · rw [same]
      exact succeeds

theorem alike_of_getRaw_put {rec stored : TaskRecord}
    (found : (s.put now none rec).1.getRaw rec.id = some stored) : stored.Alike rec := by
  rcases s.getRaw_put now rec rec.id with gone | written
  · rw [gone] at found
    cases found
  · rw [if_pos rfl] at written
    obtain ⟨again, read, alike⟩ := written
    cases found.symm.trans read
    exact alike

theorem keyed_put (keyed : s.Keyed) (now : Int) (fault : Option String) (rec : TaskRecord) :
    (s.put now fault rec).1.Keyed := by
  have succeeds : (s.put now none rec).1.Keyed := by
    intro id stored found
    by_cases same : id = rec.id
    · subst same
      exact (alike_of_getRaw_put found).fields.1
    · rcases s.put_writesOnly now none rec id same with kept | gone
      · exact keyed id stored (kept ▸ found)
      · rw [gone] at found
        cases found
  cases fault with
  | none => exact succeeds
  | some e =>
    rcases s.put_fault now e rec with unchanged | same
    · rwa [unchanged]
    · rwa [same]

/-- A record is changed only while it runs, and written under its own id. -/
theorem updateRunning_cases (s : TaskStore) (now : Int) (fault : Option String) (id : String)
    (f : TaskRecord → TaskRecord) :
    ((s.updateRunning now fault id f).1 = s ∧
        ∀ rec, s.get now id = some rec → rec.state.isTerminal = true) ∨
      ∃ rec, s.get now id = some rec ∧ rec.state.isTerminal = false ∧
        (s.updateRunning now fault id f).1 =
          (s.put now fault { f rec with updatedMs := now }).1 := by
  unfold updateRunning
  cases found : s.get now id with
  | none => exact .inl ⟨rfl, fun _ absurd => by cases absurd⟩
  | some rec =>
    cases ended : rec.state.isTerminal with
    | true =>
      refine .inl ⟨by simp [ended], fun again same => ?_⟩
      cases same
      exact ended
    | false => exact .inr ⟨rec, rfl, ended, by simp [ended]⟩

theorem keyed_prune (keyed : s.Keyed) (now : Int) : (s.prune now).Keyed := by
  intro id rec found
  rcases s.getRaw_prune now id with kept | gone
  · exact keyed id rec (kept ▸ found)
  · rw [gone] at found
    cases found

theorem getRaw_of_get {rec : TaskRecord} (found : s.get now id = some rec) :
    s.getRaw id = some rec :=
  (Option.filter_eq_some_iff.mp found).1

section UpdateRunning

variable {f : TaskRecord → TaskRecord}

theorem updateRunning_writesOnly (keyed : s.Keyed) (sameId : ∀ rec, (f rec).id = rec.id) :
    s.WritesOnly (s.updateRunning now fault id f).1 id := by
  rcases s.updateRunning_cases now fault id f with ⟨unchanged, _⟩ | ⟨rec, found, _, written⟩
  · rw [unchanged]
    exact .refl
  · have own : (f rec).id = id := (sameId rec).trans (keyed id rec (getRaw_of_get found))
    rw [written]
    have only := s.put_writesOnly now fault { f rec with updatedMs := now }
    rwa [show ({ f rec with updatedMs := now } : TaskRecord).id = id from own] at only

theorem keyed_updateRunning (keyed : s.Keyed) :
    (s.updateRunning now fault id f).1.Keyed := by
  rcases s.updateRunning_cases now fault id f with ⟨unchanged, _⟩ | ⟨rec, _, _, written⟩
  · rwa [unchanged]
  · rw [written]
    exact keyed_put keyed now fault _

/-- What comes of a change that the store shows the record to and takes: the record
where it has ended, else the changed one. -/
theorem of_getRaw_updateRunning (keyed : s.Keyed) (sameId : ∀ rec, (f rec).id = rec.id)
    (shown : s.get now id = s.getRaw id) {stored : TaskRecord}
    (found : (s.updateRunning now none id f).1.getRaw id = some stored) :
    (s.getRaw id = some stored ∧ stored.state.isTerminal = true) ∨
      ∃ rec, s.getRaw id = some rec ∧ stored.state = (f rec).state ∧
        stored.errorClass = (f rec).errorClass := by
  rcases s.updateRunning_cases now none id f with ⟨unchanged, ended⟩ | ⟨rec, read, _, written⟩
  · rw [unchanged] at found
    exact .inl ⟨found, ended stored (shown.trans found)⟩
  · have own : (f rec).id = id := (sameId rec).trans (keyed id rec (getRaw_of_get read))
    rw [written, ← own] at found
    have kept : stored.Alike { f rec with updatedMs := now } := alike_of_getRaw_put found
    exact .inr ⟨rec, getRaw_of_get read, kept.fields.2.1, kept.fields.2.2.1⟩

end UpdateRunning

end TaskStore

end Triton.Tasks
