/-
# Lists of tasks

Both backends list the tasks of an owner, newest first and at most so many. The
memory backend filters all its records and cuts afterwards. The SQLite backend
lets the query cut, by the columns of its rows, and filters what is left.
-/

import Mathlib.Data.String.Basic
import Triton.Tasks.Store

namespace Triton.Tasks

open Triton.Lib

/-- Rows a list scans at most. -/
def listMax : Nat := 1000

/-- The order of a list: by creation, the newest first, then by id. -/
def precedes (a b : TaskRecord) : Bool :=
  decide (b.createdMs < a.createdMs ∨ (b.createdMs = a.createdMs ∧ b.id ≤ a.id))

def arrange (records : List TaskRecord) : List TaskRecord :=
  (records.mergeSort precedes).take listMax

def inContext (contextId : Option String) (rec : TaskRecord) : Bool :=
  contextId.all (· == rec.contextId)

def Memory.ownedBy (m : Memory) (owner : String) : List TaskRecord :=
  (Table.values m.rows).filter (·.owner = some owner)

/-- The rows an owner's query runs over. -/
def rowsOf (rows : Table String Row) (owner : String) : List Row :=
  (Table.values rows).filter (·.owner = some owner)

/-- The owner's tasks, newest first, optionally in one context. `select` is what
the database answers to the query, given the rows it runs over. -/
def TaskStore.list (s : TaskStore) (select : List Row → List Row) (now : Int) (owner : String)
    (contextId : Option String) : List TaskRecord :=
  let fetched :=
    match s.backend with
    | .memory m => m.ownedBy owner
    | .sqlite codec rows =>
      (select (rowsOf rows owner)).filterMap fun row : Row => codec.reread row.record
  arrange ((fetched.filter (s.live now)).filter (inContext contextId))

end Triton.Tasks
