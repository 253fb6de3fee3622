/-
# Task records

A task is one inbound turn whose answer may take longer than a caller waits.
This module holds the record the store keeps for it and the small functions on
records that the store, the runner and the adapters share.
-/

import Triton.Lib.Json
import Triton.Lib.Text

namespace Triton.Tasks

open Triton.Lib

/-- Lifecycle of a task. -/
inductive TaskState where
  | submitted
  | working
  | completed
  | failed
  deriving DecidableEq, Repr

def TaskState.isTerminal : TaskState → Bool
  | .completed | .failed => true
  | .submitted | .working => false

/-- The latest progress an upstream reported; `percent` is a byte. -/
structure Progress where
  text : String
  step : Option String
  percent : Option UInt8
  deriving DecidableEq, Repr

/-- One task as stored. Times are milliseconds since the epoch. -/
structure TaskRecord where
  id : String
  contextId : String
  state : TaskState
  owner : Option String
  tool : String
  upstreamTaskId : Option String
  checkAfterSeconds : Option Nat
  progress : Option Progress
  receipt : Option String
  note : Option String
  resultText : Option String
  result : Option Value
  error : Option String
  errorClass : Option String
  protocol : String
  tritonMeta : Option Members
  delivery : Option Value
  createdMs : Int
  updatedMs : Int

def defaultProtocol : String := "a2a"

/-- The record of a turn that has just arrived at time `now`. -/
def TaskRecord.new (now : Int) (id contextId tool : String) (owner : Option String) :
    TaskRecord where
  id := id
  contextId := contextId
  state := .submitted
  owner := owner
  tool := tool
  upstreamTaskId := none
  checkAfterSeconds := none
  progress := none
  receipt := none
  note := none
  resultText := none
  result := none
  error := none
  errorClass := none
  protocol := defaultProtocol
  tritonMeta := none
  delivery := none
  createdMs := now
  updatedMs := now

/-- Cap on the stored reply text. -/
def resultTextMaxBytes : Nat := 32 * 1024

/-- Cap on the stored result document, serialized. -/
def resultJsonMaxBytes : Nat := 256 * 1024

/-- Cut a text to at most `max` bytes at a character boundary, marking the
cut. -/
def clamp (s : String) (max : Nat) : String :=
  if Text.len s ≤ max then s
  else String.ofList (Text.takeBytes max s.toList) ++ "…"

/-! ## Rows -/

/-- The same record up to the JSON documents in it. -/
def TaskRecord.Alike (a b : TaskRecord) : Prop :=
  a = { b with result := a.result, tritonMeta := a.tritonMeta, delivery := a.delivery }

theorem TaskRecord.Alike.fields {a b : TaskRecord} (alike : a.Alike b) :
    a.id = b.id ∧ a.state = b.state ∧ a.errorClass = b.errorClass ∧ a.updatedMs = b.updatedMs := by
  rw [Alike] at alike
  rw [alike]
  exact ⟨rfl, rfl, rfl, rfl⟩

/-- How a row of the database keeps a record: `reread` is what `serde_json` makes of the
text that it wrote for one. Texts, counts and times come back as they were. A document
may not: a `null` reads as absent, a number as one beside it, and nothing is read at all
of what nests deeper than the parser goes. -/
structure RowCodec where
  reread : TaskRecord → Option TaskRecord
  alike : ∀ rec back, reread rec = some back → back.Alike rec

/-- The record comes back as it was written. -/
def RowCodec.Keeps (codec : RowCodec) (rec : TaskRecord) : Prop := codec.reread rec = some rec

mutual

/-- How deep arrays and objects stand inside each other. -/
def nesting : Value → ℕ
  | .array items => nestingAll items + 1
  | .object members => nestingIn members + 1
  | _ => 0

def nestingAll : List Value → ℕ
  | [] => 0
  | item :: rest => max (nesting item) (nestingAll rest)

def nestingIn : Members → ℕ
  | [] => 0
  | (_, item) :: rest => max (nesting item) (nestingIn rest)

end

/-- Containers that the parser opens inside each other at most. -/
def parserDepth : ℕ := 127

/-- The documents of a record. -/
def TaskRecord.documents (rec : TaskRecord) : List Value :=
  rec.result.toList ++ rec.delivery.toList ++ (rec.tritonMeta.map .object).toList

/-- A parser of that depth that changes nothing of what it reads. The record is a container
itself. -/
def depthLimited : RowCodec where
  reread rec := if rec.documents.all (nesting · < parserDepth) then some rec else none
  alike rec back read := by
    obtain ⟨_, same⟩ := Option.ite_none_right_eq_some.mp read
    cases same
    rfl

/-- Arrays in arrays. -/
def nested : ℕ → Value
  | 0 => .bool true
  | n + 1 => .array [nested n]

end Triton.Tasks
