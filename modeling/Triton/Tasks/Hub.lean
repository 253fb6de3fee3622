/-
# The hub of live tasks

A process keeps one broadcast channel per running task under the task's id. A
channel outlives its entry: the runner and the subscribers hold on to it. Each
method below is one critical section of the source.
-/

import Triton.Tasks.Store

namespace Triton.Tasks

open Triton.Lib

/-- What a live task tells its subscribers. -/
inductive TaskEvent where
  | token (text : String)
  | async (upstreamTaskId : String) (checkAfterSeconds : Option Nat) (receipt note : Option String)
  | progress (progress : Progress)
  | done (result : Value)
  | failed (errorClass message : String)

def TaskEvent.isTerminal : TaskEvent → Bool
  | .done _ | .failed _ _ => true
  | .token _ | .async _ _ _ _ | .progress _ => false

/-- A subscription: the channel, and how much had been sent when it began. -/
structure Receiver where
  channel : Nat
  position : Nat
  deriving DecidableEq, Repr

/-- The entries of the running tasks, and what was sent on every channel ever
made. A sender is the number of its channel. -/
structure TaskHub where
  live : Table String Nat
  channels : List (List TaskEvent)

/-- A claim's answer: the task runs already, it is the caller's to run, or there
is nothing to run. -/
inductive Claim where
  | live (rx : Receiver)
  | claimed (rec : TaskRecord) (tx : Nat) (rx : Receiver)
  | finished

namespace TaskHub

def new : TaskHub := ⟨∅, []⟩

/-- Make a channel and enter it under the id. -/
def enter (hub : TaskHub) (id : String) : TaskHub × Nat × Receiver :=
  let tx := hub.channels.length
  (⟨hub.live.insert id tx, hub.channels ++ [[]]⟩, tx, ⟨tx, 0⟩)

/-- Register a task about to run; `none` when it is already running. -/
def openTask (hub : TaskHub) (id : String) : Option (TaskHub × Nat × Receiver) :=
  if id ∈ hub.live then none else some (hub.enter id)

/-- Follow a channel from here on. -/
def follow (hub : TaskHub) (tx : Nat) : Receiver := ⟨tx, (hub.channels.getD tx []).length⟩

/-- Subscribe to a live task, or claim a stored one that still runs. The store
is read in the same critical section. -/
def subscribeOrClaim (hub : TaskHub) (store : TaskStore) (now : Int) (id : String) :
    TaskHub × Claim :=
  match hub.live.lookup id with
  | some tx => (hub, .live (hub.follow tx))
  | none =>
    match store.get now id with
    | some rec =>
      if rec.state.isTerminal then (hub, .finished)
      else
        let (hub, tx, rx) := hub.enter id
        (hub, .claimed rec tx rx)
    | none => (hub, .finished)

def close (hub : TaskHub) (id : String) : TaskHub := { hub with live := hub.live.erase id }

def send (hub : TaskHub) (tx : Nat) (event : TaskEvent) : TaskHub :=
  { hub with channels := hub.channels.modify tx (· ++ [event]) }

/-- A claim that succeeds finds the task running in the store and nowhere
else. -/
theorem subscribeOrClaim_cases (hub : TaskHub) (store : TaskStore) (now : Int) (id : String) :
    (∃ rec, id ∉ hub.live ∧ store.get now id = some rec ∧ rec.state.isTerminal = false ∧
        hub.subscribeOrClaim store now id =
          ((hub.enter id).1, .claimed rec (hub.enter id).2.1 (hub.enter id).2.2)) ∨
      (hub.subscribeOrClaim store now id).1 = hub ∧
        ∀ rec tx rx, (hub.subscribeOrClaim store now id).2 ≠ .claimed rec tx rx := by
  unfold subscribeOrClaim
  cases entry : hub.live.lookup id with
  | some tx => exact .inr ⟨rfl, fun _ _ _ => by simp⟩
  | none =>
    cases found : store.get now id with
    | none => exact .inr ⟨rfl, fun _ _ _ => by simp⟩
    | some rec =>
      cases ended : rec.state.isTerminal with
      | true => exact .inr ⟨by simp [ended], fun _ _ _ => by simp [ended]⟩
      | false =>
        exact .inl ⟨rec, AList.lookup_eq_none.mp entry, rfl, ended, by simp [ended]⟩

/-! ### Channels -/

variable {hub after : TaskHub} {tx other : Nat}

/-- What was sent on a channel. -/
def sent (hub : TaskHub) (tx : Nat) : List TaskEvent := hub.channels.getD tx []

/-- Is there a sender left? The hub holds one as long as the entry is there. -/
def isOpen (hub : TaskHub) (tx : Nat) : Bool := decide (tx ∈ Table.values hub.live)

theorem isOpen_iff : hub.isOpen tx = true ↔ ∃ id, hub.live.lookup id = some tx := by
  rw [isOpen, decide_eq_true_iff, Table.mem_values_iff]

theorem isOpen_eq_false_iff : hub.isOpen tx = false ↔ ∀ id, hub.live.lookup id ≠ some tx := by
  rw [← Bool.not_eq_true, isOpen_iff, not_exists]

/-- At most the one channel is sent on, and none is made. -/
structure SendsOnly (hub after : TaskHub) (tx : Nat) : Prop where
  length : after.channels.length = hub.channels.length
  others : ∀ other, other ≠ tx → after.sent other = hub.sent other

theorem SendsOnly.of_eq (same : after.channels = hub.channels) : hub.SendsOnly after tx where
  length := by rw [same]
  others other _ := by rw [sent, sent, same]

theorem sendsOnly_send (event : TaskEvent) : hub.SendsOnly (hub.send tx event) tx where
  length := by simp [send]
  others other different := by
    simp [sent, send, List.getD_eq_getElem?_getD, Ne.symm different]

theorem sent_send (inside : tx < hub.channels.length) (event : TaskEvent) :
    (hub.send tx event).sent tx = hub.sent tx ++ [event] := by
  simp [sent, send, List.getD_eq_getElem?_getD, inside]

theorem sent_enter (inside : tx < hub.channels.length) (id : String) :
    (hub.enter id).1.sent tx = hub.sent tx := by
  simp [sent, enter, List.getD_eq_getElem?_getD, List.getElem?_append_left inside]

theorem sent_enter_new (id : String) : (hub.enter id).1.sent (hub.enter id).2.1 = [] := by
  simp [sent, enter, List.getD_eq_getElem?_getD]

theorem lookup_enter (id other : String) :
    (hub.enter id).1.live.lookup other =
      if other = id then some hub.channels.length else hub.live.lookup other :=
  Table.lookup_insert_eq _ _ _ _

theorem lookup_close (id other : String) :
    (hub.close id).live.lookup other = if other = id then none else hub.live.lookup other :=
  Table.lookup_erase_eq _ _ _

end TaskHub

end Triton.Tasks
