/-
# The writer of the Signal connection

One task keeps a connection to signald: it connects, puts the write half into a shared
slot, reads lines until the connection ends, empties the slot and connects again after
a pause. Sends take the write half out of the slot's lock one at a time. A send that
does not get its line out in time empties the slot, so that the next ones fail at
once; the task goes on reading.

A run is a list of moves of the task and of any number of sends. A move that is not
possible where it stands changes nothing.
-/

import Triton.Lib.Json
import Triton.Lib.Run
import Triton.Lib.Text

namespace Triton.Signal

open Triton.Lib

/-- Pauses in milliseconds. -/
def backoffInitial : ℕ := 500

def backoffMax : ℕ := 30000

inductive SignaldEvent where
  | line (value : Value)
  | connected

/-- Where the connect loop stands. Connections are numbered. -/
inductive Phase where
  | connecting
  /-- Waits for the lock with a new write half. -/
  | installing (conn : ℕ)
  /-- Tells the adapter about the connection. -/
  | announcing (conn : ℕ)
  /-- Waits for a line. -/
  | reading (conn : ℕ)
  /-- Hands a line to the adapter. -/
  | forwarding (conn : ℕ) (value : Value)
  /-- Waits for the lock after the end of the connection. -/
  | clearing
  | backingOff
  /-- Waits for the lock on the way out. -/
  | closing
  /-- Shuts the write half down, under the lock. -/
  | shuttingDown
  | stopped

/-- The connection of the read loop. -/
def Phase.readLoop : Phase → Option ℕ
  | .reading conn | .forwarding conn _ => some conn
  | _ => none

/-- Is a connection on its way? -/
def Phase.isConnecting : Phase → Bool
  | .connecting | .installing _ | .backingOff => true
  | _ => false

inductive SendResult where
  | sent
  | disconnected
  | io
  | timeout
  | encode
  deriving DecidableEq, Repr

inductive SendStage where
  | waiting
  | writing
  | finished (result : SendResult)
  deriving DecidableEq, Repr

inductive Holder where
  | connectLoop
  | send (i : ℕ)
  deriving DecidableEq, Repr

structure State where
  phase : Phase
  slot : Option ℕ
  lock : Option Holder
  sends : List SendStage
  connections : ℕ
  backoff : ℕ
  cancelled : Bool
  events : List SignaldEvent

/-- The task is spawned; the shutdown may have come before it. -/
def start (cancelled : Bool) : State where
  phase := if cancelled then .closing else .connecting
  slot := none
  lock := none
  sends := []
  connections := 0
  backoff := backoffInitial
  cancelled := cancelled
  events := []

inductive Move where
  /-- The connect attempt succeeds or fails. -/
  | connect (ok : Bool)
  /-- The loop gets the lock it waits for. -/
  | lock
  /-- The adapter takes the event, or is gone. -/
  | deliver (taken : Bool)
  | readLine (line : String)
  /-- End of file or a read error. -/
  | readEnd
  /-- The pause is over. -/
  | wake
  /-- The write half is shut down. -/
  | shutDown
  /-- Somebody asks for the shutdown. -/
  | cancel
  /-- The loop, waiting, sees that it was asked to stop. -/
  | notice
  /-- A send is called with a body that has a JSON form or has none. -/
  | call (encodes : Bool)
  /-- A send gets the lock. -/
  | enter (i : ℕ)
  /-- The write comes to an end in time. -/
  | write (i : ℕ) (ok : Bool)
  /-- It does not. -/
  | timeOut (i : ℕ)

namespace State

variable (s : State)

/-- A send gives the lock back. -/
def finish (i : ℕ) (result : SendResult) : State :=
  { s with lock := none, sends := s.sends.set i (.finished result) }

/-- What the loop does with the lock. -/
def locked : State :=
  match s.phase with
  | .installing conn => { s with slot := some conn, phase := .announcing conn }
  | .clearing => { s with slot := none, phase := .backingOff }
  | .closing =>
    match s.slot with
    | some _ => { s with slot := none, lock := some .connectLoop, phase := .shuttingDown }
    | none => { s with phase := .stopped }
  | _ => s

/-- A line that was read. Blank ones and those that are no JSON are skipped. -/
def lineRead (parse : String → Option Value) (conn : ℕ) (line : String) : State :=
  if (Text.trim line).isEmpty then s
  else
    match parse (Text.trim line) with
    | some value => { s with phase := .forwarding conn value }
    | none => s

def deliver (taken : Bool) : State :=
  match s.phase, taken with
  | .announcing conn, true =>
    { s with
      phase := .reading conn
      backoff := backoffInitial
      events := s.events ++ [.connected] }
  | .announcing _, false => { s with phase := .closing }
  | .forwarding conn value, true =>
    { s with phase := .reading conn, events := s.events ++ [.line value] }
  -- The task returns at once, and the slot stays as it is.
  | .forwarding _ _, false => { s with phase := .stopped }
  | _, _ => s

def step (parse : String → Option Value) (s : State) : Move → State
  | .connect ok =>
    match s.phase with
    | .connecting =>
      if ok then
        { s with phase := .installing s.connections, connections := s.connections + 1 }
      else { s with phase := .backingOff }
    | _ => s
  | .lock => if s.lock.isNone then s.locked else s
  | .deliver taken => s.deliver taken
  | .readLine line =>
    match s.phase with
    | .reading conn => s.lineRead parse conn line
    | _ => s
  | .readEnd =>
    match s.phase with
    | .reading _ => { s with phase := .clearing }
    | _ => s
  | .wake =>
    match s.phase with
    | .backingOff =>
      { s with
        phase := if s.cancelled then .closing else .connecting
        backoff := min (2 * s.backoff) backoffMax }
    | _ => s
  | .shutDown =>
    match s.phase with
    | .shuttingDown => { s with lock := none, phase := .stopped }
    | _ => s
  | .cancel => { s with cancelled := true }
  | .notice =>
    match s.phase, s.cancelled with
    | .connecting, true | .backingOff, true | .reading _, true => { s with phase := .closing }
    | _, _ => s
  | .call encodes =>
    { s with sends := s.sends ++ [if encodes then .waiting else .finished .encode] }
  | .enter i =>
    match s.sends[i]?, s.lock, s.slot with
    | some .waiting, none, some _ =>
      { s with lock := some (.send i), sends := s.sends.set i .writing }
    | some .waiting, none, none => s.finish i .disconnected
    | _, _, _ => s
  | .write i ok =>
    match s.sends[i]? with
    | some .writing => s.finish i (if ok then .sent else .io)
    | _ => s
  | .timeOut i =>
    match s.sends[i]? with
    | some .writing => { s.finish i .timeout with slot := none }
    | _ => s

end State

/-- In the read loop the slot holds the writer of the connection that is read, and
while there is no connection it is empty. -/
def SlotFollows (s : State) : Prop :=
  (∀ conn, s.phase.readLoop = some conn → s.slot = some conn) ∧
    (s.phase.isConnecting = true → s.slot = none)

/-- No send times out in the read loop, and a connection is announced before any send
has timed out on it. -/
def Timely (s : State) : Move → Prop
  | .timeOut i => s.sends[i]? = some .writing → s.phase.readLoop = none
  | .deliver true => ∀ conn, s.phase = .announcing conn → s.slot = some conn
  | _ => True

section Step

variable {s : State}

/-- Outside the read loop and with no connection on its way anything goes. -/
theorem slotFollows_of_elsewhere (noLoop : s.phase.readLoop = none)
    (notConnecting : s.phase.isConnecting = false) : SlotFollows s := by
  constructor
  · intro conn reads
    rw [noLoop] at reads
    cases reads
  · intro connecting
    rw [notConnecting] at connecting
    cases connecting

theorem slotFollows_of_empty (noLoop : s.phase.readLoop = none) (empty : s.slot = none) :
    SlotFollows s := by
  refine ⟨fun conn reads => ?_, fun _ => empty⟩
  rw [noLoop] at reads
  cases reads

theorem slotFollows_of_holds {conn : ℕ} (loop : s.phase.readLoop = some conn)
    (notConnecting : s.phase.isConnecting = false) (held : s.slot = some conn) :
    SlotFollows s := by
  constructor
  · intro other reads
    rw [loop] at reads
    cases reads
    exact held
  · intro connecting
    rw [notConnecting] at connecting
    cases connecting

theorem slotFollows_locked (follows : SlotFollows s) : SlotFollows s.locked := by
  rw [State.locked]
  split
  · exact slotFollows_of_elsewhere rfl rfl
  · exact slotFollows_of_empty rfl rfl
  · split
    · exact slotFollows_of_empty rfl rfl
    · exact slotFollows_of_elsewhere rfl rfl
  · exact follows

theorem slotFollows_deliver_iff (follows : SlotFollows s) (taken : Bool) :
    SlotFollows (s.deliver taken) ↔ Timely s (.deliver taken) := by
  cases phase : s.phase with
  | announcing conn =>
    cases taken with
    | true =>
      simp only [State.deliver, phase, Timely, Phase.announcing.injEq, forall_eq']
      constructor
      · intro next
        exact next.1 conn rfl
      · intro held
        exact slotFollows_of_holds rfl rfl held
    | false =>
      simp only [State.deliver, phase]
      exact iff_of_true (slotFollows_of_elsewhere rfl rfl) trivial
  | forwarding conn value =>
    have held : s.slot = some conn := follows.1 conn (congrArg Phase.readLoop phase)
    cases taken with
    | true =>
      simp only [State.deliver, phase, Timely]
      exact iff_of_true (slotFollows_of_holds rfl rfl held) (by simp)
    | false =>
      simp only [State.deliver, phase]
      exact iff_of_true (slotFollows_of_elsewhere rfl rfl) trivial
  | _ =>
    simp only [State.deliver, phase]
    refine iff_of_true follows ?_
    cases taken <;> simp [Timely, phase]

theorem slotFollows_timeOut_iff (i : ℕ) :
    SlotFollows { s.finish i .timeout with slot := none } ↔ s.phase.readLoop = none := by
  constructor
  · intro next
    cases loop : s.phase.readLoop with
    | none => rfl
    | some conn => cases next.1 conn loop
  · intro noLoop
    exact slotFollows_of_empty noLoop rfl

theorem slotFollows_step_iff (parse : String → Option Value) (s : State) (move : Move)
    (follows : SlotFollows s) : SlotFollows (s.step parse move) ↔ Timely s move := by
  cases move with
  | connect ok =>
    refine iff_of_true ?_ trivial
    simp only [State.step]
    split
    · rename_i connecting
      have empty : s.slot = none := follows.2 (congrArg Phase.isConnecting connecting)
      split <;> exact slotFollows_of_empty rfl empty
    · exact follows
  | lock =>
    refine iff_of_true ?_ trivial
    simp only [State.step]
    split
    · exact slotFollows_locked follows
    · exact follows
  | deliver taken => exact slotFollows_deliver_iff follows taken
  | readLine line =>
    refine iff_of_true ?_ trivial
    simp only [State.step]
    split
    · rename_i reading
      rw [State.lineRead]
      split
      · exact follows
      · split
        · exact slotFollows_of_holds rfl rfl (follows.1 _ (congrArg Phase.readLoop reading))
        · exact follows
    · exact follows
  | readEnd | shutDown =>
    refine iff_of_true ?_ trivial
    simp only [State.step]
    split
    · exact slotFollows_of_elsewhere rfl rfl
    · exact follows
  | wake =>
    refine iff_of_true ?_ trivial
    simp only [State.step]
    split
    · rename_i backingOff
      have empty : s.slot = none := follows.2 (congrArg Phase.isConnecting backingOff)
      split <;> exact slotFollows_of_empty rfl empty
    · exact follows
  | cancel | call encodes => exact iff_of_true follows trivial
  | notice =>
    refine iff_of_true ?_ trivial
    simp only [State.step]
    split
    · exact slotFollows_of_elsewhere rfl rfl
    · exact slotFollows_of_elsewhere rfl rfl
    · exact slotFollows_of_elsewhere rfl rfl
    · exact follows
  | enter i | write i ok =>
    refine iff_of_true ?_ trivial
    simp only [State.step]
    split <;> exact follows
  | timeOut i =>
    simp only [State.step, Timely]
    split
    · rename_i writing
      rw [slotFollows_timeOut_iff, writing]
      simp
    · rename_i notWriting
      exact iff_of_true follows fun writing => absurd writing notWriting

end Step

/-- The slot follows the connection along a run exactly when no send times out in the
read loop and no connection is announced after a send has timed out on it. -/
theorem slot_follows_connection_iff (parse : String → Option Value) (cancelled : Bool)
    (moves : List Move) :
    EveryState (State.step parse) SlotFollows (start cancelled) moves ↔
      EveryStep (State.step parse) Timely (start cancelled) moves := by
  refine everyState_iff_everyStep (slotFollows_step_iff parse) ?_
  cases cancelled <;> exact slotFollows_of_empty rfl rfl

/-- The connection is up, and one send does not get its line out in time. -/
def stalledSend : List Move :=
  [.connect true, .lock, .deliver true, .call true, .enter 0, .timeOut 0]

/-- The loop goes on reading the connection whose writer is gone: the next line still
arrives, and the next send finds nobody to write to. -/
theorem reader_outlives_writer :
    (run (State.step fun _ => none) (start false) stalledSend).phase = .reading 0 ∧
      (run (State.step fun _ => none) (start false) stalledSend).slot = none ∧
      (run (State.step fun _ => none) (start false)
        (stalledSend ++ [.readLine "pong", .call true, .enter 1])).sends[1]? =
          some (.finished .disconnected) ∧
      ¬ EveryState (State.step fun _ => none) SlotFollows (start false) stalledSend := by
  refine ⟨rfl, rfl, rfl, ?_⟩
  rintro ⟨_, _, _, _, _, _, last⟩
  cases last.1 0 rfl

end Triton.Signal
