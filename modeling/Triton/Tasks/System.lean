/-
# Starting, resuming and running tasks

The processes of the task service: callers that start a task, readers that make
sure a stored task runs, and the runners both hand over to. They share the store
and the hub and take turns in any order; a turn holds at most one lock. A
restart ends every process and empties the hub, and keeps what the database
holds.

The hub entry of a task passes from hand to hand but is never held twice. From
this it follows that a task has one runner, and that whoever gives an entry up
has stored the task's end before.
-/

import Triton.Lib.Positions
import Triton.Tasks.Runner

namespace Triton.Tasks

open Triton.Lib Triton.Core

/-- The arguments of a start. -/
structure StartCall where
  record : TaskRecord
  start : Start
  principal : Principal
  protocol : String
  overrides : ContextOverrides
  persist : Persist

/-- The record as it is first stored. -/
def StartCall.prepared (call : StartCall) (now : Int) : TaskRecord :=
  { call.record with
    state := .working
    protocol := call.protocol
    tritonMeta :=
      if call.overrides.tritonMeta.isEmpty then call.record.tritonMeta
      else some call.overrides.tritonMeta
    updatedMs := now }

/-- A process between two turns. A `starting` one has opened the entry, a
`claiming` one has claimed it; `refusing` and `failing` are about to close it
after a failed first write and after failing the task. -/
inductive Process where
  | starting (call : StartCall) (tx : Nat)
  | refusing (id error : String)
  | claiming (record : TaskRecord) (principal : Principal) (tx : Nat)
  | failing (id : String)
  | running (run : Run)
  | ended

namespace Process

/-- The id whose entry the process holds. -/
def holds : Process → Option String
  | .starting call _ => some call.record.id
  | .refusing id _ => some id
  | .claiming record _ _ => some record.id
  | .failing id => some id
  | .running run => some run.record.id
  | .ended => none

/-- The channel is the one this process sends on. -/
def SendsOn (tx : Nat) : Process → Prop
  | .starting _ own | .claiming _ _ own => own = tx
  | .running run => run.tx = tx
  | .refusing _ _ | .failing _ | .ended => True

/-- The first write of a start, and the runner it spawns. -/
def begin (cfg : Runner) (w : Shared) (turn : Turn) (call : StartCall) (tx : Nat) :
    Shared × Process × List Happening :=
  let record := call.prepared turn.now
  let spawn := fun w : Shared =>
    Run.spawn cfg w turn.now record call.start call.principal call.overrides tx call.persist
  match call.persist with
  | .onAsync => (w, .running (spawn w), [])
  | .now =>
    match w.store.put turn.now turn.fault record with
    | (store, .error e) => ({ w with store := store }, .refusing record.id e, [])
    | (store, .ok ()) =>
      let w := { w with store := store }
      (w, .running (spawn w), [])

/-- What becomes of a claimed task: it is too old, or the call it belonged to is
gone, or its upstream task is resumed. -/
def settle (cfg : Runner) (w : Shared) (turn : Turn) (record : TaskRecord) (principal : Principal)
    (tx : Nat) : Shared × Process × List Happening :=
  let fail := fun errorClass message =>
    { w with store := (w.store.fail turn.now turn.fault record.id errorClass message).1 }
  if turn.now - record.createdMs > cfg.taskMaxMs then
    (fail classExpired expiredText, .failing record.id, [])
  else
    match record.upstreamTaskId with
    | none => (fail classInterrupted interruptedText, .failing record.id, [])
    | some upstream =>
      let principal := { principal with traceId := record.id }
      let overrides : ContextOverrides := { tritonMeta := record.tritonMeta.getD [] }
      (w, .running (Run.spawn cfg w turn.now record (.resume upstream) principal overrides tx
        .now), [])

/-- A turn of a runner; the last one drops its guard. -/
def drive (cfg : Runner) (w : Shared) (turn : Turn) (run : Run) :
    Shared × Process × List Happening :=
  match run.phase with
  | .closing => ({ w with hub := w.hub.close run.record.id }, .ended, [])
  | _ =>
    let (w, run, log) := run.move w cfg turn
    (w, .running run, log)

/-- One turn of a process. -/
def move (cfg : Runner) (w : Shared) (turn : Turn) : Process → Shared × Process × List Happening
  | .starting call tx => begin cfg w turn call tx
  | .refusing id error => ({ w with hub := w.hub.close id }, .ended, [.refused id error])
  | .claiming record principal tx => settle cfg w turn record principal tx
  | .failing id => ({ w with hub := w.hub.close id }, .ended, [])
  | .running run => drive cfg w turn run
  | .ended => (w, .ended, [])

/-- What a turn of a process can do. -/
inductive Moved (cfg : Runner) (w : Shared) (turn : Turn) :
    Process → Shared × Process × List Happening → Prop where
  | refuses (call : StartCall) (tx : Nat) (error : String)
      (failed : (w.store.put turn.now turn.fault (call.prepared turn.now)).2 = .error error) :
      Moved cfg w turn (.starting call tx)
        ({ w with store := (w.store.put turn.now turn.fault (call.prepared turn.now)).1 },
          .refusing call.record.id error, [])
  | spawns (call : StartCall) (tx : Nat) (shared : Shared)
      (stored : shared = w ∨
        shared = { w with
          store := (w.store.put turn.now turn.fault (call.prepared turn.now)).1 }) :
      Moved cfg w turn (.starting call tx)
        (shared,
          .running (Run.spawn cfg shared turn.now (call.prepared turn.now) call.start call.principal
            call.overrides tx call.persist), [])
  | refused (id error : String) :
      Moved cfg w turn (.refusing id error)
        ({ w with hub := w.hub.close id }, .ended, [.refused id error])
  | fails (record : TaskRecord) (principal : Principal) (tx : Nat) (errorClass message : String) :
      Moved cfg w turn (.claiming record principal tx)
        ({ w with store := (w.store.fail turn.now turn.fault record.id errorClass message).1 },
          .failing record.id, [])
  | resumes (record : TaskRecord) (principal caller : Principal) (tx : Nat) (upstream : String)
      (overrides : ContextOverrides) (stored : record.upstreamTaskId = some upstream)
      (files : overrides.clientFiles = none) :
      Moved cfg w turn (.claiming record principal tx)
        (w,
          .running (Run.spawn cfg w turn.now record (.resume upstream) caller overrides tx .now),
          [])
  | failed (id : String) :
      Moved cfg w turn (.failing id) ({ w with hub := w.hub.close id }, .ended, [])
  | closes (run : Run) (closing : run.phase = .closing) :
      Moved cfg w turn (.running run)
        ({ w with hub := w.hub.close run.record.id }, .ended, [])
  | runs (run : Run) (goes : run.phase ≠ .closing) :
      Moved cfg w turn (.running run)
        ((run.move w cfg turn).1, .running (run.move w cfg turn).2.1, (run.move w cfg turn).2.2)
  | ended : Moved cfg w turn .ended (w, .ended, [])

theorem moved (cfg : Runner) (w : Shared) (turn : Turn) (p : Process) :
    Moved cfg w turn p (p.move cfg w turn) := by
  cases p with
  | starting call tx =>
    simp only [move, begin]
    split
    · exact .spawns call tx w (.inl rfl)
    · split
      · rename_i store error put
        have stored : store = (w.store.put turn.now turn.fault (call.prepared turn.now)).1 := by
          rw [put]
        rw [stored]
        exact .refuses call tx error (by rw [put])
      · rename_i store put
        exact .spawns call tx _ (.inr (by rw [put]))
  | refusing id error => exact .refused id error
  | claiming record principal tx =>
    simp only [move, settle]
    split
    · exact .fails record principal tx _ _
    · split
      · exact .fails record principal tx _ _
      · exact .resumes record principal _ tx _ _ ‹_› rfl
  | failing id => exact .failed id
  | running run =>
    simp only [move, drive]
    split
    · exact .closes run ‹_›
    · exact .runs run ‹_›
  | ended => exact .ended

section Spec

variable {w : Shared} (cfg : Runner) (turn : Turn)

/-- What a turn of the holder of `id` may do: keep the entry or close it, send on its own
channel, and write the record of `id`. -/
structure Confined (w : Shared) (p : Process) (id : String)
    (after : Shared × Process × List Happening) : Prop where
  entry : (after.2.1.holds = some id ∧ after.1.hub.live = w.hub.live) ∨
    (after.2.1 = .ended ∧ after.1.hub.live = (w.hub.close id).live)
  sends : ∀ tx, p.SendsOn tx → after.2.1.SendsOn tx ∧ w.hub.SendsOnly after.1.hub tx
  writes : w.store.WritesOnly after.1.store id
  keyed : after.1.store.Keyed

theorem move_confined (keyed : w.store.Keyed) {p : Process} {id : String}
    (own : p.holds = some id) : Confined w p id (p.move cfg w turn) := by
  have moved := p.moved cfg w turn
  generalize p.move cfg w turn = after at moved ⊢
  cases moved with
  | refuses call =>
    cases own
    exact ⟨.inl ⟨rfl, rfl⟩, fun _ _ => ⟨trivial, .of_eq rfl⟩, w.store.put_writesOnly _ _ _,
      TaskStore.keyed_put keyed _ _ _⟩
  | spawns call _ _ stored =>
    cases own
    rcases stored with rfl | rfl
    · exact ⟨.inl ⟨rfl, rfl⟩, fun _ sends => ⟨sends, .of_eq rfl⟩, .refl, keyed⟩
    · exact ⟨.inl ⟨rfl, rfl⟩, fun _ sends => ⟨sends, .of_eq rfl⟩, w.store.put_writesOnly _ _ _,
        TaskStore.keyed_put keyed _ _ _⟩
  | fails =>
    cases own
    exact ⟨.inl ⟨rfl, rfl⟩, fun _ _ => ⟨trivial, .of_eq rfl⟩,
      TaskStore.updateRunning_writesOnly keyed fun _ => rfl, TaskStore.keyed_updateRunning keyed⟩
  | resumes =>
    cases own
    exact ⟨.inl ⟨rfl, rfl⟩, fun _ sends => ⟨sends, .of_eq rfl⟩, .refl, keyed⟩
  | refused | failed | closes =>
    cases own
    exact ⟨.inr ⟨rfl, rfl⟩, fun _ _ => ⟨trivial, .of_eq rfl⟩, .refl, keyed⟩
  | runs run =>
    cases own
    have keeps : run.Keeps w (run.move w cfg turn) := Run.move_keeps keyed cfg turn
    refine ⟨.inl ⟨congrArg (fun record : TaskRecord => some record.id) keeps.record, keeps.live⟩,
      ?_, keeps.writes, keeps.keyed⟩
    rintro _ ⟨⟩
    exact ⟨keeps.tx, keeps.sends⟩
  | ended => cases own

end Spec

end Process

/-- A database: how its rows keep a record, and for how long. -/
structure Database where
  codec : RowCodec
  retentionMs : Int

/-- The shared state, the processes of this lifetime, and the history of all
lifetimes. -/
structure System extends Shared where
  procs : List Process
  history : List Happening

/-- What may happen next. -/
inductive Label where
  | start (call : StartCall)
  | ensure (snapshot : TaskRecord) (principal : Principal) (now : Int)
  | move (index : Nat) (turn : Turn)
  | tick (ms : Nat)
  | restart (now : Int)

namespace System

/-- An empty store: process memory, or a database. -/
def emptyStore : Option Database → TaskStore
  | none => TaskStore.memory
  | some db => ⟨.sqlite db.codec ∅, db.retentionMs, 0⟩

def init (db : Option Database) : System where
  store := emptyStore db
  hub := TaskHub.new
  instant := 0
  procs := []
  history := []

/-- The store as a new process finds it. -/
def reopened (store : TaskStore) (now : Int) : TaskStore :=
  match store.backend with
  | .memory _ => TaskStore.memory
  | .sqlite codec rows => TaskStore.sqlite codec rows store.retentionMs now

/-- Open the entry of a task that is started; a task that is running already is
refused. -/
def startTask (s : System) (call : StartCall) : System :=
  match s.hub.openTask call.record.id with
  | none =>
    { s with history := s.history ++ [.refused call.record.id "the task is already running"] }
  | some (hub, tx, _) =>
    { s with
      hub := hub
      procs := s.procs ++ [.starting call tx]
      history :=
        s.history ++ [.started call.record.id call.record.upstreamTaskId call.start] }

/-- Follow or claim a task that a reader has seen running. -/
def ensureRunning (s : System) (snapshot : TaskRecord) (principal : Principal) (now : Int) :
    System :=
  if snapshot.state.isTerminal then s
  else
    match s.hub.subscribeOrClaim s.store now snapshot.id with
    | (hub, .claimed record tx _) =>
      { s with
        hub := hub
        procs := s.procs ++ [.claiming record principal tx]
        history := s.history ++ [.claimed record.id record.upstreamTaskId] }
    | (_, .live _) => s
    | (_, .finished) => s

def step (cfg : Runner) (s : System) : Label → System
  | .start call => s.startTask call
  | .ensure snapshot principal now => s.ensureRunning snapshot principal now
  | .move index turn =>
    match s.procs[index]? with
    | none => s
    | some p =>
      let (shared, p, log) := p.move cfg s.toShared turn
      { shared with procs := s.procs.set index p, history := s.history ++ log }
  | .tick ms => { s with instant := s.instant + ms }
  | .restart now =>
    { store := reopened s.store now
      hub := TaskHub.new
      instant := s.instant
      procs := []
      history := s.history ++ [.restarted] }

/-- What a step can do. -/
inductive Stepped (cfg : Runner) (s : System) : Label → System → Prop where
  | idle {label : Label} {after : System} (store : after.store = s.store) (hub : after.hub = s.hub)
      (procs : after.procs = s.procs)
      (history : after.history = s.history ∨ ∃ call error, label = .start call ∧
        after.history = s.history ++ [.refused call.record.id error]) :
      Stepped cfg s label after
  | opened (call : StartCall) (free : call.record.id ∉ s.hub.live) :
      Stepped cfg s (.start call)
        { s with
          hub := (s.hub.enter call.record.id).1
          procs := s.procs ++ [.starting call (s.hub.enter call.record.id).2.1]
          history :=
            s.history ++ [.started call.record.id call.record.upstreamTaskId call.start] }
  | claimed (snapshot : TaskRecord) (principal : Principal) (now : Int) (record : TaskRecord)
      (free : snapshot.id ∉ s.hub.live) (found : s.store.get now snapshot.id = some record)
      (running : record.state.isTerminal = false) :
      Stepped cfg s (.ensure snapshot principal now)
        { s with
          hub := (s.hub.enter snapshot.id).1
          procs := s.procs ++ [.claiming record principal (s.hub.enter snapshot.id).2.1]
          history := s.history ++ [.claimed record.id record.upstreamTaskId] }
  | moved (index : Nat) (turn : Turn) (p : Process) (found : s.procs[index]? = some p) :
      Stepped cfg s (.move index turn)
        { (p.move cfg s.toShared turn).1 with
          procs := s.procs.set index (p.move cfg s.toShared turn).2.1
          history := s.history ++ (p.move cfg s.toShared turn).2.2 }
  | restarted (now : Int) :
      Stepped cfg s (.restart now)
        { store := reopened s.store now
          hub := TaskHub.new
          instant := s.instant
          procs := []
          history := s.history ++ [.restarted] }

theorem stepped (cfg : Runner) (s : System) (label : Label) :
    Stepped cfg s label (s.step cfg label) := by
  cases label with
  | start call =>
    by_cases running : call.record.id ∈ s.hub.live
    · have same : s.step cfg (.start call) = { s with
          history := s.history ++ [.refused call.record.id "the task is already running"] } := by
        simp [step, startTask, TaskHub.openTask, running]
      rw [same]
      exact .idle rfl rfl rfl (.inr ⟨call, _, rfl, rfl⟩)
    · have entered : s.hub.openTask call.record.id = some (s.hub.enter call.record.id) := by
        simp [TaskHub.openTask, running]
      simp only [step, startTask, entered]
      exact .opened call running
  | ensure snapshot principal now =>
    simp only [step, ensureRunning]
    split
    · exact .idle rfl rfl rfl (.inl rfl)
    · rcases s.hub.subscribeOrClaim_cases s.store now snapshot.id with
        ⟨record, free, found, running, claim⟩ | ⟨_, unclaimed⟩
      · simp only [claim]
        exact .claimed snapshot principal now record free found running
      · split
        · rename_i claim
          exact absurd (congrArg Prod.snd claim) (unclaimed _ _ _)
        · exact .idle rfl rfl rfl (.inl rfl)
        · exact .idle rfl rfl rfl (.inl rfl)
  | move index turn =>
    cases found : s.procs[index]? with
    | none =>
      simp only [step, found]
      exact .idle rfl rfl rfl (.inl rfl)
    | some p =>
      simp only [step, found]
      exact .moved index turn p found
  | tick ms => exact .idle rfl rfl rfl (.inl rfl)
  | restart now => exact .restarted now

end System

end Triton.Tasks
