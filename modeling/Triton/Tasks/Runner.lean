/-
# The task runner

One runner drives one task: it opens the upstream, follows the stream, goes back
to the upstream task when the stream breaks, and stores how it ended. Here it is
a state machine whose phases are the points between two critical sections of the
source. What the upstream, the clocks and the database do is the input of a
turn.
-/

import Triton.Core.Principal
import Triton.Core.Stream
import Triton.Core.Surface
import Triton.Tasks.Hub

namespace Triton.Tasks

open Triton.Lib Triton.Core

/-- When a task's record is first written: at once, or only when the upstream
goes asynchronous. -/
inductive Persist where
  | now
  | onAsync
  deriving DecidableEq, Repr

/-- How the next contact is made: a new dispatch, or a resume of an upstream
task. -/
inductive Start where
  | dispatch (args : Value)
  | resume (upstream : String)

/-- A call of the dispatcher. -/
inductive Contact where
  | dispatch (tool : String) (args : Value) (principal : Principal) (protocol : String)
      (overrides : ContextOverrides)
  | resume (tool upstream : String) (principal : Principal) (protocol : String)
      (overrides : ContextOverrides)

/-- The parts of the runner's configuration a run reads: the longest a task may
run, how a result is rendered as text, and how long a result is as a JSON
document. -/
structure Runner where
  taskMaxMs : Nat
  render : Value → String
  jsonLen : Value → Option Nat

/-- The first pause between two contacts, in milliseconds. -/
def resumeBackoffMs : Nat := 250

/-- The longest pause. -/
def resumeBackoffMaxMs : Nat := 8000

/-- The failure text of a task that ran past its deadline. -/
def expiredText : String := "the task expired before the agent finished"

def classExpired : String := "expired"

def classInterrupted : String := "interrupted"

def classAgent : String := "agent"

def interruptedText : String :=
  "the task was interrupted by a gateway restart; send the request again"

/-! ## Reading an upstream's events -/

/-- What an upstream says when it goes asynchronous. -/
structure Filed where
  upstreamTaskId : String
  checkAfterSeconds : Option Nat
  receipt : Option String
  note : Option String

/-- A member that is a non-blank string, trimmed. -/
def trimmedMember (v : Value) (key : String) : Option String :=
  (((v.get key).bind Value.asStr).map Text.trim).filter (!·.isEmpty)

/-- A `task` event counts only with an id of at most 200 bytes. -/
def readTask (v : Value) : Option Filed :=
  ((trimmedMember v "task_id").filter (Text.len · ≤ 200)).map fun up =>
    { upstreamTaskId := up
      checkAfterSeconds := (v.get "check_after_seconds").bind Value.asU64
      receipt := (trimmedMember v "receipt").map (clamp · 2048)
      note := (trimmedMember v "note").map (clamp · 512) }

/-- A `progress` event counts only with a text. -/
def readProgress (v : Value) : Option Progress :=
  (trimmedMember v "text").map fun text =>
    { text := clamp text 2048
      step := ((v.get "step").bind Value.asStr).map (clamp · 128)
      percent := ((v.get "percent").bind Value.asU64).map fun p => UInt8.ofNat (min p 100) }

/-- The stream errors after which an upstream task is resumed. -/
def isResumable (detail : Option String) : Bool :=
  detail ∈ [some "upstream_stream_transport", some "upstream_stream_idle_timeout",
    some "upstream_stream_max_duration"]

/-! ## The runner's state -/

/-- How a run ends: with a result, or with an error class and message. -/
abbrev Outcome := Except (String × String) Value

/-- Where a runner stands. `telling` and `announcing` come between a store write
and its broadcast, `closing` before the guard drops. -/
inductive Phase where
  | opening
  | awaiting
  | streaming
  | telling (event : TaskEvent)
  | sleeping (upstream : String) (wakeAt : Nat)
  | storing (outcome : Outcome)
  | announcing (outcome : Outcome)
  | closing

/-- Has the run's end been stored? -/
def Phase.isOver : Phase → Bool
  | .announcing _ | .closing => true
  | _ => false

/-- The variables of a run. Deadline and pauses are milliseconds of the
monotonic clock. A record that waits for its first write is the run's own. -/
structure Run where
  record : TaskRecord
  start : Start
  principal : Principal
  overrides : ContextOverrides
  tx : Nat
  pending : Option TaskRecord
  pending_eq : ∀ first, pending = some first → first = record
  upstreamTaskId : Option String
  deadline : Nat
  backoff : Nat
  phase : Phase

/-- What the processes share. -/
structure Shared where
  store : TaskStore
  hub : TaskHub
  instant : Nat

/-- What a process waits for. -/
inductive Input where
  | proceed
  | opened (result : Except TritonError Unit)
  | event (event : StreamEvent)
  | ended
  | expired

/-- One turn of a process: the wall clock and the database as it finds them, and
what it waited for. -/
structure Turn where
  now : Int
  fault : Option String
  input : Input

/-- What can be seen of the processes from outside, by task. -/
inductive Happening where
  | started (id : String) (upstreamTaskId : Option String) (start : Start)
  | refused (id : String) (error : String)
  | claimed (id : String) (upstreamTaskId : Option String)
  | contacted (id : String) (contact : Contact)
  | accepted (id : String) (upstreamTaskId : String)
  | restarted

/-- Fail a task that is still running; a finished one is left alone. -/
def TaskStore.fail (store : TaskStore) (now : Int) (fault : Option String) (id : String)
    (errorClass message : String) : TaskStore × Option TaskRecord :=
  store.updateRunning now fault id fun r =>
    { r with
      state := .failed
      errorClass := some errorClass
      error := some (clamp message resultTextMaxBytes) }

/-- Store how a run has ended. -/
def TaskStore.finish (cfg : Runner) (store : TaskStore) (now : Int) (fault : Option String)
    (id : String) : Outcome → TaskStore
  | .ok value =>
    (store.updateRunning now fault id fun r =>
      { r with
        state := .completed
        resultText := some (clamp (cfg.render value) resultTextMaxBytes)
        result :=
          if (cfg.jsonLen value).any (· ≤ resultJsonMaxBytes) then some value else none }).1
  | .error (errorClass, message) => (store.fail now fault id errorClass message).1

theorem TaskStore.finish_cases (cfg : Runner) (store : TaskStore) (now : Int)
    (fault : Option String) (id : String) (outcome : Outcome) :
    ∃ f : TaskRecord → TaskRecord,
      store.finish cfg now fault id outcome = (store.updateRunning now fault id f).1 ∧
        (∀ rec, (f rec).id = rec.id) ∧ ∀ rec, (f rec).state.isTerminal = true := by
  cases outcome with
  | ok value | error reason => exact ⟨_, rfl, fun _ => rfl, fun _ => rfl⟩

/-- Once an end is stored, the store holds no running record of the task. -/
theorem TaskStore.terminal_of_finish {cfg : Runner} {store : TaskStore} {now : Int} {id : String}
    (keyed : store.Keyed) (shown : store.get now id = store.getRaw id) {outcome : Outcome}
    {stored : TaskRecord} (found : (store.finish cfg now none id outcome).getRaw id = some stored) :
    stored.state.isTerminal = true := by
  obtain ⟨f, same, sameId, ends⟩ := TaskStore.finish_cases cfg store now none id outcome
  rw [same] at found
  rcases TaskStore.of_getRaw_updateRunning keyed sameId shown found with
    ⟨_, ended⟩ | ⟨rec, _, state, _⟩
  · exact ended
  · rw [state]
    exact ends rec

/-- What the subscribers are told at the end. -/
def Outcome.event : Outcome → TaskEvent
  | .ok value => .done value
  | .error (errorClass, message) => .failed errorClass message

namespace Run

/-- A run as it is spawned. -/
def spawn (cfg : Runner) (w : Shared) (now : Int) (record : TaskRecord) (start : Start)
    (principal : Principal) (overrides : ContextOverrides) (tx : Nat) (persist : Persist) :
    Run where
  record := record
  start := start
  principal := principal
  overrides := overrides
  tx := tx
  pending := if persist = .onAsync then some record else none
  pending_eq := by
    intro first waiting
    split at waiting
    · exact (Option.some.inj waiting).symm
    · cases waiting
  upstreamTaskId := record.upstreamTaskId
  deadline := w.instant + (cfg.taskMaxMs - (now - record.createdMs).toNat)
  backoff := resumeBackoffMs
  phase := .opening

variable (r : Run) (w : Shared)

/-- The call an opening run makes. -/
def contact : Contact :=
  match r.start with
  | .dispatch args => .dispatch r.record.tool args r.principal r.record.protocol r.overrides
  | .resume upstream => .resume r.record.tool upstream r.principal r.record.protocol r.overrides

def expire : Run := { r with phase := .storing (.error (classExpired, expiredText)) }

/-- The stream ended without a terminal event, or did not open. -/
def breakOff (errorClass broken : String) : Run :=
  match r.upstreamTaskId with
  | none => { r with phase := .storing (.error (errorClass, broken)) }
  | some up =>
    if r.deadline ≤ w.instant + r.backoff then
      { r with
        phase := .storing (.error ("tool", "the agent's task did not finish: " ++ broken)) }
    else { r with phase := .sleeping up (w.instant + r.backoff) }

/-- Store that the upstream went asynchronous: the first write of a record that
waited for it, else a change of the stored one. -/
def storeFiled (now : Int) (fault : Option String) (filed : Filed) : TaskStore :=
  match r.pending with
  | some first =>
    (w.store.put now fault
      { first with
        upstreamTaskId := some filed.upstreamTaskId
        checkAfterSeconds := filed.checkAfterSeconds
        receipt := filed.receipt
        note := filed.note
        updatedMs := now }).1
  | none =>
    (w.store.updateRunning now fault r.record.id fun stored =>
      { stored with
        upstreamTaskId := some filed.upstreamTaskId
        checkAfterSeconds := filed.checkAfterSeconds
        receipt := filed.receipt.or stored.receipt
        note := filed.note.or stored.note }).1

/-- An event of the stream. -/
def receive (now : Int) (fault : Option String) : StreamEvent → Shared × Run × List Happening
  | .token text => ({ w with hub := w.hub.send r.tx (.token text) }, r, [])
  | .task payload =>
    match readTask payload with
    | none => (w, r, [])
    | some filed =>
      ({ w with store := r.storeFiled w now fault filed },
        { r with
          upstreamTaskId := some filed.upstreamTaskId
          backoff := resumeBackoffMs
          pending := none
          pending_eq := fun _ none_waits => by cases none_waits
          phase := .telling (.async filed.upstreamTaskId filed.checkAfterSeconds filed.receipt
            filed.note) },
        [.accepted r.record.id filed.upstreamTaskId])
  | .progress payload =>
    match readProgress payload with
    | none => (w, r, [])
    | some progress =>
      ({ w with
          store := (w.store.updateRunning now fault r.record.id fun stored =>
            { stored with progress := some progress }).1 },
        { r with backoff := resumeBackoffMs, phase := .telling (.progress progress) }, [])
  | .tool _ => (w, r, [])
  | .done value => (w, { r with phase := .storing (.ok value) }, [])
  | .error error detail =>
    if !isResumable detail || r.upstreamTaskId.isNone then
      let reason :=
        if detail.isNone then (classAgent, error.message) else (error.errorClass, error.display)
      (w, { r with phase := .storing (.error reason) }, [])
    else (w, r.breakOff w "tool" error.display, [])

/-- The dispatcher answers, or the deadline passes first. -/
def await : Input → Run
  | .opened result =>
    -- the files went with this contact and go with no other
    let r := { r with overrides := { r.overrides with clientFiles := none } }
    match result with
    | .error e => r.breakOff w e.errorClass e.display
    | .ok () => { r with phase := .streaming }
  | .expired => if r.deadline ≤ w.instant then r.expire else r
  | _ => r

/-- The stream yields an event or ends, or the deadline passes first. -/
def follow (now : Int) (fault : Option String) : Input → Shared × Run × List Happening
  | .event event => r.receive w now fault event
  | .ended => (w, r.breakOff w "tool" "the agent closed the stream before it finished", [])
  | .expired => (w, if r.deadline ≤ w.instant then r.expire else r, [])
  | _ => (w, r, [])

/-- The phases that wait for their turn only, or for the end of a pause. -/
def proceed (cfg : Runner) (now : Int) (fault : Option String) :
    Shared × Run × List Happening :=
  match r.phase with
  | .opening => (w, { r with phase := .awaiting }, [.contacted r.record.id r.contact])
  | .telling event =>
    ({ w with hub := w.hub.send r.tx event }, { r with phase := .streaming }, [])
  | .sleeping upstream wakeAt =>
    if wakeAt ≤ w.instant then
      (w,
        { r with
          start := .resume upstream
          backoff := min (r.backoff * 2) resumeBackoffMaxMs
          phase := .opening }, [])
    else (w, r, [])
  | .storing outcome =>
    ({ w with store := w.store.finish cfg now fault r.record.id outcome },
      { r with phase := .announcing outcome }, [])
  | .announcing outcome =>
    ({ w with hub := w.hub.send r.tx (Outcome.event outcome) }, { r with phase := .closing }, [])
  | .awaiting | .streaming | .closing => (w, r, [])

/-- One turn. A run that waits for something else stays as it is; the closing
one has nothing left to do here. -/
def move (cfg : Runner) (turn : Turn) : Shared × Run × List Happening :=
  match r.phase with
  | .awaiting => (w, r.await w turn.input, [])
  | .streaming => r.follow w turn.now turn.fault turn.input
  | _ =>
    match turn.input with
    | .proceed => r.proceed w cfg turn.now turn.fault
    | _ => (w, r, [])

/-! ## What a turn can do -/

/-- The files went with the contact that was made, and go with no other. -/
abbrev withoutFiles : Run := { r with overrides := { r.overrides with clientFiles := none } }

/-- What a turn can do. -/
inductive Moved (cfg : Runner) (now : Int) (fault : Option String) :
    Shared × Run × List Happening → Prop where
  | stays : Moved cfg now fault (w, r, [])
  | contacts (opening : r.phase = .opening) :
      Moved cfg now fault (w, { r with phase := .awaiting }, [.contacted r.record.id r.contact])
  | opens (awaiting : r.phase = .awaiting) :
      Moved cfg now fault (w, { r.withoutFiles with phase := .streaming }, [])
  | ends (run : Run) (same : run = r ∨ run = r.withoutFiles)
      (waiting : r.phase = .awaiting ∨ r.phase = .streaming) (outcome : Outcome) :
      Moved cfg now fault (w, { run with phase := .storing outcome }, [])
  | pauses (run : Run)
      (lost : (r.phase = .awaiting ∧ run = r.withoutFiles) ∨ (r.phase = .streaming ∧ run = r))
      (up : String) (wakeAt : Nat) (upstream : run.upstreamTaskId = some up) :
      Moved cfg now fault (w, { run with phase := .sleeping up wakeAt }, [])
  | passes (streaming : r.phase = .streaming) (text : String) :
      Moved cfg now fault ({ w with hub := w.hub.send r.tx (.token text) }, r, [])
  | files (streaming : r.phase = .streaming) (filed : Filed) :
      Moved cfg now fault
        ({ w with store := r.storeFiled w now fault filed },
          { r with
            upstreamTaskId := some filed.upstreamTaskId
            backoff := resumeBackoffMs
            pending := none
            pending_eq := fun _ none_waits => by cases none_waits
            phase := .telling (.async filed.upstreamTaskId filed.checkAfterSeconds filed.receipt
              filed.note) },
          [.accepted r.record.id filed.upstreamTaskId])
  | progresses (streaming : r.phase = .streaming) (progress : Progress) :
      Moved cfg now fault
        ({ w with
            store := (w.store.updateRunning now fault r.record.id fun stored =>
              { stored with progress := some progress }).1 },
          { r with backoff := resumeBackoffMs, phase := .telling (.progress progress) }, [])
  | tells (event : TaskEvent) (telling : r.phase = .telling event) :
      Moved cfg now fault
        ({ w with hub := w.hub.send r.tx event }, { r with phase := .streaming }, [])
  | wakes (up : String) (wakeAt : Nat) (sleeping : r.phase = .sleeping up wakeAt) :
      Moved cfg now fault
        (w,
          { r with
            start := .resume up
            backoff := min (r.backoff * 2) resumeBackoffMaxMs
            phase := .opening }, [])
  | stores (outcome : Outcome) (storing : r.phase = .storing outcome) :
      Moved cfg now fault
        ({ w with store := w.store.finish cfg now fault r.record.id outcome },
          { r with phase := .announcing outcome }, [])
  | announces (outcome : Outcome) (announcing : r.phase = .announcing outcome) :
      Moved cfg now fault
        ({ w with hub := w.hub.send r.tx (Outcome.event outcome) }, { r with phase := .closing },
          [])

variable {r w} {cfg : Runner} {now : Int} {fault : Option String}

theorem Moved.breakOff {run : Run}
    (lost : (r.phase = .awaiting ∧ run = r.withoutFiles) ∨ (r.phase = .streaming ∧ run = r))
    (errorClass broken : String) :
    r.Moved w cfg now fault (w, run.breakOff w errorClass broken, []) := by
  have ends (outcome : Outcome) :
      r.Moved w cfg now fault (w, { run with phase := .storing outcome }, []) :=
    .ends run (lost.symm.imp And.right And.right) (lost.imp And.left And.left) outcome
  unfold Run.breakOff
  split
  · exact ends _
  · rename_i up upstream
    split
    · exact ends _
    · exact .pauses run lost up _ upstream

theorem moved_await (awaiting : r.phase = .awaiting) (input : Input) :
    r.Moved w cfg now fault (w, r.await w input, []) := by
  unfold await
  split
  · split
    · exact .breakOff (.inl ⟨awaiting, rfl⟩) _ _
    · exact .opens awaiting
  · split
    · exact .ends r (.inl rfl) (.inl awaiting) _
    · exact .stays
  · exact .stays

theorem moved_receive (streaming : r.phase = .streaming) (event : StreamEvent) :
    r.Moved w cfg now fault (r.receive w now fault event) := by
  unfold receive
  split
  · exact .passes streaming _
  · split
    · exact .stays
    · exact .files streaming _
  · split
    · exact .stays
    · exact .progresses streaming _
  · exact .stays
  · exact .ends r (.inl rfl) (.inr streaming) _
  · split
    · exact .ends r (.inl rfl) (.inr streaming) _
    · exact .breakOff (.inr ⟨streaming, rfl⟩) _ _

theorem moved_follow (streaming : r.phase = .streaming) (input : Input) :
    r.Moved w cfg now fault (r.follow w now fault input) := by
  unfold follow
  split
  · exact moved_receive streaming _
  · exact .breakOff (.inr ⟨streaming, rfl⟩) _ _
  · split
    · exact .ends r (.inl rfl) (.inr streaming) _
    · exact .stays
  · exact .stays

theorem moved_proceed : r.Moved w cfg now fault (r.proceed w cfg now fault) := by
  unfold proceed
  split
  · exact .contacts ‹_›
  · exact .tells _ ‹_›
  · split
    · exact .wakes _ _ ‹_›
    · exact .stays
  · exact .stores _ ‹_›
  · exact .announces _ ‹_›
  all_goals exact .stays

variable (r w cfg) in
theorem moved (turn : Turn) : r.Moved w cfg turn.now turn.fault (r.move w cfg turn) := by
  unfold move
  split
  · exact moved_await ‹_› _
  · exact moved_follow ‹_› _
  · split
    · exact moved_proceed
    · exact .stays

/-! ## What a turn leaves alone -/

theorem storeFiled_spec (keyed : w.store.Keyed) (now : Int) (fault : Option String)
    (filed : Filed) :
    w.store.WritesOnly (r.storeFiled w now fault filed) r.record.id ∧
      (r.storeFiled w now fault filed).Keyed := by
  unfold storeFiled
  split
  · rename_i first waiting
    have own := r.pending_eq first waiting
    subst own
    exact ⟨w.store.put_writesOnly now fault _, TaskStore.keyed_put keyed now fault _⟩
  · exact ⟨TaskStore.updateRunning_writesOnly keyed fun _ => rfl,
      TaskStore.keyed_updateRunning keyed⟩

/-- A turn keeps the run's record, its channel and the entries of the hub. It sends on
no other channel, and writes at most the run's own record. -/
structure Keeps (r : Run) (w : Shared) (after : Shared × Run × List Happening) : Prop where
  record : after.2.1.record = r.record
  tx : after.2.1.tx = r.tx
  live : after.1.hub.live = w.hub.live
  sends : w.hub.SendsOnly after.1.hub r.tx
  writes : w.store.WritesOnly after.1.store r.record.id
  keyed : after.1.store.Keyed

theorem move_keeps (keyed : w.store.Keyed) (cfg : Runner) (turn : Turn) :
    r.Keeps w (r.move w cfg turn) := by
  have moved := r.moved w cfg turn
  generalize r.move w cfg turn = after at moved ⊢
  cases moved with
  | ends run same =>
    rcases same with rfl | rfl <;> exact ⟨rfl, rfl, rfl, .of_eq rfl, .refl, keyed⟩
  | pauses run lost =>
    rcases lost with ⟨_, rfl⟩ | ⟨_, rfl⟩ <;> exact ⟨rfl, rfl, rfl, .of_eq rfl, .refl, keyed⟩
  | passes | tells | announces =>
    exact ⟨rfl, rfl, rfl, TaskHub.sendsOnly_send _, .refl, keyed⟩
  | files _ filed =>
    obtain ⟨writes, keyed⟩ := storeFiled_spec keyed turn.now turn.fault filed
    exact ⟨rfl, rfl, rfl, .of_eq rfl, writes, keyed⟩
  | progresses =>
    exact ⟨rfl, rfl, rfl, .of_eq rfl, TaskStore.updateRunning_writesOnly keyed fun _ => rfl,
      TaskStore.keyed_updateRunning keyed⟩
  | stores outcome =>
    obtain ⟨f, same, sameId, _⟩ :=
      TaskStore.finish_cases cfg w.store turn.now turn.fault r.record.id outcome
    refine ⟨rfl, rfl, rfl, .of_eq rfl, ?_, ?_⟩ <;> rw [same]
    · exact TaskStore.updateRunning_writesOnly keyed sameId
    · exact TaskStore.keyed_updateRunning keyed
  | _ => exact ⟨rfl, rfl, rfl, .of_eq rfl, .refl, keyed⟩

/-- A run whose end is stored has just stored it, or leaves the store alone. -/
theorem move_isOver (cfg : Runner) (turn : Turn)
    (isOver : (r.move w cfg turn).2.1.phase.isOver = true) :
    (r.phase.isOver = true ∧ (r.move w cfg turn).1.store = w.store) ∨
      ∃ outcome, r.phase = .storing outcome ∧
        (r.move w cfg turn).1.store =
          w.store.finish cfg turn.now turn.fault r.record.id outcome := by
  have moved := r.moved w cfg turn
  generalize r.move w cfg turn = after at moved isOver ⊢
  cases moved with
  | stays | passes => exact .inl ⟨isOver, rfl⟩
  | stores outcome storing => exact .inr ⟨outcome, storing, rfl⟩
  | announces outcome announcing => exact .inl ⟨by rw [announcing]; rfl, rfl⟩
  | _ => cases isOver

end Run

end Triton.Tasks
