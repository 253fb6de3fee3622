/-
# What the channel of a task tells

A task's end is stored, then sent on its channel, and then its entry leaves the
hub, which closes the channel. So the ending is the last event of a channel and
agrees with the record, and a channel that closes without one belongs to a task
whose claim was given up: its record says that it failed.

Both are read off the holder of the entry. Each of its turns sends at most one
event, on its own channel, and changes nothing of a task whose end was sent.
-/

import Triton.Lib.Broadcast
import Triton.Tasks.FiledOnce

namespace Triton.Tasks

open Triton.Lib

/-! ## A holder, its channel and its record -/

/-- The record, where there is one, says that the task runs. -/
def Running (stored : Option TaskRecord) : Prop :=
  ∀ rec, stored = some rec → rec.state.isTerminal = false

/-- The event tells the end that the record has. -/
def TaskEvent.Fits (rec : TaskRecord) : TaskEvent → Prop
  | .done _ => rec.state = .completed
  | .failed errorClass _ => rec.state = .failed ∧ rec.errorClass = some errorClass
  | .token _ | .async _ _ _ _ | .progress _ => False

/-- A channel that is no longer sent on: it told the end that is stored, or the
task was failed without a word. -/
def Concluded (stored : Option TaskRecord) (sent : List TaskEvent) : Prop :=
  (∃ last, EndsWith TaskEvent.isTerminal sent last ∧ ∀ rec, stored = some rec → last.Fits rec) ∨
    Ongoing TaskEvent.isTerminal sent ∧ ∀ rec, stored = some rec → rec.state = .failed

theorem TaskEvent.Fits.isTerminal {rec : TaskRecord} {event : TaskEvent} (fits : event.Fits rec) :
    rec.state.isTerminal = true := by
  cases event with
  | done value =>
    rw [show rec.state = .completed from fits]
    rfl
  | failed errorClass message =>
    rw [fits.1]
    rfl
  | token | async | progress => exact fits.elim

variable {stored : Option TaskRecord} {sent : List TaskEvent}

theorem Concluded.isTerminal (concluded : Concluded stored sent) {rec : TaskRecord}
    (found : stored = some rec) : rec.state.isTerminal = true := by
  rcases concluded with ⟨last, _, fits⟩ | ⟨_, failed⟩
  · exact (fits rec found).isTerminal
  · rw [failed rec found]
    rfl

/-- What a runner has sent and stored by the time it stands here. -/
def Phase.Tells (stored : Option TaskRecord) (sent : List TaskEvent) : Phase → Prop
  | .telling event =>
    event.isTerminal = false ∧ Ongoing TaskEvent.isTerminal sent ∧ Running stored
  | .announcing outcome =>
    Ongoing TaskEvent.isTerminal sent ∧
      ∀ rec, stored = some rec → (Outcome.event outcome).Fits rec
  | .closing =>
    ∃ last, EndsWith TaskEvent.isTerminal sent last ∧ ∀ rec, stored = some rec → last.Fits rec
  | .opening | .awaiting | .streaming | .sleeping _ _ | .storing _ =>
    Ongoing TaskEvent.isTerminal sent ∧ Running stored

/-- What a holder has sent and stored; one that is gone has concluded the
channel. -/
def Process.Tells (stored : Option TaskRecord) (sent : List TaskEvent) : Process → Prop
  | .starting _ _ | .claiming _ _ _ => Ongoing TaskEvent.isTerminal sent ∧ Running stored
  | .failing _ =>
    Ongoing TaskEvent.isTerminal sent ∧ ∀ rec, stored = some rec → rec.state = .failed
  | .running run =>
    (∀ first, run.pending = some first → first.state.isTerminal = false) ∧
      run.phase.Tells stored sent
  | .refusing _ _ => False
  | .ended => Concluded stored sent

/-- The task's end is stored or sent. -/
def Final (stored : Option TaskRecord) (sent : List TaskEvent) : Prop :=
  (∃ rec, stored = some rec ∧ rec.state.isTerminal = true) ∨
    ∃ last, EndsWith TaskEvent.isTerminal sent last

/-- From one turn of the holder to the next. -/
structure Turned (stored after : Option TaskRecord) (sent later : List TaskEvent) (p : Process) :
    Prop where
  tells : p.Tells after later
  grows : Grows TaskEvent.isTerminal sent later
  final : Final stored sent → after = stored

/-- A turn of a holder whose task runs. -/
theorem Turned.quiet {after : Option TaskRecord} {later : List TaskEvent} {p : Process}
    (tells : p.Tells after later) (ongoing : Ongoing TaskEvent.isTerminal sent)
    (running : Running stored) (grows : Grows TaskEvent.isTerminal sent later) :
    Turned stored after sent later p where
  tells := tells
  grows := grows
  final := by
    rintro (⟨rec, found, ended⟩ | ⟨last, ends⟩)
    · rw [running rec found] at ended
      cases ended
    · exact absurd ongoing ends.not_ongoing

/-! ## What a turn stores -/

namespace TaskStore

variable {store : TaskStore} {now : Int} {id : String} {cfg : Runner}

theorem running_put {rec : TaskRecord} (running : rec.state.isTerminal = false)
    (own : rec.id = id) : Running ((store.put now none rec).1.getRaw id) := by
  intro stored found
  rw [← own] at found
  rw [(alike_of_getRaw_put found).fields.2.1]
  exact running

/-- What comes of a change to a running record: nothing where there is none, else
the changed one. -/
theorem getRaw_updateRunning (keyed : store.Keyed) (shown : store.get now id = store.getRaw id)
    (running : Running (store.getRaw id)) {f : TaskRecord → TaskRecord} {stored : TaskRecord}
    (found : (store.updateRunning now none id f).1.getRaw id = some stored)
    (sameId : ∀ rec, (f rec).id = rec.id) :
    ∃ rec, store.getRaw id = some rec ∧
      stored.state = (f rec).state ∧ stored.errorClass = (f rec).errorClass := by
  rcases of_getRaw_updateRunning keyed sameId shown found with ⟨before, ended⟩ | changed
  · rw [running stored before] at ended
    cases ended
  · exact changed

theorem running_updateRunning (keyed : store.Keyed) (shown : store.get now id = store.getRaw id)
    (running : Running (store.getRaw id)) {f : TaskRecord → TaskRecord}
    (sameId : ∀ rec, (f rec).id = rec.id) (sameState : ∀ rec, (f rec).state = rec.state) :
    Running ((store.updateRunning now none id f).1.getRaw id) := by
  intro stored found
  obtain ⟨rec, before, state, _⟩ := getRaw_updateRunning keyed shown running found sameId
  rw [state, sameState]
  exact running rec before

/-- A running task that is failed has failed. -/
theorem failed_of_fail (keyed : store.Keyed) (shown : store.get now id = store.getRaw id)
    (running : Running (store.getRaw id)) {errorClass message : String} {stored : TaskRecord}
    (found : (store.fail now none id errorClass message).1.getRaw id = some stored) :
    stored.state = .failed ∧ stored.errorClass = some errorClass := by
  obtain ⟨rec, _, state, named⟩ := getRaw_updateRunning keyed shown running found fun _ => rfl
  exact ⟨state, named⟩

end TaskStore

/-! ## What a turn tells -/

namespace Run

variable {r : Run} {w : Shared} {cfg : Runner} {turn : Turn}

/-- A turn of a run, as its channel and its record see it. -/
def Turns (r : Run) (w : Shared) (after : Shared × Run × List Happening) : Prop :=
  Turned (w.store.getRaw r.record.id) (after.1.store.getRaw r.record.id) (w.hub.sent r.tx)
    (after.1.hub.sent r.tx) (.running after.2.1)

section Turns

variable (keyed : w.store.Keyed) (inside : r.tx < w.hub.channels.length)
  (waiting : ∀ first, r.pending = some first → first.state.isTerminal = false)

include waiting

theorem Turns.idle {after : Shared × Run × List Happening} (same : after.1 = w)
    (pending : after.2.1.pending = r.pending)
    (tells : after.2.1.phase.Tells (w.store.getRaw r.record.id) (w.hub.sent r.tx)) :
    r.Turns w after := by
  unfold Turns
  rw [same]
  exact ⟨⟨pending ▸ waiting, tells⟩, .inl rfl, fun _ => rfl⟩

include keyed

include inside

/-- Every turn of a run keeps its channel and its record in step. -/
theorem move_turns (took : turn.fault = none)
    (shown : w.store.get turn.now r.record.id = w.store.getRaw r.record.id)
    (tells : r.phase.Tells (w.store.getRaw r.record.id) (w.hub.sent r.tx)) :
    r.Turns w (r.move w cfg turn) := by
  have moved := r.moved w cfg turn
  rw [took] at moved
  generalize r.move w cfg turn = after at moved ⊢
  cases moved with
  | stays => exact .idle waiting rfl rfl tells
  | contacts phase | opens phase | wakes _ _ phase =>
    rw [phase] at tells
    exact .idle waiting rfl rfl tells
  | ends run same waits outcome =>
    have goesOn : Ongoing TaskEvent.isTerminal (w.hub.sent r.tx) ∧
        Running (w.store.getRaw r.record.id) := by
      rcases waits with phase | phase <;> rw [phase] at tells <;> exact tells
    rcases same with rfl | rfl <;> exact .idle waiting rfl rfl goesOn
  | pauses run lost up wakeAt =>
    rcases lost with ⟨phase, rfl⟩ | ⟨phase, rfl⟩ <;> rw [phase] at tells <;>
      exact .idle waiting rfl rfl tells
  | passes streaming text =>
    obtain ⟨ongoing, running⟩ := streaming ▸ tells
    unfold Turns
    rw [TaskHub.sent_send inside]
    refine .quiet ⟨waiting, ?_⟩ ongoing running (.inr ⟨ongoing, _, rfl⟩)
    rw [streaming]
    exact ⟨ongoing.concat rfl, running⟩
  | files streaming filed =>
    obtain ⟨ongoing, running⟩ := streaming ▸ tells
    refine .quiet ⟨fun _ waits => (by cases waits), rfl, ongoing, ?_⟩ ongoing running (.inl rfl)
    simp only [storeFiled]
    split
    · rename_i first found
      have own : first.id = r.record.id := congrArg TaskRecord.id (r.pending_eq first found)
      exact TaskStore.running_put (waiting first found) own
    · exact TaskStore.running_updateRunning keyed shown running (fun _ => rfl) fun _ => rfl
  | progresses streaming =>
    obtain ⟨ongoing, running⟩ := streaming ▸ tells
    refine .quiet ⟨waiting, rfl, ongoing, ?_⟩ ongoing running (.inl rfl)
    exact TaskStore.running_updateRunning keyed shown running (fun _ => rfl) fun _ => rfl
  | tells event telling =>
    obtain ⟨goes, ongoing, running⟩ := telling ▸ tells
    unfold Turns
    rw [TaskHub.sent_send inside]
    exact .quiet ⟨waiting, ongoing.concat goes, running⟩ ongoing running (.inr ⟨ongoing, _, rfl⟩)
  | stores outcome storing =>
    obtain ⟨ongoing, running⟩ := storing ▸ tells
    refine .quiet ⟨waiting, ongoing, fun rec found => ?_⟩ ongoing running (.inl rfl)
    cases outcome with
    | ok value =>
      obtain ⟨_, _, state, _⟩ :=
        TaskStore.getRaw_updateRunning keyed shown running found fun _ => rfl
      exact state
    | error reason => exact TaskStore.failed_of_fail keyed shown running found
  | announces outcome announcing =>
    obtain ⟨ongoing, fits⟩ := announcing ▸ tells
    have isLast : (Outcome.event outcome).isTerminal = true := by cases outcome <;> rfl
    have ends : EndsWith TaskEvent.isTerminal (w.hub.sent r.tx ++ [Outcome.event outcome])
        (Outcome.event outcome) := ⟨_, rfl, ongoing, isLast⟩
    unfold Turns
    rw [TaskHub.sent_send inside]
    exact ⟨⟨waiting, _, ends, fits⟩, .inr ⟨ongoing, _, rfl⟩, fun _ => rfl⟩

end Turns

end Run

/-! ## A turn of any holder -/

namespace Process

variable {w : Shared} {turn : Turn} {tx : Nat}

/-- A runner stays one until it closes. -/
theorem move_running (keyed : w.store.Keyed) (cfg : Runner) (turn : Turn) (run : Run) :
    (∃ after, ((Process.running run).move cfg w turn).2.1 = .running after ∧
      after.record.id = run.record.id) ∨ run.phase = .closing := by
  have moved := (Process.running run).moved cfg w turn
  generalize (Process.running run).move cfg w turn = after at moved ⊢
  cases moved with
  | closes _ closing => exact .inr closing
  | runs => exact .inl ⟨_, rfl, congrArg TaskRecord.id (Run.move_keeps keyed cfg turn).record⟩

/-- Every turn of a holder keeps its channel and its record in step; when it gives
the entry up, the channel is concluded. -/
theorem move_turned (keyed : w.store.Keyed) (cfg : Runner) {p : Process} {id : String}
    (own : p.holds = some id) (sends : p.SendsOn tx) (inside : tx < w.hub.channels.length)
    (took : turn.fault = none) (shown : w.store.get turn.now id = w.store.getRaw id)
    (tells : p.Tells (w.store.getRaw id) (w.hub.sent tx)) :
    Turned (w.store.getRaw id) ((p.move cfg w turn).1.store.getRaw id) (w.hub.sent tx)
      ((p.move cfg w turn).1.hub.sent tx) (p.move cfg w turn).2.1 := by
  have moved := p.moved cfg w turn
  generalize p.move cfg w turn = after at moved ⊢
  cases moved with
  | refuses call _ error failed =>
    rw [took, TaskStore.put_ok] at failed
    cases failed
  | spawns call channel shared stored =>
    cases own
    obtain ⟨ongoing, running⟩ := tells
    have waiting : ∀ first, (if call.persist = .onAsync then some (call.prepared turn.now)
        else none) = some first → first.state.isTerminal = false := by
      intro first waits
      split at waits <;> cases waits
      rfl
    rcases stored with rfl | rfl
    · exact .quiet ⟨waiting, ongoing, running⟩ ongoing running (.inl rfl)
    · rw [took]
      exact .quiet ⟨waiting, ongoing, TaskStore.running_put rfl rfl⟩ ongoing running (.inl rfl)
  | refused => exact tells.elim
  | fails record =>
    cases own
    rw [took]
    refine .quiet ⟨tells.1, fun rec found => ?_⟩ tells.1 tells.2 (.inl rfl)
    exact (TaskStore.failed_of_fail keyed shown tells.2 found).1
  | resumes =>
    cases own
    exact .quiet ⟨fun _ waits => (by cases waits), tells⟩ tells.1 tells.2 (.inl rfl)
  | failed => exact ⟨.inr tells, .inl rfl, fun _ => rfl⟩
  | closes run closing =>
    have told := tells.2
    rw [closing] at told
    exact ⟨.inl told, .inl rfl, fun _ => rfl⟩
  | runs run =>
    cases own
    cases sends
    exact Run.move_turns keyed inside tells.1 took shown tells.2
  | ended => cases own

end Process

end Triton.Tasks
