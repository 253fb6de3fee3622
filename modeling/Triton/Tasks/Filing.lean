/-
# What a runner has filed

A dispatch files the caller's request with the upstream. This module says what a
history may show of a task's contacts with the upstream: a dispatch comes first
or not at all, and every other contact resumes the upstream task whose id the
runner has last accepted or found in the store, and carries no files. The
variables of a runner agree with the history of its task at every turn, so its
next contact is always one the history allows.
-/

import Triton.Lib.History
import Triton.Tasks.System

namespace Triton.Tasks

open Triton.Lib Triton.Core

/-! ## Reading a history -/

/-- The task an event is about. -/
def Happening.task : Happening → Option String
  | .started id _ _ | .refused id _ | .claimed id _ | .contacted id _ | .accepted id _ => some id
  | .restarted => none

/-- What an event says about the upstream id of a task. -/
def Happening.upstream (task : String) : Happening → Option (Option String)
  | .started id up _ | .claimed id up => if id = task then some up else none
  | .accepted id up => if id = task then some (some up) else none
  | .refused _ _ | .contacted _ _ | .restarted => none

/-- The upstream id of a task as of the last event that says something about it:
accepted from the upstream, or read from the record the runner began with. -/
def known (task : String) (history : List Happening) : Option String :=
  ((history.filterMap (Happening.upstream task)).getLast?).join

def Happening.contactWith (task : String) : Happening → Option Contact
  | .contacted id contact => if id = task then some contact else none
  | _ => none

/-- The contacts with the upstream on behalf of a task. -/
def contacts (task : String) (history : List Happening) : List Contact :=
  history.filterMap (Happening.contactWith task)

def Contact.isDispatch : Contact → Bool
  | .dispatch _ _ _ _ _ => true
  | .resume _ _ _ _ _ => false

/-- A dispatch comes before every other contact. A resume carries the id that is
known by then and no files, unless the task was started with it. -/
def FilesOnce (task : String) (before : List Happening) : Happening → Prop
  | .contacted id (.dispatch _ _ _ _ _) => id = task → contacts task before = []
  | .contacted id (.resume _ upstream _ _ overrides) =>
    id = task →
      (known task before = some upstream ∧ overrides.clientFiles = none) ∨
        (contacts task before = [] ∧ ∃ first, .started task first (.resume upstream) ∈ before)
  | _ => True

theorem known_concat (task : String) (history : List Happening) (event : Happening) :
    known task (history ++ [event]) = (event.upstream task).getD (known task history) := by
  unfold known
  rw [List.filterMap_append]
  cases said : event.upstream task with
  | none | some up => simp [said]

theorem contacts_concat (task : String) (history : List Happening) (event : Happening) :
    contacts task (history ++ [event]) =
      contacts task history ++ (event.contactWith task).toList := by
  unfold contacts
  rw [List.filterMap_append]
  cases said : event.contactWith task <;> simp [said]

/-- The event is no contact on behalf of the task, and says nothing about its
upstream id. -/
structure Happening.Silent (task : String) (event : Happening) : Prop where
  upstream : event.upstream task = none
  contact : event.contactWith task = none

theorem silent_of_task_ne {task : String} {event : Happening} (other : event.task ≠ some task) :
    event.Silent task := by
  cases event with
  | started id | claimed id | accepted id | contacted id =>
    have different : id ≠ task := fun same => other (congrArg some same)
    exact ⟨by simp [Happening.upstream, different], by simp [Happening.contactWith, different]⟩
  | refused | restarted => exact ⟨rfl, rfl⟩

namespace Happening.Silent

variable {task : String} {history log : List Happening}

theorem filesOnce {event : Happening} (silent : event.Silent task) :
    FilesOnce task history event := by
  cases event with
  | contacted id contact =>
    have different : id ≠ task := by
      rintro rfl
      simpa [Happening.contactWith] using silent.contact
    cases contact with
    | dispatch | resume => exact fun same => absurd same different
  | _ => trivial

theorem known_append (silent : ∀ event ∈ log, event.Silent task) :
    known task (history ++ log) = known task history := by
  have nothing : log.filterMap (Happening.upstream task) = [] :=
    List.filterMap_eq_nil_iff.mpr fun event member => (silent event member).upstream
  simp [known, List.filterMap_append, nothing]

theorem contacts_append (silent : ∀ event ∈ log, event.Silent task) :
    contacts task (history ++ log) = contacts task history := by
  have nothing : log.filterMap (Happening.contactWith task) = [] :=
    List.filterMap_eq_nil_iff.mpr fun event member => (silent event member).contact
  simp [contacts, List.filterMap_append, nothing]

end Happening.Silent

/-- A history that files a task once dispatches it once at most. -/
theorem dispatches_le_one {task : String} {history : List Happening}
    (once : Obeys (FilesOnce task) history) :
    (contacts task history).countP Contact.isDispatch ≤ 1 := by
  induction history using List.reverseRecOn with
  | nil => simp [contacts]
  | append_singleton history event ih =>
    obtain ⟨before, allowed⟩ := Obeys.concat_iff.mp once
    rw [contacts_concat]
    cases event with
    | contacted id contact =>
      by_cases same : id = task
      · cases contact with
        | dispatch =>
          have first : contacts task history = [] := allowed same
          rw [first, List.nil_append]
          exact List.countP_le_length.trans (by simp [Happening.contactWith, same])
        | resume => simpa [Happening.contactWith, same, Contact.isDispatch] using ih before
      · simpa [Happening.contactWith, same] using ih before
    | _ => simpa [Happening.contactWith] using ih before

/-! ## What a process knows of its task -/

/-- Has the contact of this phase been answered with a stream? -/
def Phase.hasOpened : Phase → Bool
  | .streaming | .telling _ | .sleeping _ _ => true
  | _ => false

/-- A phase that is followed by no contact on its own. -/
def Phase.asksNothing : Phase → Bool
  | .opening | .sleeping _ _ => false
  | _ => true

/-- What an opening run may ask for: a first dispatch, a resume of the known
upstream task without files, or the resume it was started with. -/
def Run.MayOpen (task : String) (history : List Happening) (run : Run) : Start → Prop
  | .dispatch _ => contacts task history = []
  | .resume up =>
    (run.upstreamTaskId = some up ∧ run.overrides.clientFiles = none) ∨
      (contacts task history = [] ∧ ∃ first, .started task first (.resume up) ∈ history)

/-- A runner's variables agree with the history of its task. -/
structure Run.Follows (task : String) (history : List Happening) (run : Run) : Prop where
  id : run.record.id = task
  upstream : known task history = run.upstreamTaskId
  opening : run.phase = .opening → run.MayOpen task history run.start
  sleeping : ∀ up wakeAt, run.phase = .sleeping up wakeAt → run.upstreamTaskId = some up
  files : run.phase.hasOpened = true → run.overrides.clientFiles = none

namespace Run

variable {task : String} {history : List Happening} {run : Run} {w : Shared}

/-- A run that is spawned with what the history says, and may make its first
contact, agrees with the history. -/
theorem follows_spawn (cfg : Runner) (w : Shared) (now : Int) {record : TaskRecord}
    {start : Start} (principal : Principal) (overrides : ContextOverrides) (tx : Nat)
    (persist : Persist) (id : record.id = task)
    (upstream : known task history = record.upstreamTaskId)
    (allowed : (spawn cfg w now record start principal overrides tx persist).MayOpen task history
      start) :
    (spawn cfg w now record start principal overrides tx persist).Follows task history where
  id := id
  upstream := upstream
  opening _ := allowed
  sleeping := nofun
  files := nofun

section Kept

variable (follows : run.Follows task history)

include follows

/-- An opening run makes a contact the history allows. -/
theorem filesOnce_contact (opening : run.phase = .opening) :
    FilesOnce task history (.contacted run.record.id run.contact) := by
  have allowed := follows.opening opening
  unfold contact
  cases start : run.start with
  | dispatch args =>
    rw [start] at allowed
    exact fun _ => allowed
  | resume up =>
    rw [start] at allowed
    exact fun _ => allowed.imp_left fun ⟨carries, files⟩ =>
      ⟨follows.upstream.trans carries, files⟩

/-- What happens to other tasks does not concern the run. -/
theorem Follows.later {log : List Happening} (silent : ∀ event ∈ log, event.Silent task) :
    run.Follows task (history ++ log) where
  id := follows.id
  upstream := (Happening.Silent.known_append silent).trans follows.upstream
  opening opening := by
    have allowed := follows.opening opening
    cases start : run.start with
    | dispatch args =>
      rw [start] at allowed
      exact (Happening.Silent.contacts_append silent).trans allowed
    | resume up =>
      rw [start] at allowed
      refine allowed.imp_right fun ⟨none_yet, first, started⟩ => ?_
      exact ⟨(Happening.Silent.contacts_append silent).trans none_yet, first,
        List.mem_append_left _ started⟩
  sleeping := follows.sleeping
  files := follows.files

/-- A run at a phase in which it opens nothing and does not sleep. -/
theorem Follows.onward {later : List Happening} {next : Run}
    (record : next.record = run.record) (upstream : next.upstreamTaskId = run.upstreamTaskId)
    (same : known task later = known task history) (asksNothing : next.phase.asksNothing = true)
    (files : next.phase.hasOpened = true → next.overrides.clientFiles = none) :
    next.Follows task later where
  id := record ▸ follows.id
  upstream := by rw [same, upstream, follows.upstream]
  opening opening := by
    rw [opening] at asksNothing
    cases asksNothing
  sleeping up wakeAt sleeping := by
    rw [sleeping] at asksNothing
    cases asksNothing
  files := files

theorem Follows.move (cfg : Runner) (turn : Turn) :
    (run.move w cfg turn).2.1.Follows task (history ++ (run.move w cfg turn).2.2) := by
  have unchanged : run.Follows task (history ++ []) := by rwa [List.append_nil]
  have moved := run.moved w cfg turn
  generalize run.move w cfg turn = after at moved ⊢
  cases moved with
  | stays | passes => exact unchanged
  | contacts =>
    refine follows.onward rfl rfl ?_ rfl fun opened => by cases opened
    rw [known_concat]
    rfl
  | opens => exact unchanged.onward rfl rfl rfl rfl fun _ => rfl
  | ends next same =>
    rcases same with rfl | rfl <;>
      exact unchanged.onward rfl rfl rfl rfl fun opened => by cases opened
  | pauses next lost up wakeAt upstream =>
    -- a run that waits for an answer has sent its files, and a stream has none to send
    have sent : next.record = run.record ∧ next.upstreamTaskId = run.upstreamTaskId ∧
        next.overrides.clientFiles = none := by
      rcases lost with ⟨_, rfl⟩ | ⟨streaming, rfl⟩
      · exact ⟨rfl, rfl, rfl⟩
      · exact ⟨rfl, rfl, follows.files (by rw [streaming]; rfl)⟩
    obtain ⟨record, known, files⟩ := sent
    exact
      { id := record ▸ unchanged.id
        upstream := unchanged.upstream.trans known.symm
        opening := nofun
        sleeping := by
          rintro _ _ ⟨⟩
          exact upstream
        files := fun _ => files }
  | files streaming filed =>
    exact
      { id := follows.id
        upstream := by
          rw [known_concat]
          simp [Happening.upstream, follows.id]
        opening := nofun
        sleeping := nofun
        files := fun _ => follows.files (by rw [streaming]; rfl) }
  | progresses streaming =>
    exact unchanged.onward rfl rfl rfl rfl fun _ => follows.files (by rw [streaming]; rfl)
  | tells event telling =>
    exact unchanged.onward rfl rfl rfl rfl fun _ => follows.files (by rw [telling]; rfl)
  | wakes up wakeAt sleeping =>
    have files : run.overrides.clientFiles = none := follows.files (by rw [sleeping]; rfl)
    exact
      { unchanged with
        opening := fun _ => .inl ⟨follows.sleeping up wakeAt sleeping, files⟩
        sleeping := by simp
        files := fun _ => files }
  | stores | announces => exact unchanged.onward rfl rfl rfl rfl fun opened => by cases opened

end Kept

/-- A turn makes the contact of an opening run, or accepts an upstream id, or
shows nothing. -/
theorem move_log (run : Run) (w : Shared) (cfg : Runner) (turn : Turn) :
    (run.move w cfg turn).2.2 = [] ∨
      (run.phase = .opening ∧
        (run.move w cfg turn).2.2 = [.contacted run.record.id run.contact]) ∨
      ∃ up, (run.move w cfg turn).2.2 = [.accepted run.record.id up] := by
  have moved := run.moved w cfg turn
  generalize run.move w cfg turn = after at moved ⊢
  cases moved with
  | contacts opening => exact .inr (.inl ⟨opening, rfl⟩)
  | files => exact .inr (.inr ⟨_, rfl⟩)
  | _ => exact .inl rfl

end Run

/-- What the holder of a task's entry knows agrees with the task's history. -/
def Process.Follows (task : String) (history : List Happening) : Process → Prop
  | .starting call _ =>
    contacts task history = [] ∧ known task history = call.record.upstreamTaskId ∧
      .started task call.record.upstreamTaskId call.start ∈ history
  | .claiming record _ _ => known task history = record.upstreamTaskId
  | .running run => run.Follows task history
  | .refusing _ _ | .failing _ | .ended => True

namespace Process

variable {task : String} {history : List Happening} {p : Process} {w : Shared}

theorem Follows.later (follows : p.Follows task history) {log : List Happening}
    (silent : ∀ event ∈ log, event.Silent task) : p.Follows task (history ++ log) := by
  cases p with
  | starting call tx =>
    obtain ⟨first, upstream, started⟩ := follows
    exact ⟨(Happening.Silent.contacts_append silent).trans first,
      (Happening.Silent.known_append silent).trans upstream, List.mem_append_left _ started⟩
  | claiming => exact (Happening.Silent.known_append silent).trans follows
  | running run => exact Run.Follows.later follows silent
  | refusing | failing | ended => trivial

theorem Follows.move (follows : p.Follows task history) (own : p.holds = some task)
    (cfg : Runner) (turn : Turn) :
    (p.move cfg w turn).2.1.Follows task (history ++ (p.move cfg w turn).2.2) := by
  have moved := p.moved cfg w turn
  generalize p.move cfg w turn = after at moved ⊢
  cases moved with
  | spawns call =>
    obtain ⟨first, upstream, started⟩ := follows
    rw [List.append_nil]
    apply Run.follows_spawn
    · exact Option.some.inj own
    · exact upstream
    · cases asked : call.start with
      | dispatch args => exact first
      | resume up => exact .inr ⟨first, _, asked ▸ started⟩
  | resumes record _ _ _ up overrides stored files =>
    rw [List.append_nil]
    apply Run.follows_spawn
    · exact Option.some.inj own
    · exact follows
    · exact .inl ⟨stored, files⟩
  | runs run => exact Run.Follows.move follows cfg turn
  | refuses | refused | fails | failed | closes | ended => trivial

/-- A turn shows at most one event. It is about the holder's own task, allowed by
its history, and no claim. -/
theorem move_log (history : List Happening) (own : p.holds = some task) (cfg : Runner)
    (turn : Turn) :
    (p.move cfg w turn).2.2 = [] ∨ ∃ event, (p.move cfg w turn).2.2 = [event] ∧
      event.task = some task ∧ (∀ up, event ≠ .claimed task up) ∧
        (p.Follows task history → FilesOnce task history event) := by
  have moved := p.moved cfg w turn
  generalize p.move cfg w turn = after at moved ⊢
  cases moved with
  | refused id error =>
    exact .inr ⟨_, rfl, own, fun _ => Happening.noConfusion, fun _ => trivial⟩
  | runs run =>
    rcases run.move_log w cfg turn with silent | ⟨opening, contacted⟩ | ⟨up, accepted⟩
    · exact .inl silent
    · exact .inr ⟨_, contacted, own, fun _ => Happening.noConfusion,
        fun follows => Run.filesOnce_contact follows opening⟩
    · exact .inr ⟨_, accepted, own, fun _ => Happening.noConfusion, fun _ => trivial⟩
  | _ => exact .inl rfl

end Process

end Triton.Tasks
