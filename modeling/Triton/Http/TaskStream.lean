/-
# Following a task to its end

Whoever starts a task, or finds it running, may follow it: a chat courier as a
stream of the dispatcher's events, an A2A client as the task as it is now and the
frames of what becomes of it. The readers take turns with the processes of the
service in any order, as slowly as they like; a restart ends them all.

Each of them is told one ending and nothing after it. The ending agrees with the
stored record. An error event has the class under which the stored one is told,
and the text of a failed frame is made from the stored class.
-/

import Triton.Http.Access
import Triton.Tasks.Channels
import Triton.Tasks.Endings

namespace Triton.Http

open Triton.Lib Triton.Core Triton.Tasks

/-- How many events a channel remembers. -/
def channelCapacity : Nat := 256

/-! ## Couriers -/

/-- One round of `as_stream_events`. -/
def asStreamEvents (s : System) (now : Int) (id : String) (channel : Nat) :
    Reader StreamEvent → Reader StreamEvent :=
  Reader.poll TaskEvent.isTerminal channelCapacity (s.hub.sent channel) (s.hub.isOpen channel)
    (fun event => [event.streamEvent]) ((s.store.get now id).bind storedEnding).toList

/-- The event is a success exactly where the record is one, and an error has the
class under which the stored one is told. -/
def TellsEnd (rec : TaskRecord) (last : StreamEvent) : Prop :=
  (last.isDone = true ↔ rec.state = .completed) ∧
    ∀ error detail, last = .error error detail →
      error.errorClass = toldClass (rec.errorClass.getD "tool")

theorem tellsEnd_of_fits {rec : TaskRecord} {event : TaskEvent} (fits : event.Fits rec) :
    TellsEnd rec event.streamEvent := by
  cases event with
  | done value =>
    have completed : rec.state = .completed := fits
    exact ⟨iff_of_true rfl completed, fun _ _ absurd => by cases absurd⟩
  | failed errorClass message =>
    obtain ⟨failed, named⟩ := fits
    refine ⟨iff_of_false (by simp [TaskEvent.streamEvent, StreamEvent.isDone]) ?_, ?_⟩
    · rw [failed]
      exact fun absurd => by cases absurd
    · intro error detail same
      cases same
      rw [errorClass_errorOf, named]
      rfl
  | token | async | progress => exact fits.elim

theorem tellsEnd_storedEnding {rec : TaskRecord} (ended : rec.state.isTerminal = true) :
    ∃ last, storedEnding rec = some last ∧ last.isTerminal = true ∧ TellsEnd rec last := by
  unfold storedEnding
  cases state : rec.state with
  | submitted | working =>
    rw [state] at ended
    cases ended
  | completed =>
    refine ⟨_, rfl, rfl, iff_of_true rfl state, ?_⟩
    exact fun _ _ absurd => by cases absurd
  | failed =>
    refine ⟨_, rfl, rfl, iff_of_false (by simp [StreamEvent.isDone]) ?_, ?_⟩
    · rw [state]
      exact fun absurd => by cases absurd
    · intro error detail same
      cases same
      exact errorClass_errorOf _ _

section Couriers

variable {s : System} {task : String} {tx : Nat} {now : Int}

/-- A round of a courier keeps it on the way to its one ending. -/
theorem heeds_asStreamEvents (telling : s.Telling task) (attached : s.Attached task tx)
    (assured : s.Assured task tx) (shown : s.store.get now task = s.store.getRaw task)
    {reader : Reader StreamEvent}
    (heeds : s.Heeds StreamEvent.isTerminal TellsEnd task tx reader) :
    s.Heeds StreamEvent.isTerminal TellsEnd task tx (asStreamEvents s now task tx reader) := by
  apply heeds.poll attached telling (by decide)
  apply attached.tells telling assured
  · intro event goes
    exact List.forall_mem_singleton.mpr ((event.isTerminal_streamEvent).trans goes)
  · intro event terminal
    have isLast := (event.isTerminal_streamEvent).trans terminal
    exact ⟨_, endsWith_singleton isLast, fun _ _ fits => tellsEnd_of_fits fits⟩
  · intro rec stored ended
    obtain ⟨last, told, isLast, tells⟩ := tellsEnd_storedEnding ended
    rw [shown, stored, Option.bind_some, told]
    exact ⟨last, endsWith_singleton isLast, tells⟩

end Couriers

/-! ## A2A clients -/

/-- A frame of an A2A stream: the task as it is, the answer of a completed task,
or a change of its status. -/
inductive Frame where
  | task (rec : TaskRecord)
  | artifact (rec : TaskRecord)
  | status (taskId contextId : String) (state : TaskState) (text : Option String)
      (metadata : Option Value)

/-- A status from which there is no way on. -/
def Frame.isTerminal : Frame → Bool
  | .status _ _ state _ _ => state.isTerminal
  | .task _ | .artifact _ => false

/-- How far a task says it is; left out where it says nothing. -/
def progressMetadata (p : Progress) : Option Value :=
  let percent := p.percent.map fun n => ("percent", Value.number (.posInt n.toNat))
  let step := p.step.map fun name => ("step", Value.string name)
  let members := percent.toList ++ step.toList
  if members.isEmpty then none else some (.object members)

/-- The frames of an event. -/
def framesFor (rec : TaskRecord) : TaskEvent → List Frame
  | .token _ => []
  | .async _ checkAfterSeconds _ _ =>
    let metadata := checkAfterSeconds.map fun n =>
      Value.object [("checkAfterSeconds", .number (.posInt n))]
    [.status rec.id rec.contextId .working none metadata]
  | .progress p => [.status rec.id rec.contextId .working (some p.text) (progressMetadata p)]
  | .done _ =>
    [.artifact { rec with state := .completed },
      .status rec.id rec.contextId .completed none none]
  | .failed errorClass message =>
    [.status rec.id rec.contextId .failed (some (userText errorClass message)) none]

/-- The event that a finished record stands for. -/
def storedEvent (rec : TaskRecord) : TaskEvent :=
  match rec.state with
  | .completed => .done .null
  | _ => .failed (rec.errorClass.getD "tool") (rec.error.getD "")

/-- The last frames of a stream whose channel is closed. -/
def closingFrames : Option TaskRecord → List Frame
  | some rec => if rec.state.isTerminal then framesFor rec (storedEvent rec) else []
  | none => []

/-- One round of `task_stream`, after the frame of the task as it was `first`. -/
def taskStream (s : System) (now : Int) (first : TaskRecord) (channel : Nat) :
    Reader Frame → Reader Frame :=
  Reader.poll TaskEvent.isTerminal channelCapacity (s.hub.sent channel) (s.hub.isOpen channel)
    (fun event => framesFor ((s.store.get now first.id).getD first) event)
    (closingFrames (s.store.get now first.id))

/-- The frame has the state of the record, and the text of a failure is made from
its class. -/
def ShowsEnd (rec : TaskRecord) (last : Frame) : Prop :=
  ∃ taskId contextId text metadata, last = .status taskId contextId rec.state text metadata ∧
    (rec.state = .failed → ∃ message, text = some (userText (rec.errorClass.getD "tool") message))

/-- The frames of an ending end with its status. -/
theorem endsWith_framesFor (rec : TaskRecord) {event : TaskEvent}
    (terminal : event.isTerminal = true) :
    ∃ last, EndsWith Frame.isTerminal (framesFor rec event) last ∧
      ∀ stored, event.Fits stored → ShowsEnd stored last := by
  cases event with
  | token | async | progress => cases terminal
  | done value =>
    refine ⟨_, ⟨[_], rfl, List.forall_mem_singleton.mpr rfl, rfl⟩, ?_⟩
    intro stored completed
    have completed : stored.state = .completed := completed
    refine ⟨_, _, _, _, by rw [completed], ?_⟩
    rw [completed]
    exact fun absurd => by cases absurd
  | failed errorClass message =>
    refine ⟨_, endsWith_singleton rfl, ?_⟩
    rintro stored ⟨failed, named⟩
    refine ⟨_, _, _, _, by rw [failed], ?_⟩
    rw [named]
    exact fun _ => ⟨message, rfl⟩

theorem endsWith_closingFrames {rec : TaskRecord} (ended : rec.state.isTerminal = true) :
    ∃ last, EndsWith Frame.isTerminal (closingFrames (some rec)) last ∧ ShowsEnd rec last := by
  rw [closingFrames, if_pos ended]
  unfold storedEvent
  cases state : rec.state with
  | submitted | working =>
    rw [state] at ended
    cases ended
  | completed =>
    have terminal : (TaskEvent.done .null).isTerminal = true := rfl
    obtain ⟨last, ends, shows⟩ := endsWith_framesFor rec terminal
    exact ⟨last, ends, shows rec state⟩
  | failed =>
    refine ⟨_, endsWith_singleton rfl, _, _, _, _, by rw [state], ?_⟩
    exact fun _ => ⟨rec.error.getD "", rfl⟩

/-- A round of a client keeps it on the way to its one ending. -/
theorem heeds_taskStream {s : System} {task : String} {tx : Nat} {now : Int}
    (telling : s.Telling task) (attached : s.Attached task tx) (assured : s.Assured task tx)
    (shown : s.store.get now task = s.store.getRaw task) {first : TaskRecord}
    (named : first.id = task) {reader : Reader Frame}
    (heeds : s.Heeds Frame.isTerminal ShowsEnd task tx reader) :
    s.Heeds Frame.isTerminal ShowsEnd task tx (taskStream s now first tx reader) := by
  apply heeds.poll attached telling (by decide)
  apply attached.tells telling assured
  · intro event goes
    cases event with
    | token => exact fun _ member => by cases member
    | async | progress => exact List.forall_mem_singleton.mpr rfl
    | done | failed => cases goes
  · intro event terminal
    obtain ⟨last, ends, shows⟩ := endsWith_framesFor _ terminal
    exact ⟨last, ends, fun rec _ fits => shows rec fits⟩
  · intro rec stored ended
    rw [named, shown, stored]
    exact endsWith_closingFrames ended

/-! ## The service and its readers -/

/-- Who follows a task. -/
inductive Audience where
  | courier
  | client
  deriving DecidableEq, Repr

/-- What a caller of `start` or `ensure_running` gets: the record it holds,
whether it asks for a task that was there, and its receiver. -/
structure Subscription where
  given : TaskRecord
  resubscribes : Bool
  rx : Receiver

/-- A reader. A client has its subscription before it reads the task as it is
now; one that asks again for a task that is over by then is refused. -/
inductive Subscriber where
  | courier (id : String) (channel : Nat) (reader : Reader StreamEvent)
  | caller (asked : Subscription)
  | client (first : TaskRecord) (channel : Nat) (reader : Reader Frame)
  | refused (given : TaskRecord) (error : A2aError)

namespace Subscriber

/-- The task that is followed. -/
def task : Subscriber → String
  | .courier id _ _ => id
  | .caller asked => asked.given.id
  | .client first _ _ => first.id
  | .refused given _ => given.id

/-- The channel that is read. -/
def channel : Subscriber → Option Nat
  | .courier _ channel _ | .client _ channel _ => some channel
  | .caller asked => some asked.rx.channel
  | .refused _ _ => none

/-- Has the stream ended? -/
def isOver : Subscriber → Bool
  | .courier _ _ reader => reader.isOver
  | .client _ _ reader => reader.isOver
  | .caller _ => false
  | .refused _ _ => true

def join (asked : Subscription) : Audience → Subscriber
  | .courier => .courier asked.given.id asked.rx.channel ⟨asked.rx.position, [], false⟩
  | .client => .caller asked

/-- One round of a reader. -/
def read (s : System) (now : Int) : Subscriber → Subscriber
  | .courier id channel reader => .courier id channel (asStreamEvents s now id channel reader)
  | .caller asked =>
    let first := (s.store.get now asked.given.id).getD asked.given
    if asked.resubscribes && first.state.isTerminal then
      .refused asked.given (.unsupported "The task is finished; read it with GetTask")
    else
      .client first asked.rx.channel ⟨asked.rx.position, [.task first], first.state.isTerminal⟩
  | .client first channel reader => .client first channel (taskStream s now first channel reader)
  | .refused given error => .refused given error

end Subscriber

/-- The subscription a step hands to its caller. A live task gives one at once; a
start and a claim give theirs with the runner they spawn. -/
def subscription (cfg : Runner) (s : System) : Label → Option Subscription
  | .ensure snapshot _ now =>
    if snapshot.state.isTerminal then none
    else
      match (s.hub.subscribeOrClaim s.store now snapshot.id).2 with
      | .live rx => some ⟨snapshot, true, rx⟩
      | .claimed _ _ _ | .finished => none
  | .move index turn =>
    match s.procs[index]?, (s.step cfg (.move index turn)).procs[index]? with
    | some (.starting call tx), some (.running _) => some ⟨call.record, false, ⟨tx, 0⟩⟩
    | some (.claiming record _ tx), some (.running _) => some ⟨record, true, ⟨tx, 0⟩⟩
    | _, _ => none
  | .start _ | .tick _ | .restart _ => none

/-- The processes and the readers of one lifetime. -/
structure Service extends System where
  readers : List Subscriber

/-- A step of the system, whose caller may go on to follow the task; or a round
of a reader. -/
inductive Act where
  | turn (label : Label) (audience : Option Audience)
  | read (index : Nat) (now : Int)

/-- Does the act start the task? -/
def Act.starts (task : String) : Act → Bool
  | .turn label _ => label.starts task
  | .read _ _ => false

namespace Service

def init (db : Option Database) : Service := ⟨System.init db, []⟩

/-- The readers that outlive a step. -/
def survivors (readers : List Subscriber) : Label → List Subscriber
  | .restart _ => []
  | .start _ | .ensure _ _ _ | .move _ _ | .tick _ => readers

/-- The reader that a step brings. -/
def joined (cfg : Runner) (s : System) (label : Label) : Option Audience → List Subscriber
  | none => []
  | some audience => ((subscription cfg s label).map fun asked => .join asked audience).toList

def step (cfg : Runner) (w : Service) : Act → Service
  | .turn label audience =>
    ⟨w.toSystem.step cfg label,
      survivors w.readers label ++ joined cfg w.toSystem label audience⟩
  | .read index now => ⟨w.toSystem, w.readers.modify index (Subscriber.read w.toSystem now)⟩

/-- The store takes what is written of the task, keeps its record, reads it and shows it
to its readers, who find it there; only a courier that comes with the task may come
before it is stored. -/
def Calm (cfg : Runner) (task : String) (w : Service) : Act → Prop
  | .turn label audience =>
    w.toSystem.Spares cfg task label ∧
      ∀ asked, subscription cfg w.toSystem label = some asked → asked.given.id = task →
        audience = some .client ∨ audience = some .courier ∧ asked.resubscribes = true →
        ((w.toSystem.step cfg label).store.getRaw task).isSome = true
  | .read index now =>
    ∀ reader, w.readers[index]? = some reader → reader.task = task →
      w.store.get now task = w.store.getRaw task

end Service

end Triton.Http
