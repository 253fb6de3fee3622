/-
# The working card of a Teams task

While an asynchronous task runs, the courier keeps one card in the conversation
and replaces it in place: when a step arrives, when a held step's throttle
window closes, and now and then for the timer in its header. An update runs
beside the loop that reads the events. The loop waits for the end of the update,
for the next event or for the flush instant it armed, whichever comes first and
in this order.

A courier is driven by what it finds when it wakes up, at any time and after any
time spent on an event. Updates start one after the other, a second apart, and
not after the answer is known; and a step that no update has shown yet always
has a flush instant, at which an update starts and shows it.
-/

import Triton.Chat.ConversationCard
import Triton.Chat.TeamsReply
import Triton.Lib.History

namespace Triton.Chat.Msteams

open Triton.Lib Triton.Core
open Triton.Lib.Record (str)

/-- Milliseconds in the unit of the monotonic clock, which is nanoseconds. -/
def millis (n : ℕ) : ℕ := n * 1000000

def connectorTimeout : ℕ := millis 10000

def inPlaceSettle : ℕ := millis 1500

def cardUpdateEvery : ℕ := millis 1000

def cardTickEvery : ℕ := millis 10000

def cardTickFastFor : ℕ := millis 120000

def cardTickSlow : ℕ := millis 60000

/-- An instant before the clock's origin cannot be written. -/
def checkedSub (now back : ℕ) : Option ℕ := if back ≤ now then some (now - back) else none

/-! ## The card -/

structure TaskCard where
  activityId : Option String
  started : ℕ
  lastUpdate : ℕ
  pending : Bool
  receipt : Option String
  steps : List String
  note : Option String
  refresh : Option (String × String)
  notBefore : Option ℕ

/-- Where the card lives. -/
structure Target where
  serviceUrl : String
  conversationId : String
  botId : String
  userId : String
  tenant : String

namespace TaskCard

/-- The first step is due at once. -/
def new (receipt : Option String) (now : ℕ) : TaskCard where
  activityId := none
  started := now
  lastUpdate := (checkedSub now cardUpdateEvery).getD now
  pending := false
  receipt
  steps := []
  note := none
  refresh := none
  notBefore := none

/-- A clicked card that becomes the working card. Its first update waits for the
response to the click. -/
def clicked (id : String) (refresh : Option (String × String)) (now : ℕ) : TaskCard :=
  { new none now with activityId := some id, refresh, notBefore := some (now + inPlaceSettle) }

/-- The card of a task that is resumed after a restart. -/
def resumed (receipt : Option String) (age : ℕ) (activityId : String) (now : ℕ) : TaskCard :=
  let card := new receipt now
  { card with started := (checkedSub now age).getD card.started, activityId := some activityId }

/-- A text member of an event, clamped to what a message may hold. -/
def textOf (v : Value) (key : String) (accepts : String → Bool) : Option String :=
  (((v.get key).bind Value.asStr).filter accepts).map clampPlainText

variable (card : TaskCard)

/-- The upstream went asynchronous: its receipt names the card, its note goes under
the steps. -/
def task (v : Value) : TaskCard :=
  { card with
    receipt := (textOf v "receipt" (!·.isEmpty)).or card.receipt
    note := (textOf v "note" (!·.isEmpty)).or card.note
    pending := true }

/-- The step an event tells, if it tells one. -/
def stepOf (v : Value) : Option String := textOf v "text" fun t => !(Text.trim t).isEmpty

/-- One more step, unless it repeats the last one. The card keeps six. -/
def addStep (steps : List String) (step : String) : List String :=
  let steps := if steps.getLast? = some step then steps else steps ++ [step]
  if 6 < steps.length then steps.tail else steps

def progress (v : Value) : TaskCard :=
  { card with
    steps := (stepOf v).elim card.steps (addStep card.steps)
    pending := true }

/-- Throttled: the card with its held step marked as shown, if an update is to be sent
now. -/
def due (now : ℕ) : Option TaskCard :=
  if card.notBefore.any (now < ·) then none
  else if cardUpdateEvery ≤ now - card.lastUpdate then
    some { card with lastUpdate := now, pending := false }
  else none

/-- When the card is next pushed: a held step when the throttle window closes, else at
the next tick of the timer. -/
def flushAt (now : ℕ) : Option ℕ :=
  card.activityId.map fun _ =>
    let tickEvery := if now - card.started < cardTickFastFor then cardTickEvery else cardTickSlow
    let tick := card.lastUpdate + tickEvery
    let instant := if card.pending then min (card.lastUpdate + cardUpdateEvery) tick else tick
    card.notBefore.elim instant (max instant)

/-- Minutes and seconds. -/
def timer (secs : ℕ) : String :=
  let rest := toString (secs % 60)
  toString (secs / 60) ++ ":" ++ (if secs % 60 < 10 then "0" ++ rest else rest)

/-- The current step is marked apart from the ones that are done. -/
def stepLine (last : Bool) (step : String) : Value :=
  element "TextBlock" [("wrap", flag true), ("spacing", str "Small"),
    ("text", str ((if last then "…" else "✓") ++ " " ++ step)), ("isSubtle", flag last)]

/-- The elements of the card, as they are at an instant. -/
def blocks (now : ℕ) : List Value :=
  header (card.receipt.getD "Working on it") none
      (some (timer ((now - card.started) / 1000000000))) ++
    card.steps.mapIdx (fun i step => stepLine (i + 1 == card.steps.length) step) ++
    optionally card.note fun note =>
      element "TextBlock" [("wrap", flag true), ("isSubtle", flag true), ("size", str "Small"),
        ("text", str note)]

def content (now : ℕ) : Value :=
  Record.object [
    ("$schema", str "http://adaptivecards.io/schemas/adaptive-card.json"),
    ("type", str "AdaptiveCard"), ("version", str "1.5"), ("body", items (card.blocks now)),
    ("refresh", card.refresh.map fun (token, user) => Record.object [
      ("action", some (Record.object [("type", str "Action.Execute"), ("verb", str actionVerb),
        ("data", some (Record.object [(tokenDataKey, str token)]))])),
      ("userIds", items [.string user])])]

def activity (now : ℕ) (target : Target) : Value :=
  Record.object [
    ("type", str "message"),
    ("from", some (Record.object [("id", str target.botId)])),
    ("conversation", some (Record.object [("id", str target.conversationId)])),
    ("recipient", some (Record.object [("id", str target.userId)])),
    ("attachments", items [Record.object [
      ("contentType", str "application/vnd.microsoft.card.adaptive"),
      ("content", some (card.content now))]])]

/-- The elements of the first card in an activity. -/
def shownBlocks (activity : Value) : List Value :=
  let attachments := ((activity.get "attachments").bind Value.asArray).getD []
  let content := attachments.head?.bind (·.get "content")
  ((content.bind (·.get "body")).bind Value.asArray).getD []

end TaskCard

/-! ## The writer -/

structure CardWriter where
  target : Target
  inflight : Option ℕ := none
  closed : Bool := false

namespace CardWriter

variable (writer : CardWriter)

/-- Start an update of the card if one is due and none is in flight: the writer and the
card after it, and what is sent. -/
def update (card : TaskCard) (now : ℕ) : Option (CardWriter × TaskCard × Value) :=
  if writer.closed || writer.inflight.isSome then none
  else if card.activityId.isNone then none
  else (card.due now).map fun shown =>
    ({ writer with inflight := some now }, shown, shown.activity now writer.target)

def flushAt (card : Option TaskCard) (now : ℕ) : Option ℕ :=
  if writer.closed || writer.inflight.isSome then none else card.bind (·.flushAt now)

end CardWriter

/-! ## The courier -/

/-- Updates that started and ended, and the answer that stopped them. -/
inductive CardDeed where
  | started (instant : ℕ) (body : Value)
  | ended (instant : ℕ)
  | closed

inductive CourierStage where
  | looping
  | settling (started : ℕ)
  | settled
  deriving DecidableEq

/-- A courier at the head of its loop, or after it. `armed` is the flush instant it
waits for, `latest` the step that was told last. -/
structure Courier where
  live : Bool
  refresh : Option (String × String)
  clock : ℕ
  card : Option TaskCard
  writer : CardWriter
  armed : Option ℕ
  stage : CourierStage := .looping
  latest : Option String := none
  log : List CardDeed := []

/-- What a courier finds after some time: whether the update in flight has finished,
what the stream has ready (its end is `some none`), the activity id a posted card
gets, and how long its handling takes. -/
structure Wake where
  passed : ℕ
  putDone : Bool
  ready : Option (Option StreamEvent)
  posted : Option String
  busy : ℕ

inductive CardTurn where
  | event (event : Option StreamEvent)
  | flush
  | written

namespace Courier

variable (s : Courier)

def update (card : TaskCard) : Courier :=
  match s.writer.update card s.clock with
  | some (writer, shown, body) =>
    { s with writer, card := some shown, log := s.log ++ [.started s.clock body] }
  | none => { s with card := some card }

def close : Courier :=
  { s with writer := { s.writer with closed := true }, log := s.log ++ [.closed] }

/-- The answer is next, after the update in flight. -/
def settle : Courier :=
  let s := s.close
  match s.writer.inflight with
  | some started =>
    { s with writer := { s.writer with inflight := none }, stage := .settling started }
  | none => { s with stage := .settled }

/-- The card a task event opens. The post shows the receipt, so nothing is held. -/
def openCard (v : Value) (posted : Option String) : TaskCard :=
  { (TaskCard.new none s.clock).task v with
    pending := false, refresh := s.refresh, activityId := posted }

/-- A resumed courier has its card from the start and lets task events go. -/
def onEvent (posted : Option String) : Option StreamEvent → Courier
  | some (.task v) =>
    if s.live then
      match s.card with
      | none => { s with card := some (s.openCard v posted) }
      | some card => s.update (card.task v)
    else s
  | some (.progress v) =>
    match s.card with
    | some card =>
      ({ s with latest := (TaskCard.stepOf v).or s.latest } : Courier).update (card.progress v)
    | none => s
  | some (.done _) | some (.error _ _) => s.close
  | some (.token _) | some (.tool _) => s
  | none => s.settle

def onTurn (posted : Option String) : CardTurn → Courier
  | .written =>
    { s with
      writer := { s.writer with inflight := none }, log := s.log ++ [.ended s.clock] }
  | .flush => s.card.elim s s.update
  | .event event => s.onEvent posted event

/-- The end of an update goes before an event, and an event before a flush. -/
def nextCardTurn (wake : Wake) : Option CardTurn :=
  if s.writer.inflight.isSome && wake.putDone then some .written
  else
    match wake.ready with
    | some event => some (.event event)
    | none => (s.armed.filter (· ≤ s.clock)).map fun _ => .flush

/-- The head of the loop: the flush instant is armed for the next turn. -/
def rearm (busy : ℕ) : Courier :=
  { s with
    clock := s.clock + busy
    armed := s.writer.flushAt s.card (s.clock + busy) }

def elapse (passed : ℕ) : Courier := { s with clock := s.clock + passed }

def step (wake : Wake) : Courier :=
  let s := s.elapse wake.passed
  match s.stage with
  | .looping =>
    match s.nextCardTurn wake with
    | some turn => (s.onTurn wake.posted turn).rearm wake.busy
    | none => s
  | .settling started =>
    if wake.putDone || started + connectorTimeout ≤ s.clock then
      { s with stage := .settled, log := s.log ++ [.ended s.clock] }
    else s
  | .settled => s

end Courier

/-- How a courier begins: on a fresh request, perhaps with the card that was clicked, or
for a task that is resumed, perhaps with its card. The loop starts some time after
the card was made. -/
inductive CourierStart where
  | live (clicked : Option String) (refresh : Option (String × String))
  | resumed (card : Option String) (receipt note : Option String) (age : ℕ)
      (refresh : Option (String × String))

def CourierStart.card (now : ℕ) : CourierStart → Option TaskCard
  | .live clicked refresh => clicked.map fun id => .clicked id refresh now
  | .resumed card receipt note age refresh =>
    card.map fun id => { TaskCard.resumed receipt age id now with note, refresh }

def CourierStart.begin (start : CourierStart) (target : Target) (now waited : ℕ) : Courier :=
  let writer : CardWriter := { target }
  match start with
  | .live _ refresh =>
    { live := true, refresh, clock := now + waited, card := start.card now, writer,
      armed := writer.flushAt (start.card now) (now + waited) }
  | .resumed _ _ _ _ refresh =>
    { live := false, refresh, clock := now + waited, card := start.card now, writer,
      armed := writer.flushAt (start.card now) (now + waited) }

/-! ## What a card shows and when -/

namespace TaskCard

variable {card : TaskCard} {now : ℕ}

theorem getLast?_addStep (steps : List String) (step : String) :
    (addStep steps step).getLast? = some step := by
  have added : (if steps.getLast? = some step then steps else steps ++ [step]).getLast? =
      some step := by
    split
    case isTrue last => exact last
    case isFalse => simp
  by_cases long : 6 < (if steps.getLast? = some step then steps else steps ++ [step]).length
  · rw [addStep, if_pos long, List.getLast?_tail, if_neg (by omega), added]
  · rw [addStep, if_neg long, added]

theorem getLast?_progress (card : TaskCard) (v : Value) :
    (card.progress v).steps.getLast? = (stepOf v).or card.steps.getLast? := by
  rw [progress]
  cases stepOf v with
  | none => rfl
  | some step => exact getLast?_addStep card.steps step

/-- Not before the settle delay is over, and a second after the last update. -/
structure Due (card : TaskCard) (now : ℕ) : Prop where
  settled : ∀ first, card.notBefore = some first → first ≤ now
  apart : card.lastUpdate + cardUpdateEvery ≤ now

def shown (card : TaskCard) (now : ℕ) : TaskCard :=
  { card with lastUpdate := now, pending := false }

theorem due_eq_of_due (due : Due card now) : card.due now = some (card.shown now) := by
  have settled : card.notBefore.any (now < ·) = false := by
    cases wanted : card.notBefore with
    | none => rfl
    | some first =>
      have reached := due.settled first wanted
      simp [reached]
  have apart : cardUpdateEvery ≤ now - card.lastUpdate := Nat.le_sub_of_add_le' due.apart
  simp [TaskCard.due, settled, apart, shown]

theorem due_eq_some {after : TaskCard} (due : card.due now = some after) :
    Due card now ∧ after = card.shown now := by
  unfold TaskCard.due at due
  split at due
  case isTrue => cases due
  case isFalse settled =>
    split at due
    case isFalse => cases due
    case isTrue apart =>
      have positive : 0 < cardUpdateEvery := by decide
      refine ⟨⟨?_, by omega⟩, (Option.some.inj due).symm⟩
      intro first wanted
      simpa [wanted] using settled

/-- When a held step is due. -/
def dueAt (card : TaskCard) : ℕ :=
  card.notBefore.elim (card.lastUpdate + cardUpdateEvery)
    (max (card.lastUpdate + cardUpdateEvery))

theorem due_of_dueAt_le (reached : card.dueAt ≤ now) : Due card now := by
  unfold dueAt at reached
  cases wanted : card.notBefore with
  | none =>
    rw [wanted, Option.elim_none] at reached
    exact ⟨by simp [wanted], reached⟩
  | some first =>
    rw [wanted, Option.elim_some, Nat.max_le] at reached
    refine ⟨?_, reached.1⟩
    intro other same
    rw [wanted] at same
    exact Option.some.inj same ▸ reached.2

/-- The timer never ticks before a held step is due. -/
theorem flushAt_of_pending {id : String} (given : card.activityId = some id)
    (pending : card.pending = true) (now : ℕ) : card.flushAt now = some card.dueAt := by
  have window : ∀ every, cardTickEvery ≤ every →
      min (card.lastUpdate + cardUpdateEvery) (card.lastUpdate + every) =
        card.lastUpdate + cardUpdateEvery := by
    intro every long
    have short : cardUpdateEvery ≤ cardTickEvery := by decide
    exact Nat.min_eq_left (Nat.add_le_add_left (Nat.le_trans short long) _)
  have slow : cardTickEvery ≤ cardTickSlow := by decide
  rw [flushAt, given, Option.map_some, dueAt]
  simp only [pending, if_true]
  split
  case isTrue => rw [window cardTickEvery (Nat.le_refl _)]
  case isFalse => rw [window cardTickSlow slow]

theorem shownBlocks_activity (card : TaskCard) (now : ℕ) (target : Target) :
    shownBlocks (card.activity now target) = card.blocks now := by
  simp [shownBlocks, activity, content, items, Value.asArray]

theorem stepLine_mem_blocks {step : String} (last : card.steps.getLast? = some step) (now : ℕ) :
    stepLine true step ∈ card.blocks now := by
  obtain ⟨before, steps⟩ := List.getLast?_eq_some_iff.mp last
  refine List.mem_append_left _ (List.mem_append_right _ ?_)
  rw [steps, List.mapIdx_append]
  simp

end TaskCard

namespace CardWriter

variable {writer : CardWriter} {card : TaskCard} {now : ℕ}

theorem update_of_due {id : String} (opened : writer.closed = false)
    (idle : writer.inflight = none) (given : card.activityId = some id) (due : card.Due now) :
    writer.update card now = some ({ writer with inflight := some now }, card.shown now,
      (card.shown now).activity now writer.target) := by
  simp [update, opened, idle, given, TaskCard.due_eq_of_due due]

end CardWriter

/-! ## What every run keeps -/

def CardDeed.flies : Bool → CardDeed → Bool
  | _, .started _ _ => true
  | _, .ended _ => false
  | before, .closed => before

/-- An update has started and not ended. -/
def underWay (log : List CardDeed) : Bool := log.foldl CardDeed.flies false

/-- What a deed needs before it: no update in flight, no answer, and a second since
every earlier start. -/
def Orderly (before : List CardDeed) : CardDeed → Prop
  | .started instant _ =>
    underWay before = false ∧ .closed ∉ before ∧
      ∀ earlier body, .started earlier body ∈ before → earlier + cardUpdateEvery ≤ instant
  | .ended _ => underWay before = true
  | .closed => True

theorem underWay_concat (log : List CardDeed) (deed : CardDeed) :
    underWay (log ++ [deed]) = CardDeed.flies (underWay log) deed := List.foldl_concat ..

namespace Courier

/-- An update is in flight: beside the loop, or while the courier settles. -/
def isWriting (s : Courier) : Bool :=
  match s.stage with
  | .settling _ => true
  | .looping | .settled => s.writer.inflight.isSome

structure Invariant (s : Courier) : Prop where
  obeys : Obeys Orderly s.log
  flight : underWay s.log = s.isWriting
  closed : .closed ∈ s.log → s.writer.closed = true
  stopped : s.stage ≠ .looping → s.writer.closed = true ∧ s.writer.inflight = none
  spaced : ∀ earlier body, .started earlier body ∈ s.log →
    ∃ card, s.card = some card ∧ earlier ≤ card.lastUpdate ∧
      ∀ first, card.notBefore = some first → first ≤ earlier
  latest : s.card.bind (·.steps.getLast?) = s.latest

/-- The flush instant a looping courier waits for is that of its card. -/
def IsArmed (s : Courier) : Prop :=
  s.stage = .looping → ∃ since, s.armed = s.writer.flushAt s.card since

variable {s : Courier} {card : TaskCard} {latest : Option String}

theorem isWriting_of_looping (looping : s.stage = .looping) :
    s.isWriting = s.writer.inflight.isSome := by
  rw [isWriting, looping]

/-- The card of the courier, changed by an event: neither its last update nor its
settle delay, and its last step is now the latest one. -/
structure Changes (s : Courier) (card : TaskCard) (latest : Option String) : Prop where
  kept : ∃ old, s.card = some old ∧ card.lastUpdate = old.lastUpdate ∧
    card.notBefore = old.notBefore
  latest : card.steps.getLast? = latest

section Kept

variable (invariant : s.Invariant)

include invariant

theorem Changes.spaced (changes : s.Changes card latest) {earlier : ℕ} {body : Value}
    (member : .started earlier body ∈ s.log) :
    earlier ≤ card.lastUpdate ∧ ∀ first, card.notBefore = some first → first ≤ earlier := by
  obtain ⟨old, there, updated, wanted⟩ := changes.kept
  obtain ⟨other, same, rest⟩ := invariant.spaced earlier body member
  rw [there] at same
  cases same
  rwa [updated, wanted]

/-- An update that does not start leaves the changed card. -/
theorem Invariant.held (changes : s.Changes card latest) :
    Invariant { s with latest, card := some card } :=
  { invariant with
    spaced := fun _ _ member => ⟨card, rfl, changes.spaced invariant member⟩
    latest := changes.latest }

theorem Invariant.close : s.close.Invariant where
  obeys := Obeys.concat_iff.mpr ⟨invariant.obeys, trivial⟩
  flight := (underWay_concat s.log .closed).trans invariant.flight
  closed _ := rfl
  stopped ended := ⟨rfl, (invariant.stopped ended).2⟩
  spaced earlier body member :=
    invariant.spaced earlier body (by simpa [Courier.close] using member)
  latest := invariant.latest

/-- A task event opens a card when there was none, and nothing had started. -/
theorem Invariant.opened (none : s.card = none) (v : Value) (posted : Option String) :
    Invariant { s with card := some (s.openCard v posted) } :=
  { invariant with
    spaced := by
      intro earlier body member
      obtain ⟨card, there, _⟩ := invariant.spaced earlier body member
      rw [none] at there
      cases there
    latest := by
      rw [← invariant.latest, none]
      rfl }

variable (looping : s.stage = .looping)

include looping

/-- An update that starts is allowed to. -/
theorem Invariant.started {body : Value} (changes : s.Changes card latest)
    (opened : s.writer.closed = false) (idle : s.writer.inflight = none)
    (due : card.Due s.clock) :
    Invariant { s with
      writer := { s.writer with inflight := some s.clock }
      latest
      card := some (card.shown s.clock)
      log := s.log ++ [.started s.clock body] } where
  obeys := by
    refine Obeys.concat_iff.mpr ⟨invariant.obeys, ?_, ?_, ?_⟩
    · rw [invariant.flight, isWriting_of_looping looping, idle]
      rfl
    · intro member
      rw [invariant.closed member] at opened
      cases opened
    · intro earlier body member
      have before := (changes.spaced invariant member).1
      exact Nat.le_trans (Nat.add_le_add_right before _) due.apart
  flight := by
    rw [underWay_concat, isWriting, looping]
    rfl
  closed := by
    intro member
    exact invariant.closed (by simpa using member)
  stopped ended := absurd looping ended
  spaced := by
    intro earlier body member
    refine ⟨_, rfl, ?_⟩
    rcases List.mem_append.mp member with older | new
    · obtain ⟨before, wanted⟩ := changes.spaced invariant older
      have apart := due.apart
      exact ⟨by simp only [TaskCard.shown]; omega, wanted⟩
    · cases List.mem_singleton.mp new
      exact ⟨Nat.le_refl _, due.settled⟩
  latest := changes.latest

theorem Invariant.update (changes : s.Changes card latest) :
    (({ s with latest } : Courier).update card).Invariant := by
  unfold Courier.update
  split
  case h_1 writer shown body started =>
    unfold CardWriter.update at started
    split at started
    case isTrue => cases started
    case isFalse idle =>
      split at started
      case isTrue => cases started
      case isFalse =>
        obtain ⟨same, due, built⟩ := Option.map_eq_some_iff.mp started
        obtain ⟨isDue, rfl⟩ := TaskCard.due_eq_some due
        cases built
        simp only [Bool.or_eq_true, not_or, Bool.not_eq_true, Option.isSome_eq_false_iff,
          Option.isNone_iff_eq_none] at idle
        exact invariant.started looping changes idle.1 idle.2 isDue
  case h_2 => exact invariant.held changes

theorem Invariant.settle : s.settle.Invariant := by
  have closed := invariant.close
  have flight := closed.flight
  rw [isWriting_of_looping (s := s.close) looping] at flight
  unfold Courier.settle
  simp only
  split
  case h_1 started inflight =>
    rw [inflight] at flight
    exact { closed with flight := flight, stopped := fun _ => ⟨rfl, rfl⟩ }
  case h_2 idle => exact { closed with flight := flight, stopped := fun _ => ⟨rfl, idle⟩ }

theorem Invariant.written (inflight : s.writer.inflight.isSome = true)
    (posted : Option String) : (s.onTurn posted .written).Invariant where
  obeys := by
    refine Obeys.concat_iff.mpr ⟨invariant.obeys, ?_⟩
    rw [Orderly, invariant.flight, isWriting_of_looping looping]
    exact inflight
  flight := by
    rw [onTurn, underWay_concat, isWriting, looping]
    rfl
  closed member := invariant.closed (by simpa [onTurn] using member)
  stopped ended := absurd looping ended
  spaced earlier body member := invariant.spaced earlier body (by simpa [onTurn] using member)
  latest := invariant.latest

theorem Invariant.onEvent (posted : Option String) (event : Option StreamEvent) :
    (s.onEvent posted event).Invariant := by
  cases event with
  | none => exact invariant.settle looping
  | some event =>
    cases event with
    | task v =>
      simp only [Courier.onEvent]
      split
      case isFalse => exact invariant
      case isTrue =>
        split
        case h_1 none => exact invariant.opened none v posted
        case h_2 card there =>
          refine invariant.update looping ⟨⟨card, there, rfl, rfl⟩, ?_⟩
          rw [← invariant.latest, there]
          rfl
    | progress v =>
      simp only [Courier.onEvent]
      split
      case h_2 => exact invariant
      case h_1 card there =>
        refine invariant.update looping ⟨⟨card, there, rfl, rfl⟩, ?_⟩
        rw [TaskCard.getLast?_progress, ← invariant.latest, there]
        rfl
    | done | error => exact invariant.close
    | token | tool => exact invariant

theorem Invariant.onTurn {wake : Wake} {turn : CardTurn}
    (next : s.nextCardTurn wake = some turn) :
    (s.onTurn wake.posted turn).Invariant := by
  cases turn with
  | written =>
    refine invariant.written looping ?_ wake.posted
    unfold nextCardTurn at next
    split at next
    case isTrue finished => exact (Bool.and_eq_true_iff.mp finished).1
    case isFalse =>
      split at next
      case h_1 => cases next
      case h_2 => simp at next
  | event event => exact invariant.onEvent looping wake.posted event
  | flush =>
    simp only [Courier.onTurn]
    cases there : s.card with
    | none => exact invariant
    | some card =>
      refine invariant.update looping ⟨⟨card, there, rfl, rfl⟩, ?_⟩
      rw [← invariant.latest, there]
      rfl

end Kept

theorem invariant_step (s : Courier) (wake : Wake) (invariant : s.Invariant) :
    (s.step wake).Invariant := by
  have elapsed : (s.elapse wake.passed).Invariant := { invariant with }
  unfold step
  simp only
  split
  case h_1 looping =>
    split
    case h_1 turn next => exact { elapsed.onTurn looping next with }
    case h_2 => exact elapsed
  case h_2 started settling =>
    have stopped := invariant.stopped (by rw [show s.stage = _ from settling]; simp)
    split
    case isFalse => exact elapsed
    case isTrue =>
      have writing : s.isWriting = true := by rw [isWriting, show s.stage = _ from settling]
      refine ⟨Obeys.concat_iff.mpr ⟨invariant.obeys, invariant.flight.trans writing⟩, ?_, ?_,
        fun _ => stopped, ?_, invariant.latest⟩
      · rw [underWay_concat]
        simp [CardDeed.flies, isWriting, elapse, stopped.2]
      · intro member
        exact invariant.closed (by simpa [elapse] using member)
      · intro earlier body member
        exact invariant.spaced earlier body (by simpa [elapse] using member)
  case h_3 => exact elapsed

theorem isArmed_step (s : Courier) (wake : Wake) (armed : s.IsArmed) : (s.step wake).IsArmed := by
  unfold step
  simp only
  split
  case h_1 looping =>
    split
    case h_1 turn next => exact fun _ => ⟨_, rfl⟩
    case h_2 => exact armed
  case h_2 settling =>
    split
    case isTrue => nofun
    case isFalse => exact armed
  case h_3 => exact armed

/-- A card with a step that no update has shown, and nothing in flight, is flushed at an
instant: an update from then on starts and shows the latest step. -/
def Flushed (s : Courier) (card : TaskCard) : Prop :=
  ∃ instant, s.writer.flushAt (some card) s.clock = some instant ∧ s.armed = some instant ∧
    ∀ later, instant ≤ later → ∃ writer shown body,
      s.writer.update card later = some (writer, shown, body) ∧
        ∀ step, s.latest = some step → TaskCard.stepLine true step ∈ TaskCard.shownBlocks body

structure InOrder (s : Courier) : Prop where
  orderly : Obeys Orderly s.log
  flight : underWay s.log = s.isWriting
  settled : ∀ card first instant body, s.card = some card → card.notBefore = some first →
    .started instant body ∈ s.log → first ≤ instant
  fresh : ∀ card id, s.writer.closed = false → s.writer.inflight = none → s.card = some card →
    card.activityId = some id → card.pending = true → s.Flushed card

theorem Invariant.inOrder (invariant : s.Invariant) (armed : s.IsArmed) : s.InOrder where
  orderly := invariant.obeys
  flight := invariant.flight
  settled := by
    intro card first instant body there wanted member
    obtain ⟨other, same, _, after⟩ := invariant.spaced instant body member
    rw [there] at same
    cases same
    exact after first wanted
  fresh := by
    intro card id opened idle there given pending
    have looping : s.stage = .looping := by
      by_contra ended
      rw [(invariant.stopped ended).1] at opened
      cases opened
    have flush : ∀ now, s.writer.flushAt (some card) now = some card.dueAt := by
      intro now
      simp [CardWriter.flushAt, opened, idle, TaskCard.flushAt_of_pending given pending]
    obtain ⟨since, waits⟩ := armed looping
    rw [there, flush since] at waits
    refine ⟨card.dueAt, flush s.clock, waits, ?_⟩
    intro later reached
    have due := TaskCard.due_of_dueAt_le reached
    refine ⟨_, _, _, CardWriter.update_of_due opened idle given due, ?_⟩
    intro step last
    rw [TaskCard.shownBlocks_activity]
    apply TaskCard.stepLine_mem_blocks
    rw [← last, ← invariant.latest, there]
    rfl

/-- The working card is updated in order and never stays behind, however the courier
begins and whatever it finds. -/
theorem working_card_in_order (start : CourierStart) (target : Target) (now waited : ℕ)
    (wakes : List Wake) : (run step (start.begin target now waited) wakes).InOrder := by
  have begins : (start.begin target now waited).Invariant ∧
      (start.begin target now waited).IsArmed := by
    cases start with
    | live clicked refresh =>
      refine ⟨⟨.nil, rfl, nofun, nofun, nofun, ?_⟩, fun _ => ⟨_, rfl⟩⟩
      cases clicked <;> rfl
    | resumed card receipt note age refresh =>
      refine ⟨⟨.nil, rfl, nofun, nofun, nofun, ?_⟩, fun _ => ⟨_, rfl⟩⟩
      cases card <;> rfl
  have invariant := run_keeps invariant_step begins.1 wakes
  exact invariant.inOrder (run_keeps isArmed_step begins.2 wakes)

end Courier

end Triton.Chat.Msteams
