/-
# Event streams and their single finalizer

A streamed invocation is a sequence of typed events; `done` and `error` close
it. `Finalized` wraps a stream so that a callback runs once when the stream
ends, however it ends: with a terminal event, with an early close, or because
the consumer let go of it. The dispatcher hangs its audit line on that callback,
the upstream router its breaker update.
-/

import Triton.Core.Error
import Triton.Lib.Json

namespace Triton.Core

open Triton.Lib

/-- One event of a streamed invocation. The `detail` of an error is set only for
a limit the gateway itself imposed. -/
inductive StreamEvent where
  | tool (payload : Value)
  | token (delta : String)
  | task (payload : Value)
  | progress (payload : Value)
  | done (result : Value)
  | error (error : TritonError) (detail : Option String)

namespace StreamEvent

def isTerminal : StreamEvent → Bool
  | .done _ | .error _ _ => true
  | .tool _ | .token _ | .task _ | .progress _ => false

def isDone : StreamEvent → Bool
  | .done _ => true
  | _ => false

def failureDetail : StreamEvent → Option String
  | .error _ detail => detail
  | _ => none

def errorWithDetail (fault : TritonError) (detail : String) : StreamEvent :=
  .error fault (some detail)

/-- The event name on the wire. -/
def eventName : StreamEvent → String
  | .tool _ => "tool"
  | .token _ => "token"
  | .task _ => "task"
  | .progress _ => "progress"
  | .done _ => "done"
  | .error _ _ => "error"

/-- The payload on the wire. -/
def data : StreamEvent → Value
  | .tool payload | .done payload | .task payload | .progress payload => payload
  | .token delta => .object [("delta", .string delta)]
  | .error fault _ =>
    .object [("error", .string fault.errorClass), ("message", .string fault.display)]

section Wire

variable (json : JsonText)

/-- One frame of the wire form, with the blank line that ends it. -/
def toSseFrame (event : StreamEvent) : String :=
  "event: " ++ event.eventName ++ "\ndata: " ++ json.print event.data ++ "\n\n"

/-- A payload that is not JSON is taken as a string. -/
def parseValue (data : String) : Value := (json.parse data).getD (.string data)

/-- The event a frame stands for. An unknown name is opaque progress; an error
becomes a fault of the tool, whatever its class was. -/
def parse (event data : String) : StreamEvent :=
  match event with
  | "token" =>
    .token (((json.parse data).bind fun value => (value.get "delta").bind Value.asStr).getD data)
  | "done" => .done (parseValue json data)
  | "task" => .task (parseValue json data)
  | "progress" => .progress (parseValue json data)
  | "error" =>
    .error (.tool ((((parseValue json data).get "message").bind Value.asStr).getD data)) none
  | _ => .tool (parseValue json data)

/-- What an event has become after one hop over the wire: the class and the
detail of an error are not carried. -/
def relayed : StreamEvent → StreamEvent
  | .error fault _ => .error (.tool fault.display) none
  | event => event

theorem parse_data {event : StreamEvent} (exact : json.Exact event.data) :
    parse json event.eventName (json.print event.data) = event.relayed := by
  have value := exact.parse_print
  cases event with
  | tool payload | done payload | task payload | progress payload =>
    simp only [data] at value
    simp [eventName, data, parse, parseValue, relayed, value]
  | token delta =>
    simp only [data] at value
    simp [eventName, data, parse, relayed, value, Value.get, Members.get, Value.asStr]
  | error fault detail =>
    simp only [data] at value
    simp [eventName, data, parse, parseValue, relayed, value, Value.get, Members.get,
      List.lookup_cons, Value.asStr]

end Wire

end StreamEvent

/-- What one poll of a stream answers: nothing yet, an event, or the end. -/
inductive Poll where
  | pending
  | ready (event : Option StreamEvent)

/-- A source of events, by the answers it gives to successive polls. Nothing is
assumed about a source: it may go on after its end or after a terminal event. -/
abbrev EventSource := Nat → Poll

namespace EventSource

/-- The source that yields one event and then ends. -/
def once (event : StreamEvent) : EventSource
  | 0 => .ready (some event)
  | _ + 1 => .ready none

/-- Apply `f` to every event. -/
def map (f : StreamEvent → StreamEvent) (source : EventSource) : EventSource := fun n =>
  match source n with
  | .ready (some event) => .ready (some (f event))
  | other => other

end EventSource

/-- How a streamed invocation ended. -/
inductive Termination where
  | completed
  | failed (detail : Option String)
  | truncated
  | disconnected
  deriving DecidableEq, Repr

/-- The termination a terminal event stands for. -/
def StreamEvent.termination : StreamEvent → Termination
  | .done _ => .completed
  | event => .failed event.failureDetail

/-- What the finalizer is told about time, in nanoseconds since the stream was
built. -/
structure Timing where
  ttfb : Option Nat
  total : Nat
  deriving DecidableEq, Repr

/-- What the finalizer is called with. -/
structure Firing where
  term : Termination
  timing : Timing
  deriving DecidableEq, Repr

/-- The stream combinator. `armed` says that the finalizer has not run yet;
`polled` counts the polls handed to the inner source. -/
structure Finalized where
  inner : EventSource
  polled : Nat
  armed : Bool
  firstAt : Option Nat
  terminated : Bool

/-- One answered poll: the stream afterwards, the answer, and the finalizer call
the poll caused, if any. -/
structure Polled where
  stream : Finalized
  answer : Poll
  fired : List Firing

/-- A stretch of polls, taken together. -/
structure Consumed where
  stream : Finalized
  answers : List Poll
  fired : List Firing

/-- The events among the answers to a consumer's polls. -/
def received (answers : List Poll) : List StreamEvent :=
  answers.filterMap fun
    | .ready event => event
    | .pending => none

/-- The first terminal event among the answers. -/
def terminalEvent (answers : List Poll) : Option StreamEvent :=
  (received answers).find? (·.isTerminal)

/-- The consumer polled until the stream told it of its end, and no further. -/
def drained : List Poll → Bool
  | [] => false
  | .ready none :: later => later.isEmpty
  | .ready (some _) :: later | .pending :: later => drained later

/-- A consumer of a stream: the times of its polls, and when it lets go. -/
structure Consumer where
  polls : List Nat
  dropAt : Nat

namespace Finalized

def new (inner : EventSource) : Finalized where
  inner := inner
  polled := 0
  armed := true
  firstAt := none
  terminated := false

/-- Run the finalizer if it has not run yet. -/
def fire (f : Finalized) (now : Nat) (term : Termination) : Finalized × List Firing :=
  if f.armed then ({ f with armed := false }, [⟨term, ⟨f.firstAt, now⟩⟩]) else (f, [])

/-- One poll at time `now`. -/
def pollNext (f : Finalized) (now : Nat) : Polled :=
  if f.terminated then ⟨f, .ready none, []⟩
  else
    let answer := f.inner f.polled
    let f := { f with polled := f.polled + 1 }
    match answer with
    | .ready (some event) =>
      let f := { f with firstAt := f.firstAt.or (some now) }
      if event.isTerminal then
        let (f, fired) := f.fire now event.termination
        ⟨{ f with terminated := true }, .ready (some event), fired⟩
      else ⟨f, .ready (some event), []⟩
    | .ready none =>
      let (f, fired) := f.fire now .truncated
      ⟨f, .ready none, fired⟩
    | .pending => ⟨f, .pending, []⟩

/-- Letting go of the stream at time `now`. -/
def drop (f : Finalized) (now : Nat) : List Firing := (f.fire now .disconnected).2

/-- Polls at the listed times. -/
def pollAll (f : Finalized) : List Nat → Consumed
  | [] => ⟨f, [], []⟩
  | now :: later =>
    let polled := f.pollNext now
    let rest := polled.stream.pollAll later
    ⟨rest.stream, polled.answer :: rest.answers, polled.fired ++ rest.fired⟩

/-- Everything the finalizer is called with while a consumer uses the stream. -/
def firings (f : Finalized) (consumer : Consumer) : List Firing :=
  let consumed := f.pollAll consumer.polls
  consumed.fired ++ consumed.stream.drop consumer.dropAt

/-! ## The finalizer runs exactly once -/

/-- A stream that has closed on a terminal event has run its finalizer. -/
def Coherent (f : Finalized) : Prop := f.terminated = true → f.armed = false

/-- How many finalizer calls are still to come. -/
def owed (f : Finalized) : Nat := if f.armed then 1 else 0

variable (f : Finalized)

theorem fire_owed (now : Nat) (term : Termination) :
    (f.fire now term).2.length = f.owed ∧ (f.fire now term).1.owed = 0 := by
  unfold fire owed
  cases armed : f.armed <;> simp [armed]

/-- One poll spends a call exactly when it makes one, and keeps the stream
coherent. -/
theorem pollNext_owed (now : Nat) (coherent : f.Coherent) :
    (f.pollNext now).fired.length + (f.pollNext now).stream.owed = f.owed ∧
      (f.pollNext now).stream.Coherent := by
  unfold pollNext
  by_cases closed : f.terminated = true
  · simp [closed, coherent]
  rcases f.inner f.polled with _ | _ | event
  · simp [closed, owed, Coherent]
  · cases armed : f.armed <;> simp [closed, owed, Coherent, fire, armed]
  · by_cases terminal : event.isTerminal = true
    · cases armed : f.armed <;> simp [closed, owed, Coherent, fire, armed, terminal]
    · simp [closed, owed, Coherent, terminal]

theorem pollAll_owed (times : List Nat) (coherent : f.Coherent) :
    (f.pollAll times).fired.length + (f.pollAll times).stream.owed = f.owed := by
  induction times generalizing f with
  | nil => simp [pollAll]
  | cons now later ih =>
    obtain ⟨spent, kept⟩ := f.pollNext_owed now coherent
    have rest := ih (f.pollNext now).stream kept
    simp only [pollAll, List.length_append]
    omega

/-- Whatever the source answers and whenever the consumer lets go, the finalizer
is called once. -/
theorem firings_length (inner : EventSource) (consumer : Consumer) :
    ((new inner).firings consumer).length = 1 := by
  have polled := pollAll_owed (new inner) consumer.polls (by simp [Coherent, new])
  have dropped :=
    fire_owed ((new inner).pollAll consumer.polls).stream consumer.dropAt .disconnected
  have fresh : (new inner).owed = 1 := rfl
  simp only [firings, drop, List.length_append]
  omega

/-! ## What a draining consumer's stream reports -/

/-- A closed stream answers every poll with its end and calls nothing. -/
theorem pollAll_of_terminated (times : List Nat) (closed : f.terminated = true) :
    (f.pollAll times).fired = [] ∧
      (f.pollAll times).answers = List.replicate times.length (.ready none) := by
  induction times with
  | nil => exact ⟨rfl, rfl⟩
  | cons now later ih =>
    have unchanged : f.pollNext now = ⟨f, .ready none, []⟩ := by simp [pollNext, closed]
    simp [pollAll, unchanged, ih, List.replicate_succ]

/-- When the consumer drains an armed stream, the finalizer hears the
termination of the terminal event the consumer received, and of a truncation if
there was none. -/
theorem pollAll_drained (times : List Nat) (armed : f.armed = true) (live : f.terminated = false)
    (drains : drained (f.pollAll times).answers = true) :
    (f.pollAll times).fired.map Firing.term =
        [(terminalEvent (f.pollAll times).answers).elim .truncated
          StreamEvent.termination] := by
  induction times generalizing f with
  | nil => simp [pollAll, drained] at drains
  | cons now later ih =>
    rcases answered : f.inner f.polled with _ | _ | event
    · -- nothing yet: the rest of the polls decide
      have polled : f.pollNext now =
          ⟨{ f with polled := f.polled + 1 }, .pending, []⟩ := by
        simp [pollNext, live, answered]
      simp only [pollAll, polled, drained, List.nil_append] at drains ⊢
      exact ih _ armed live drains
    · -- the end without a terminal event; the consumer stops here
      have polled : f.pollNext now =
          ⟨{ f with polled := f.polled + 1, armed := false }, .ready none,
            [⟨.truncated, ⟨f.firstAt, now⟩⟩]⟩ := by
        simp [pollNext, live, answered, fire, armed]
      simp only [pollAll, polled, drained, List.isEmpty_iff] at drains ⊢
      cases later with
      | nil => rfl
      | cons next more => simp [pollAll] at drains
    · by_cases terminal : event.isTerminal = true
      · -- the stream closes: all later answers are its end
        have polled : (f.pollNext now).answer = .ready (some event) ∧
            (f.pollNext now).fired.map Firing.term = [event.termination] ∧
            (f.pollNext now).stream.terminated = true := by
          simp [pollNext, live, answered, fire, armed, terminal]
        obtain ⟨quiet, _⟩ := pollAll_of_terminated _ later polled.2.2
        simp [pollAll, polled.1, polled.2.1, quiet, terminalEvent, received, terminal]
      · have polled : f.pollNext now =
            ⟨{ f with polled := f.polled + 1, firstAt := f.firstAt.or (some now) },
              .ready (some event), []⟩ := by
          simp [pollNext, live, answered, terminal]
        have rest := ih ⟨f.inner, f.polled + 1, f.armed, f.firstAt.or (some now), f.terminated⟩
          armed live (by simpa only [pollAll, polled, drained] using drains)
        simp only [pollAll, polled, List.nil_append, rest]
        simp [terminalEvent, received, terminal]

/-- The one finalizer call of a drained stream. -/
theorem firings_of_drained (inner : EventSource) (consumer : Consumer)
    (drains : drained ((new inner).pollAll consumer.polls).answers = true) :
    ∃ firing, (new inner).firings consumer = [firing] ∧
      firing.term = (terminalEvent ((new inner).pollAll consumer.polls).answers).elim
        .truncated StreamEvent.termination := by
  obtain ⟨firing, only⟩ := List.length_eq_one_iff.mp (firings_length inner consumer)
  have reported := pollAll_drained (new inner) consumer.polls rfl rfl drains
  refine ⟨firing, only, ?_⟩
  -- the polls have made the one call, so letting go makes none
  obtain ⟨early, fired⟩ : ∃ early, ((new inner).pollAll consumer.polls).fired = [early] :=
    List.length_eq_one_iff.mp (by simpa using congrArg List.length reported)
  rw [firings, fired] at only
  rw [fired] at reported
  obtain ⟨rfl, _⟩ : early = firing ∧ _ := by simpa using only
  simpa using reported

/-! ## What any consumer's stream reports -/

/-- How a stream ends that gives these answers and is then let go of: with its
first terminal event, or with its end if that comes first, or with the drop. -/
def ending : List Poll → Termination
  | [] => .disconnected
  | .ready none :: _ => .truncated
  | .ready (some (.done _)) :: _ => .completed
  | .ready (some (.error _ detail)) :: _ => .failed detail
  | _ :: later => ending later

theorem ending_of_terminal {event : StreamEvent} (terminal : event.isTerminal = true)
    (later : List Poll) : ending (.ready (some event) :: later) = event.termination := by
  cases event <;> first | rfl | cases terminal

theorem ending_of_not_terminal {event : StreamEvent} (continues : event.isTerminal = false)
    (later : List Poll) : ending (.ready (some event) :: later) = ending later := by
  cases event <;> first | rfl | cases continues

/-- What the inner source answers to the next `count` polls. -/
def ahead (f : Finalized) (count : Nat) : List Poll :=
  (List.range count).map fun n => f.inner (f.polled + n)

theorem ahead_succ (count : Nat) :
    f.ahead (count + 1) =
      f.inner f.polled :: ahead { f with polled := f.polled + 1 } count := by
  simp [ahead, List.range_succ_eq_map, Function.comp_def, Nat.add_assoc, Nat.add_comm 1]

/-- A stream whose finalizer has run calls nothing any more. -/
theorem quiet_of_disarmed {f : Finalized} (coherent : f.Coherent) (disarmed : f.armed = false)
    (times : List Nat) (dropAt : Nat) :
    (f.pollAll times).fired ++ (f.pollAll times).stream.drop dropAt = [] := by
  have polled := f.pollAll_owed times coherent
  have dropped := (f.pollAll times).stream.fire_owed dropAt .disconnected
  have spent : f.owed = 0 := by simp [owed, disarmed]
  apply List.eq_nil_of_length_eq_zero
  simp only [List.length_append, drop]
  omega

/-- A poll that calls the finalizer makes the only call there is. -/
theorem calls_of_fired {f : Finalized} (coherent : f.Coherent) {now : Nat} {firing : Firing}
    (fired : (f.pollNext now).fired = [firing]) (later : List Nat) (dropAt : Nat) :
    (f.pollAll (now :: later)).fired ++ (f.pollAll (now :: later)).stream.drop dropAt =
      [firing] := by
  obtain ⟨spent, kept⟩ := f.pollNext_owed now coherent
  have disarmed : (f.pollNext now).stream.armed = false := by
    rw [fired, List.length_singleton] at spent
    cases left : (f.pollNext now).stream.armed with
    | false => rfl
    | true =>
      have most : f.owed ≤ 1 := by
        unfold owed
        split <;> omega
      have one : (f.pollNext now).stream.owed = 1 := by simp [owed, left]
      omega
  simp only [pollAll, fired, List.append_assoc, quiet_of_disarmed kept disarmed, List.append_nil]

/-- The calls an armed stream makes while it is polled and dropped: one, told how
the answers of the inner source end. -/
theorem calls_of_armed (times : List Nat) (dropAt : Nat) (armed : f.armed = true)
    (live : f.terminated = false) :
    ((f.pollAll times).fired ++ (f.pollAll times).stream.drop dropAt).map Firing.term =
      [ending (f.ahead times.length)] := by
  induction times generalizing f with
  | nil => simp [pollAll, drop, fire, armed, ahead, ending]
  | cons now later ih =>
    have coherent : f.Coherent := fun closed => by simp [live] at closed
    rw [List.length_cons, ahead_succ]
    rcases answered : f.inner f.polled with _ | _ | event
    · have polled : f.pollNext now = ⟨{ f with polled := f.polled + 1 }, .pending, []⟩ := by
        simp [pollNext, live, answered]
      simp only [pollAll, polled, List.nil_append]
      exact ih _ armed live
    · -- the end disarms the stream; whatever the source says later is not reported
      have fired : (f.pollNext now).fired = [⟨.truncated, ⟨f.firstAt, now⟩⟩] := by
        simp [pollNext, live, answered, fire, armed]
      rw [calls_of_fired coherent fired]
      rfl
    · cases terminal : event.isTerminal with
      | true =>
        have fired : (f.pollNext now).fired =
            [⟨event.termination, ⟨f.firstAt.or (some now), now⟩⟩] := by
          simp [pollNext, live, answered, fire, armed, terminal]
        rw [calls_of_fired coherent fired, ending_of_terminal terminal]
        rfl
      | false =>
        have polled : f.pollNext now =
            ⟨{ f with polled := f.polled + 1, firstAt := f.firstAt.or (some now) },
              .ready (some event), []⟩ := by
          simp [pollNext, live, answered, terminal]
        rw [ending_of_not_terminal terminal]
        simp only [pollAll, polled, List.nil_append]
        exact ih _ armed live

/-- Yielding a terminal event closes the stream. -/
theorem pollNext_terminated {f : Finalized} {now : Nat} {event : StreamEvent}
    (yielded : (f.pollNext now).answer = .ready (some event))
    (terminal : event.isTerminal = true) : (f.pollNext now).stream.terminated = true := by
  unfold pollNext at yielded ⊢
  by_cases closed : f.terminated = true
  · simp [closed] at yielded
  rcases answered : f.inner f.polled with _ | _ | other
  · simp [closed, answered] at yielded
  · simp [closed, answered] at yielded
  · by_cases ends : other.isTerminal = true
    · simp [closed, ends]
    · simp only [closed, answered, ends] at yielded
      simp at yielded
      exact absurd (yielded ▸ terminal) ends

/-- Nothing is yielded after a terminal event. -/
theorem received_pairwise (times : List Nat) :
    (received (f.pollAll times).answers).Pairwise fun earlier _ => earlier.isTerminal = false := by
  induction times generalizing f with
  | nil => exact .nil
  | cons now later ih =>
    have rest := ih (f.pollNext now).stream
    cases yielded : (f.pollNext now).answer with
    | pending => simpa [pollAll, received, yielded] using rest
    | ready event =>
      cases event with
      | none => simpa [pollAll, received, yielded] using rest
      | some event =>
        have cons : received (f.pollAll (now :: later)).answers =
            event :: received ((f.pollNext now).stream.pollAll later).answers := by
          simp [pollAll, received, yielded]
        rw [cons]
        refine List.pairwise_cons.mpr ⟨fun other follows => ?_, rest⟩
        -- a terminal event closes the stream, so nothing can follow it
        by_contra terminal
        have closed : (f.pollNext now).stream.terminated = true :=
          pollNext_terminated yielded (by simpa using terminal)
        rw [(pollAll_of_terminated _ later closed).2] at follows
        simp [received] at follows

/-- Whatever the inner source answers, and however long the consumer polls
before it lets go, the finalizer is called once and told how the source's answers
ended, and nothing is yielded after a terminal event. -/
theorem finalizer_fires_once (inner : EventSource) (consumer : Consumer) :
    (∃ firing, (new inner).firings consumer = [firing] ∧
        firing.term = ending ((List.range consumer.polls.length).map inner)) ∧
      (received ((new inner).pollAll consumer.polls).answers).Pairwise
        fun earlier _ => earlier.isTerminal = false := by
  refine ⟨?_, received_pairwise _ _⟩
  obtain ⟨firing, only⟩ := List.length_eq_one_iff.mp (firings_length inner consumer)
  refine ⟨firing, only, ?_⟩
  have told := calls_of_armed (new inner) consumer.polls consumer.dropAt rfl rfl
  rw [show _ ++ _ = [firing] from only] at told
  simpa [ahead, new] using told

end Finalized

end Triton.Core
