/-
# Heartbeats of a gateway connection

Three parties share a connection. The heartbeat task wakes up once in an interval; when
the flag of an unanswered heartbeat is still up it declares the connection dead,
otherwise it raises the flag and sends a heartbeat. The read loop takes one message
after the other from the socket: an ACK lowers the flag, a request of the server raises
it and is answered with a heartbeat, and a message from a user is handled to its end
before the next one is read. The server acknowledges every heartbeat in time.

The flag may be up although the server did its part, since an ACK counts when it is
read, and a heartbeat that the server asked for raises the flag at any time.
-/

import Triton.Discord.Gateway
import Triton.Lib.Run

namespace Triton.Discord.Heartbeat

open Triton.Lib

/-- A heartbeat whose ACK has not reached the socket. -/
structure Beat where
  sentAt : ℕ
  requested : Bool

inductive Reader where
  | listening
  | handling (d : Value)
  /-- Writes the heartbeat that the server asked for. -/
  | answering
  | gone (outcome : ConnOutcome)

inductive Timer where
  | sleeping (deadline : ℕ)
  /-- The flag was down. -/
  | checked
  /-- The flag is raised, the heartbeat not yet written. -/
  | marked
  | ended

structure State where
  /-- Milliseconds. -/
  now : ℕ
  link : Link
  reader : Reader
  timer : Timer
  /-- Messages that have reached the socket and are not read. -/
  inbox : List Message
  unacked : List Beat
  connDead : Bool

def intervalOf (intervalMs : ℕ) : ℕ := max intervalMs 1

/-- The connection right after the introduction. The first heartbeat is due after half
an interval. -/
def start (intervalMs : ℕ) (link : Link) : State where
  now := 0
  link := { link with awaitingAck := false }
  reader := .listening
  timer := .sleeping (intervalOf intervalMs / 2)
  inbox := []
  unacked := []
  connDead := false

inductive Move where
  /-- Time passes. -/
  | advance (ms : ℕ)
  /-- The server sends a message. -/
  | deliver (message : Message)
  /-- The server acknowledges one of the heartbeats. -/
  | ack (i : ℕ) (message : Message)
  | read
  /-- A message from a user is handled. -/
  | handled
  /-- A heartbeat that was asked for is written; the loop does not look at the result. -/
  | answered (ok : Bool)
  | streamEnd
  /-- The loop sees that the connection was declared dead. -/
  | noticeDead
  | shutdown
  /-- The heartbeat task wakes up and looks at the flag. -/
  | check
  | mark
  | beat (ok : Bool)

/-- The loop is over, and the heartbeat task is stopped. -/
def State.leave (s : State) (outcome : ConnOutcome) : State :=
  { s with reader := .gone outcome, timer := .ended, inbox := [], unacked := [] }

/-- What the loop does next. -/
def State.settle (s : State) : Effect → State
  | .proceed => { s with reader := .listening }
  | .handle d => { s with reader := .handling d }
  | .beat => { s with reader := .answering }
  | .leave outcome => s.leave outcome

variable (g : Gateway) (intervalMs : ℕ)

def isAck : Message → Bool
  | .text t => (g.parseJson t).map opOf == some 11
  | .close _ | .other => false

def step (s : State) : Move → State
  | .advance ms => { s with now := s.now + ms }
  | .deliver message => { s with inbox := s.inbox ++ [message] }
  | .ack i message =>
    if i < s.unacked.length ∧ isAck g message then
      { s with unacked := s.unacked.eraseIdx i, inbox := s.inbox ++ [message] }
    else s
  | .read =>
    match s.reader, s.inbox with
    | .listening, message :: rest =>
      let reached := g.onMessage s.link message
      State.settle { s with link := reached.1, inbox := rest } reached.2
    | _, _ => s
  | .handled =>
    match s.reader with
    | .handling _ => { s with reader := .listening }
    | _ => s
  | .answered ok =>
    match s.reader with
    | .answering =>
      { s with
        reader := .listening
        unacked := if ok then s.unacked ++ [⟨s.now, true⟩] else s.unacked }
    | _ => s
  | .streamEnd =>
    match s.reader with
    | .listening => s.leave .reconnect
    | _ => s
  | .noticeDead =>
    match s.reader, s.connDead with
    | .listening, true => s.leave .reconnect
    | _, _ => s
  | .shutdown =>
    match s.reader with
    | .listening => s.leave .shutdown
    | _ => s
  | .check =>
    match s.timer with
    | .sleeping deadline =>
      if s.now < deadline then s
      else if s.link.awaitingAck then { s with connDead := true, timer := .ended }
      else { s with timer := .checked }
    | _ => s
  | .mark =>
    match s.timer with
    | .checked => { s with link := { s.link with awaitingAck := true }, timer := .marked }
    | _ => s
  | .beat ok =>
    match s.timer, ok with
    | .marked, true =>
      { s with
        unacked := s.unacked ++ [⟨s.now, false⟩]
        timer := .sleeping (s.now + intervalOf intervalMs) }
    | .marked, false => { s with connDead := true, timer := .ended }
    | _, _ => s

/-! ## The server's part and the reader's part -/

/-- Every ACK reaches the socket less than an interval after its heartbeat was sent, and
no write fails. -/
def Prompt (s : State) : Move → Prop
  | .advance ms => ∀ beat ∈ s.unacked, s.now + ms < beat.sentAt + intervalOf intervalMs
  | .beat ok | .answered ok => ok = true
  | _ => True

/-- When the heartbeat is due, the loop has read every ACK that has come, and the
heartbeats that the server asked for are sent and acknowledged. -/
def CaughtUp (s : State) : Move → Prop
  | .check =>
    ∀ deadline, s.timer = .sleeping deadline → deadline ≤ s.now →
      (∀ message ∈ s.inbox, isAck g message = false) ∧ s.reader ≠ .answering ∧
        ∀ beat ∈ s.unacked, beat.requested = false
  | _ => True

variable {g} {intervalMs}

/-- What a message does to the flag: an ACK lowers it, and only a request raises it. -/
theorem awaitingAck_onMessage (link : Link) (message : Message) :
    (isAck g message = true → (g.onMessage link message).1.awaitingAck = false) ∧
      (isAck g message = false → (g.onMessage link message).1.awaitingAck = true →
        link.awaitingAck = true ∨ (g.onMessage link message).2 = .beat) := by
  cases message with
  | text t =>
    simp only [isAck, Gateway.onMessage]
    cases read : g.parseJson t with
    | none => simp
    | some v =>
      have noted : (link.noteSeq v).awaitingAck = link.awaitingAck := by
        rw [Link.noteSeq]
        split <;> rfl
      simp only [Gateway.onFrame, Option.map_some, beq_iff_eq, Option.some.injEq,
        beq_eq_false_iff_ne, ne_eq]
      split_ifs <;> simp_all
  | close code | other => simp [isAck, Gateway.onMessage]

/-- Why the flag may be up: a heartbeat is on its way or about to be sent, or an ACK is
not read. -/
def Excused (g : Gateway) (s : State) : Prop :=
  s.unacked ≠ [] ∨ (∃ message ∈ s.inbox, isAck g message = true) ∨ s.timer = .marked ∨
    s.timer = .ended ∨ s.reader = .answering

/-- What holds while the connection lives. The heartbeats of the task itself are older
than its deadline by an interval. -/
structure Alive (g : Gateway) (intervalMs : ℕ) (s : State) : Prop where
  notDead : s.connDead = false
  raised : s.link.awaitingAck = true → Excused g s
  sent : ∀ beat ∈ s.unacked, beat.sentAt ≤ s.now
  prompt : ∀ beat ∈ s.unacked, s.now < beat.sentAt + intervalOf intervalMs
  due : ∀ beat ∈ s.unacked, beat.requested = false → ∀ deadline, s.timer = .sleeping deadline →
    beat.sentAt + intervalOf intervalMs ≤ deadline

theorem alive_start (link : Link) : Alive g intervalMs (start intervalMs link) where
  notDead := rfl
  raised up := by cases up
  sent beat member := by cases member
  prompt beat member := by cases member
  due beat member := by cases member

variable {s : State}

theorem alive_leave (notDead : s.connDead = false) (outcome : ConnOutcome) :
    Alive g intervalMs (s.leave outcome) where
  notDead := notDead
  raised _ := .inr (.inr (.inr (.inl rfl)))
  sent beat member := by cases member
  prompt beat member := by cases member
  due beat member := by cases member

/-- An excuse that a change keeps. -/
theorem Excused.mono {after : State} (excused : Excused g s)
    (sent : s.unacked ≠ [] → after.unacked ≠ [])
    (acks : ∀ message ∈ s.inbox, isAck g message = true → message ∈ after.inbox)
    (timer : after.timer = s.timer)
    (answers : s.reader = .answering → after.reader = .answering) : Excused g after := by
  rw [Excused, timer]
  rcases excused with beat | ⟨ack, member, reads⟩ | marked | ended | answering
  · exact .inl (sent beat)
  · exact .inr (.inl ⟨ack, acks ack member reads, reads⟩)
  · exact .inr (.inr (.inl marked))
  · exact .inr (.inr (.inr (.inl ended)))
  · exact .inr (.inr (.inr (.inr (answers answering))))

section Kept

variable (alive : Alive g intervalMs s)

include alive

/-- The loop has read a message and goes on as `reader`. -/
theorem alive_read {message : Message} {rest : List Message} (listening : s.reader = .listening)
    (inbox : s.inbox = message :: rest) (reader : Reader)
    (answers : (g.onMessage s.link message).2 = .beat → reader = .answering) :
    Alive g intervalMs
      { s with link := (g.onMessage s.link message).1, inbox := rest, reader := reader } :=
  { alive with
    raised := by
      intro up
      obtain ⟨lowers, raises⟩ := awaitingAck_onMessage (g := g) s.link message
      cases isAckFrame : isAck g message with
      | true =>
        rw [lowers isAckFrame] at up
        cases up
      | false =>
        rcases raises isAckFrame up with before | requested
        · refine (alive.raised before).mono id ?acks rfl (by simp [listening])
          intro ack member reads
          rw [inbox] at member
          rcases List.mem_cons.mp member with rfl | later
          · rw [isAckFrame] at reads
            cases reads
          · exact later
        · exact .inr (.inr (.inr (.inr (answers requested)))) }

theorem alive_settle {message : Message} {rest : List Message} (listening : s.reader = .listening)
    (inbox : s.inbox = message :: rest) :
    Alive g intervalMs
      (State.settle { s with link := (g.onMessage s.link message).1, inbox := rest }
        (g.onMessage s.link message).2) := by
  have read := alive_read alive listening inbox
  cases effect : (g.onMessage s.link message).2 with
  | leave outcome =>
    refine alive_leave ?_ outcome
    exact alive.notDead
  | beat => exact read .answering fun _ => rfl
  | proceed => exact read .listening fun requested => by rw [effect] at requested; cases requested
  | handle d =>
    exact read (.handling d) fun requested => by rw [effect] at requested; cases requested

/-- A heartbeat is sent. -/
theorem alive_send (reader : Reader) (timer : Timer) (requested : Bool)
    (due : ∀ deadline, timer = .sleeping deadline →
      s.now + intervalOf intervalMs ≤ deadline ∨ requested = true ∧ timer = s.timer) :
    Alive g intervalMs
      { s with
        reader := reader, timer := timer, unacked := s.unacked ++ [⟨s.now, requested⟩] } where
  notDead := alive.notDead
  raised _ := .inl (by simp)
  sent beat member := by
    rcases List.mem_append.mp member with before | new
    · exact alive.sent beat before
    · rw [List.mem_singleton.mp new]
  prompt beat member := by
    rcases List.mem_append.mp member with before | new
    · exact alive.prompt beat before
    · rw [List.mem_singleton.mp new]
      exact Nat.lt_add_of_pos_right (Nat.le_max_right _ _)
  due beat member own deadline asleep := by
    have later := due deadline asleep
    rcases List.mem_append.mp member with before | new
    · rcases later with far | ⟨_, same⟩
      · exact (Nat.add_le_add_right (alive.sent beat before) _).trans far
      · exact alive.due beat before own deadline (same ▸ asleep)
    · rw [List.mem_singleton.mp new] at own ⊢
      rcases later with far | ⟨asked, _⟩
      · exact far
      · rw [asked] at own
        cases own

/-- A due heartbeat finds the flag down. -/
theorem awaitingAck_of_due {deadline : ℕ} (asleep : s.timer = .sleeping deadline)
    (late : deadline ≤ s.now) (caughtUp : CaughtUp g s .check) : s.link.awaitingAck = false := by
  obtain ⟨noAck, notAnswering, own⟩ := caughtUp deadline asleep late
  by_contra up
  rcases alive.raised (by simpa using up) with sent | ⟨ack, member, reads⟩ | marked | ended |
    answering
  · obtain ⟨beat, member⟩ := List.exists_mem_of_ne_nil _ sent
    have := alive.due beat member (own beat member) deadline asleep
    have := alive.prompt beat member
    omega
  · rw [noAck ack member] at reads
    cases reads
  · rw [asleep] at marked
    cases marked
  · rw [asleep] at ended
    cases ended
  · exact notAnswering answering

end Kept

theorem alive_step (s : State) (move : Move) (alive : Alive g intervalMs s)
    (met : Prompt intervalMs s move ∧ CaughtUp g s move) :
    Alive g intervalMs (step g intervalMs s move) := by
  obtain ⟨prompt, caughtUp⟩ := met
  cases move with
  | advance ms =>
    exact { alive with
      sent := fun beat member => Nat.le_add_right_of_le (alive.sent beat member)
      prompt := prompt }
  | deliver message =>
    exact { alive with
      raised := fun up =>
        (alive.raised up).mono id (fun _ member _ => List.mem_append_left _ member) rfl id }
  | ack i message =>
    simp only [step]
    split
    · rename_i acked
      exact {
        notDead := alive.notDead
        raised := fun _ => .inr (.inl ⟨message, by simp, acked.2⟩)
        sent := fun beat member => alive.sent beat (List.mem_of_mem_eraseIdx member)
        prompt := fun beat member => alive.prompt beat (List.mem_of_mem_eraseIdx member)
        due := fun beat member => alive.due beat (List.mem_of_mem_eraseIdx member) }
    · exact alive
  | read =>
    simp only [step]
    split
    · exact alive_settle alive ‹_› ‹_›
    · exact alive
  | handled =>
    simp only [step]
    split
    · rename_i handling
      exact { alive with
        raised := fun up =>
          (alive.raised up).mono id (fun _ member _ => member) rfl (by simp [handling]) }
    · exact alive
  | answered ok =>
    cases prompt
    simp only [step]
    split
    · exact alive_send alive .listening s.timer true fun _ _ => .inr ⟨rfl, rfl⟩
    · exact alive
  | streamEnd | noticeDead | shutdown =>
    simp only [step]
    split
    · exact alive_leave alive.notDead _
    · exact alive
  | check =>
    simp only [step]
    split
    · rename_i deadline asleep
      split
      · exact alive
      · rename_i late
        have down := awaitingAck_of_due alive asleep (Nat.le_of_not_lt late) caughtUp
        rw [if_neg (by simp [down])]
        exact { alive with
          raised := by
            intro up
            rw [down] at up
            cases up
          due := fun _ _ _ _ checked => by cases checked }
    · exact alive
  | mark =>
    simp only [step]
    split
    · exact { alive with
        raised := fun _ => .inr (.inr (.inl rfl))
        due := fun _ _ _ _ marked => by cases marked }
    · exact alive
  | beat ok =>
    cases prompt
    simp only [step]
    split
    · exact alive_send alive s.reader _ false fun deadline asleep => .inl (by cases asleep; rfl)
    · cases ‹true = false›
    · exact alive

/-- A connection whose server is prompt is not declared dead, in every run in which the
read loop has caught up whenever a heartbeat is due. -/
theorem prompt_connection_lives (g : Gateway) (intervalMs : ℕ) (link : Link) (moves : List Move)
    (prompt : EveryStep (step g intervalMs) (Prompt intervalMs) (start intervalMs link) moves)
    (caughtUp : EveryStep (step g intervalMs) (CaughtUp g) (start intervalMs link) moves) :
    EveryState (step g intervalMs) (fun s => s.connDead = false) (start intervalMs link) moves :=
  everyState_of_invariant alive_step (fun _ alive => alive.notDead) (alive_start link)
    ((everyStep_and _ _).mpr ⟨prompt, caughtUp⟩)

/-! ## Sample runs -/

/-- A gateway that reads a few frames by their names. -/
def sampleGateway : Gateway where
  botToken := "token"
  gatewayUrl := "wss://gateway.discord.gg"
  parseJson t := [("ack", .object [("op", .number (.posInt 11))]),
    ("request", .object [("op", .number (.posInt 1))]),
    ("message", .object [("op", .number (.posInt 0)), ("t", .string "MESSAGE_CREATE")])].lookup t
  parseUrl _ := none

def sampleLink : Link := ⟨none, -1, -1, false⟩

/-- One heartbeat is sent, acknowledged, and its ACK read before the next is due. -/
def calmRun : List Move :=
  [.advance 50, .check, .mark, .beat true, .advance 10, .ack 0 (.text "ack"), .read, .advance 90,
    .check]

theorem calm_connection_lives :
    EveryStep (step sampleGateway 100) (Prompt 100) (start 100 sampleLink) calmRun ∧
      EveryStep (step sampleGateway 100) (CaughtUp sampleGateway) (start 100 sampleLink) calmRun ∧
      EveryState (step sampleGateway 100) (fun s => s.connDead = false) (start 100 sampleLink)
        calmRun := by
  have prompt : EveryStep (step sampleGateway 100) (Prompt 100) (start 100 sampleLink) calmRun :=
    ⟨nofun, trivial, trivial, rfl, List.forall_mem_singleton.mpr (by decide), trivial, trivial,
      nofun, trivial, trivial⟩
  have caughtUp : EveryStep (step sampleGateway 100) (CaughtUp sampleGateway)
      (start 100 sampleLink) calmRun :=
    ⟨trivial, fun _ _ _ => ⟨nofun, nofun, nofun⟩, trivial, trivial, trivial, trivial, trivial,
      trivial, fun _ _ _ => ⟨nofun, nofun, nofun⟩, trivial⟩
  exact ⟨prompt, caughtUp, prompt_connection_lives _ _ _ _ prompt caughtUp⟩

/-- A message takes its time while the ACK waits in the socket. -/
def busyRun : List Move :=
  [.deliver (.text "message"), .read, .advance 50, .check, .mark, .beat true, .advance 10,
    .ack 0 (.text "ack"), .advance 90, .check]

/-- The server asks for a heartbeat right before the next one is due. -/
def askedRun : List Move :=
  [.advance 49, .deliver (.text "request"), .read, .answered true, .advance 1, .check]

theorem prompt_connection_declared_dead :
    (EveryStep (step sampleGateway 100) (Prompt 100) (start 100 sampleLink) busyRun ∧
        (run (step sampleGateway 100) (start 100 sampleLink) busyRun).connDead = true) ∧
      EveryStep (step sampleGateway 100) (Prompt 100) (start 100 sampleLink) askedRun ∧
        (run (step sampleGateway 100) (start 100 sampleLink) askedRun).connDead = true := by
  refine ⟨⟨?_, rfl⟩, ?_, rfl⟩
  · exact ⟨trivial, trivial, nofun, trivial, trivial, rfl,
      List.forall_mem_singleton.mpr (by decide), trivial, nofun, trivial, trivial⟩
  · exact ⟨nofun, trivial, trivial, rfl, List.forall_mem_singleton.mpr (by decide), trivial,
      trivial⟩

end Triton.Discord.Heartbeat
