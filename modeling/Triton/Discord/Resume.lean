/-
# Going on with a session

The worker connects again and again. What it carries from one connection to the next,
a session and a sequence number, decides how it introduces itself. The history of a run
lists what the server has said about sessions since each HELLO; a session can be gone on
with when its READY was followed by nothing but numbers.
-/

import Triton.Discord.Gateway
import Triton.Lib.Run

namespace Triton.Discord

open Triton.Lib

/-! ## The worker -/

inductive Phase where
  | connecting
  /-- Waits for HELLO. -/
  | greeting
  /-- Writes IDENTIFY or RESUME. -/
  | introducing
  | listening
  | pausing
  | stopped
  deriving DecidableEq, Repr

structure Worker extends Link where
  phase : Phase
  backoff : ℕ

def Worker.start : Worker where
  session := none
  lastSeq := -1
  seq := -1
  awaitingAck := false
  phase := .connecting
  backoff := backoffInitial

inductive Move where
  /-- The connect attempt succeeds or fails. -/
  | connect (ok : Bool)
  | receive (message : Message)
  /-- The stream ends or fails. -/
  | streamEnd
  /-- The introduction is written, or the write fails. -/
  | write (ok : Bool)
  /-- The heartbeat task has declared the connection dead. -/
  | dead
  | shutdown
  /-- The pause is over. -/
  | wake

namespace Gateway

variable (g : Gateway)

def withQuery (base : String) : String :=
  if Text.containsChar base '?' then base else base ++ "?v=10&encoding=json"

/-- Where the worker connects to. -/
def connectUrl (link : Link) : String :=
  withQuery ((link.session.map Session.resumeUrl).getD g.gatewayUrl)

/-- The connection is over. -/
def leave (w : Worker) : ConnOutcome → Worker
  | .shutdown => { w with phase := .stopped }
  | .reconnect => { w with phase := .pausing }
  | .reIdentify => { w with phase := .pausing, session := none, lastSeq := -1 }

/-- One message before HELLO. Whatever is not HELLO is skipped, and so is a close frame. -/
def onGreeting (w : Worker) : Message → Worker
  | .text t =>
    match g.parseJson t with
    | none => leave w .reconnect
    | some v =>
      if (v.get "op").bind Value.asI64 = some 10 then
        match (pointer v "d" "heartbeat_interval").bind Value.asU64 with
        | some _ => { w with phase := .introducing, backoff := backoffInitial }
        | none => leave w .reconnect
      else w
  | .close _ | .other => w

/-- Go on or leave after a message. A message that is handled changes nothing here. -/
def settle (w : Worker) : Link × Effect → Worker
  | (link, .leave outcome) => leave { w with toLink := link } outcome
  | (link, .proceed) | (link, .handle _) | (link, .beat) => { w with toLink := link }

def step (w : Worker) : Move → Worker
  | .connect ok =>
    match w.phase, ok with
    | .connecting, true =>
      { w with phase := .greeting, seq := w.lastSeq, awaitingAck := false }
    | .connecting, false => { w with phase := .pausing }
    | _, _ => w
  | .receive message =>
    match w.phase with
    | .greeting => g.onGreeting w message
    | .listening => settle w (g.onMessage w.toLink message)
    | _ => w
  | .streamEnd =>
    match w.phase with
    | .greeting | .listening => leave w .reconnect
    | _ => w
  | .write ok =>
    match w.phase, ok with
    | .introducing, true => { w with phase := .listening }
    | .introducing, false => leave w .reconnect
    | _, _ => w
  | .dead =>
    match w.phase with
    | .listening => leave w .reconnect
    | _ => w
  | .shutdown =>
    match w.phase with
    | .connecting | .greeting | .listening | .pausing => leave w .shutdown
    | _ => w
  | .wake =>
    match w.phase with
    | .pausing => { w with phase := .connecting, backoff := min (2 * w.backoff) backoffMax }
    | _ => w

/-- What a move puts on the wire to introduce the worker. -/
def introduces (w : Worker) : Move → Option Value
  | .write _ => if w.phase = .introducing then some (g.introduction w.toLink) else none
  | _ => none

end Gateway

/-! ## What the server has said -/

inductive Event where
  /-- A READY that names a session. -/
  | ready (sessionId : String) (seq : Int)
  | number (seq : Int)
  | discarded
  deriving DecidableEq, Repr

def numbers (v : Value) : List Event := (seqOf v).toList.map .number

/-- What a frame says about sessions. -/
def eventsOf (v : Value) : List Event :=
  match isReady v, sessionIdOf v, seqOf v with
  | true, some sid, some seq => [.ready sid seq]
  | _, _, _ =>
    numbers v ++
      if opOf v = 9 ∧ (v.get "d").bind Value.asBool ≠ some true then [.discarded] else []

namespace Gateway

variable (g : Gateway)

def heard (w : Worker) : Move → List Event
  | .receive message =>
    match w.phase, message with
    | .listening, .text t => ((g.parseJson t).map eventsOf).getD []
    | .listening, .close code =>
      if isNonResumableClose (code.getD 0) then [.discarded] else []
    | _, _ => []
  | _ => []

/-- What a run has heard, oldest first. -/
def history (w : Worker) : List Move → List Event
  | [] => []
  | move :: moves => g.heard w move ++ history (g.step w move) moves

end Gateway

/-- The session of the latest READY can be gone on with: nothing has discarded it, and
this is the last number since. -/
def Resumable (events : List Event) (sessionId : String) (seq : Int) : Prop :=
  ∃ (before : List Event) (first : Int) (after : List Int),
    events = before ++ .ready sessionId first :: after.map .number ∧
    seq = after.getLast?.getD first

section Resumable

variable {events : List Event} {sid : String} {seq : Int}

theorem not_resumable_nil : ¬ Resumable [] sid seq := by
  rintro ⟨before, first, after, split, _⟩
  simp at split

theorem resumable_concat_iff {event : Event} :
    Resumable (events ++ [event]) sid seq ↔
      event = .ready sid seq ∨ event = .number seq ∧ ∃ earlier, Resumable events sid earlier := by
  constructor
  · rintro ⟨before, first, after, split, rfl⟩
    rcases List.eq_nil_or_concat after with rfl | ⟨rest, last, rfl⟩
    · obtain ⟨_, same⟩ := List.append_inj' split rfl
      left
      simpa using same
    · have longer : events ++ [event] =
          (before ++ .ready sid first :: rest.map .number) ++ [.number last] := by
        simpa using split
      obtain ⟨earlier, same⟩ := List.append_inj' longer rfl
      right
      exact ⟨by simpa using same, _, before, first, rest, earlier, rfl⟩
  · rintro (rfl | ⟨rfl, earlier, before, first, after, rfl, _⟩)
    · exact ⟨events, seq, [], rfl, rfl⟩
    · exact ⟨before, first, after ++ [seq], by simp, by simp⟩

end Resumable

/-- The session to go on with after one more event. -/
def resumption : Option (String × Int) → Event → Option (String × Int)
  | _, .ready sid seq => some (sid, seq)
  | carried, .number seq => carried.map fun session => (session.1, seq)
  | _, .discarded => none

theorem foldl_resumption_eq_some_iff {events : List Event} {sid : String} {seq : Int} :
    events.foldl resumption none = some (sid, seq) ↔ Resumable events sid seq := by
  induction events using List.reverseRecOn generalizing seq with
  | nil => simp [not_resumable_nil]
  | append_singleton events event ih =>
    rw [List.foldl_append, resumable_concat_iff]
    cases event with
    | ready sid' seq' | discarded => simp [resumption]
    | number seq' =>
      simp only [List.foldl_cons, List.foldl_nil, resumption, Option.map_eq_some_iff,
        Prod.exists, Prod.mk.injEq, ← ih]
      grind

/-! ## What the worker carries -/

/-- What a later RESUME would name. -/
def Link.carried (link : Link) : Option (String × Int) :=
  link.session.map fun s => (s.id, link.lastSeq)

/-- The frame is no READY, or a READY with a number. -/
def Numbered (v : Value) : Prop := isReady v = true → (seqOf v).isSome = true

theorem carried_noteSeq (link : Link) (v : Value) :
    (link.noteSeq v).carried = (numbers v).foldl resumption link.carried := by
  rw [Link.noteSeq, numbers]
  cases seqOf v with
  | none => rfl
  | some s => simp [Link.carried, resumption, Option.map_map, Function.comp_def]

namespace Gateway

variable (g : Gateway)

/-- What the worker carries once a message has taken effect. -/
def carriedAfter : Link × Effect → Option (String × Int)
  | (_, .leave .reIdentify) => none
  | (link, _) => link.carried

theorem carried_ready (link : Link) {v : Value} (ready : isReady v = true)
    (numbered : Numbered v) :
    carriedAfter (g.onFrame link v) = (eventsOf v).foldl resumption link.carried := by
  obtain ⟨seq, number⟩ := Option.isSome_iff_exists.mp (numbered ready)
  have kind : opOf v = 0 ∧ typeOf v = "READY" := by simpa [isReady] using ready
  have frame : g.onFrame link v =
      ({ link.noteSeq v with session := (g.sessionOf v).or (link.noteSeq v).session },
        .proceed) := by
    simp [onFrame, kind]
  rw [frame]
  cases named : sessionIdOf v with
  | some sid =>
    have events : eventsOf v = [.ready sid seq] := by simp [eventsOf, ready, named, number]
    have session : ∃ url, g.sessionOf v = some ⟨sid, url⟩ := by simp [sessionOf, named]
    obtain ⟨url, session⟩ := session
    rw [events, session]
    simp [carriedAfter, Link.carried, Link.noteSeq, number, resumption]
  | none =>
    have events : eventsOf v = numbers v := by simp [eventsOf, named, kind]
    have session : g.sessionOf v = none := by simp [sessionOf, named]
    rw [events, session, Option.none_or]
    exact carried_noteSeq link v

theorem carried_onFrame (link : Link) {v : Value} (numbered : Numbered v) :
    carriedAfter (g.onFrame link v) = (eventsOf v).foldl resumption link.carried := by
  cases ready : isReady v with
  | true => exact g.carried_ready link ready numbered
  | false =>
    have noted := carried_noteSeq link v
    by_cases discards : opOf v = 9 ∧ (v.get "d").bind Value.asBool ≠ some true
    · have events : eventsOf v = numbers v ++ [.discarded] := by simp [eventsOf, ready, discards]
      have frame : g.onFrame link v = (link.noteSeq v, .leave .reIdentify) := by
        simp [onFrame, discards]
      rw [events, frame, List.foldl_append]
      rfl
    · have events : eventsOf v = numbers v := by
        simp only [eventsOf, ready, if_neg discards, List.append_nil]
      rw [events, ← noted, onFrame]
      split
      · rename_i dispatch
        split
        · rename_i named
          simp [isReady, dispatch, named] at ready
        · split <;> rfl
      · split
        · rfl
        · split
          · rfl
          · split
            · rfl
            · split
              · rename_i invalid
                rw [if_pos (not_not.mp fun fresh => discards ⟨invalid, fresh⟩)]
                rfl
              · rfl

variable (w : Worker)

theorem carried_settle (reached : Link × Effect) :
    (settle w reached).carried = carriedAfter reached := by
  obtain ⟨link, effect⟩ := reached
  cases effect with
  | leave outcome => cases outcome <;> rfl
  | _ => rfl

theorem toLink_onGreeting (message : Message) : (g.onGreeting w message).toLink = w.toLink := by
  cases message with
  | text t =>
    simp only [onGreeting]
    split
    · rfl
    · split
      · split <;> rfl
      · rfl
  | close code | other => rfl

/-- A move carries on what it has heard. -/
theorem carried_step (move : Move)
    (numbered : ∀ t v, move = .receive (.text t) → g.parseJson t = some v → Numbered v) :
    (g.step w move).carried = (g.heard w move).foldl resumption w.carried := by
  cases move with
  | receive message =>
    simp only [step]
    split
    · rename_i greeting
      rw [g.toLink_onGreeting]
      simp [heard, greeting]
    · rename_i listening
      rw [carried_settle]
      cases message with
      | text t =>
        simp only [onMessage, heard, listening]
        cases read : g.parseJson t with
        | none => rfl
        | some v => exact g.carried_onFrame w.toLink (numbered t v rfl read)
      | close code =>
        simp only [onMessage, heard, listening]
        split <;> rfl
      | other =>
        simp only [onMessage, heard, listening]
        rfl
    · rename_i elsewhere _
      cases phase : w.phase <;> simp_all [heard]
  | connect ok | streamEnd | write ok | dead | shutdown | wake => simp only [step]; split <;> rfl

theorem carried_run (moves : List Move)
    (numbered : ∀ t v, .receive (.text t) ∈ moves → g.parseJson t = some v → Numbered v) :
    (run g.step w moves).carried = (g.history w moves).foldl resumption w.carried := by
  induction moves generalizing w with
  | nil => rfl
  | cons move moves ih =>
    rw [run_cons, ih _ fun t v member => numbered t v (List.mem_cons_of_mem _ member), history,
      List.foldl_append, g.carried_step w move]
    rintro t v rfl
    exact numbered t v List.mem_cons_self

end Gateway

theorem ofInt_inj {m n : Int} : Value.ofInt m = Value.ofInt n ↔ m = n := by
  constructor
  · intro same
    simp only [Value.ofInt] at same
    split_ifs at same <;> simp at same <;> omega
  · rintro rfl
    rfl

/-- On a connection the two copies of the number agree. -/
def Worker.Synced (w : Worker) : Prop :=
  w.phase = .greeting ∨ w.phase = .introducing ∨ w.phase = .listening → w.seq = w.lastSeq

namespace Gateway

variable (g : Gateway)

/-- The session is to be gone on with at the configured gateway or at a trusted host. -/
def Trusted (link : Link) : Prop :=
  ∀ s, link.session = some s → s.resumeUrl = g.gatewayUrl ∨ g.resumeUrlIsTrusted s.resumeUrl = true

structure Fit (w : Worker) : Prop where
  synced : w.Synced
  trusted : g.Trusted w.toLink

variable {g}

theorem fit_onMessage {link : Link} (fit : link.seq = link.lastSeq ∧ g.Trusted link)
    (message : Message) :
    (g.onMessage link message).1.seq = (g.onMessage link message).1.lastSeq ∧
      g.Trusted (g.onMessage link message).1 := by
  cases message with
  | text t =>
    simp only [onMessage]
    split
    · rename_i v _
      have noted : (link.noteSeq v).seq = (link.noteSeq v).lastSeq ∧
          g.Trusted (link.noteSeq v) := by
        rw [Link.noteSeq]
        split
        · exact ⟨rfl, fit.2⟩
        · exact fit
      simp only [onFrame]
      split_ifs
      · refine ⟨noted.1, fun s session => ?_⟩
        rcases Option.or_eq_some_iff.mp session with named | ⟨_, kept⟩
        · simp only [sessionOf, Option.map_eq_some_iff] at named
          obtain ⟨sid, _, rfl⟩ := named
          cases given : ((pointer v "d" "resume_gateway_url").bind Value.asStr).filter
              g.resumeUrlIsTrusted with
          | none => exact .inl rfl
          | some url => exact .inr (Option.filter_eq_some_iff.mp given).2
        · exact noted.2 s kept
      all_goals exact noted
    · exact fit
  | close code | other => exact fit

theorem fit_leave {w : Worker} (trusted : g.Trusted w.toLink) (outcome : ConnOutcome) :
    g.Fit (leave w outcome) := by
  refine ⟨by cases outcome <;> simp [Worker.Synced, leave], ?_⟩
  cases outcome with
  | reIdentify => exact fun s session => by cases session
  | _ => exact trusted

theorem fit_settle {w : Worker} {reached : Link × Effect}
    (fit : reached.1.seq = reached.1.lastSeq ∧ g.Trusted reached.1) :
    g.Fit (settle w reached) := by
  obtain ⟨link, effect⟩ := reached
  cases effect with
  | leave outcome => exact fit_leave fit.2 outcome
  | _ => exact ⟨fun _ => fit.1, fit.2⟩

theorem fit_step (w : Worker) (move : Move) (fit : g.Fit w) : g.Fit (g.step w move) := by
  cases move with
  | connect ok =>
    simp only [step]
    split
    · exact ⟨fun _ => rfl, fit.trusted⟩
    · exact ⟨by simp [Worker.Synced], fit.trusted⟩
    · exact fit
  | receive message =>
    simp only [step]
    split
    · refine ⟨fun _ => ?_, ?_⟩
      · rw [g.toLink_onGreeting]
        exact fit.synced (.inl ‹_›)
      · rw [g.toLink_onGreeting]
        exact fit.trusted
    · exact fit_settle (fit_onMessage ⟨fit.synced (.inr (.inr ‹_›)), fit.trusted⟩ message)
    · exact fit
  | streamEnd | dead | shutdown =>
    simp only [step]
    split <;> first | exact fit_leave fit.trusted _ | exact fit
  | write ok =>
    simp only [step]
    split
    · exact ⟨fun _ => fit.synced (.inr (.inl ‹_›)), fit.trusted⟩
    · exact fit_leave fit.trusted _
    · exact fit
  | wake =>
    simp only [step]
    split
    · exact ⟨by simp [Worker.Synced], fit.trusted⟩
    · exact fit

theorem fit_run (moves : List Move) : g.Fit (run g.step .start moves) :=
  run_keeps fit_step
    ⟨by simp [Worker.Synced, Worker.start], fun s session => by cases session⟩ moves

/-! ## Where the worker connects to -/

variable (g)

/-- The bot token only goes to the configured gateway or to a trusted host. -/
theorem connectUrl_trusted (moves : List Move) :
    ∃ base, (base = g.gatewayUrl ∨ g.resumeUrlIsTrusted base = true) ∧
      g.connectUrl (run g.step .start moves).toLink = withQuery base := by
  rw [connectUrl]
  cases session : (run g.step .start moves).session with
  | none => exact ⟨g.gatewayUrl, .inl rfl, rfl⟩
  | some s => exact ⟨s.resumeUrl, (fit_run moves).trusted s session, rfl⟩

/-! ## How the worker introduces itself -/

theorem resume_inj {sid sid' : String} {seq seq' : Int} :
    g.resume sid seq = g.resume sid' seq' ↔ sid = sid' ∧ seq = seq' := by
  constructor
  · intro same
    have ids := congrArg sessionIdOf same
    have numbers := congrArg (pointer · "d" "seq") same
    simp only [resume, sessionIdOf, pointer, Record.get_object, Record.find, Record.str,
      Option.bind] at ids numbers
    simp [Value.asStr] at ids numbers
    exact ⟨ids, ofInt_inj.mp numbers⟩
  · rintro ⟨rfl, rfl⟩
    rfl

theorem resume_ne_identify (sid : String) (seq : Int) : g.resume sid seq ≠ g.identify := by
  intro same
  have ops := congrArg opOf same
  simp [resume, identify, opOf, Value.ofInt, Value.asI64] at ops

/-- A worker that introduces itself goes on with the session of the latest READY since
HELLO, from the last number since, exactly when nothing has discarded it; otherwise it
starts afresh. -/
theorem resumes_latest_session (moves : List Move)
    (numbered : ∀ t v, .receive (.text t) ∈ moves → g.parseJson t = some v → Numbered v)
    (move : Move) (payload : Value)
    (sent : g.introduces (run g.step .start moves) move = some payload) :
    (∀ sid seq, payload = g.resume sid seq ↔ Resumable (g.history .start moves) sid seq) ∧
      (payload = g.identify ↔ ∀ sid seq, ¬ Resumable (g.history .start moves) sid seq) := by
  have carried := g.carried_run .start moves numbered
  have synced : (run g.step .start moves).Synced := (fit_run moves).synced
  generalize run g.step .start moves = w at sent carried synced
  have resumable : ∀ sid seq,
      Resumable (g.history .start moves) sid seq ↔ w.carried = some (sid, seq) := by
    intro sid seq
    rw [carried, ← foldl_resumption_eq_some_iff]
    rfl
  obtain ⟨introducing, rfl⟩ : w.phase = .introducing ∧ g.introduction w.toLink = payload := by
    cases move <;> simp [introduces] at sent
    exact sent
  have same : w.seq = w.lastSeq := synced (.inr (.inl introducing))
  simp only [resumable, introduction, Link.carried]
  cases w.session with
  | none => simp [(g.resume_ne_identify _ _).symm]
  | some s => simp [g.resume_inj, g.resume_ne_identify, same]

end Gateway

/-! ## Sample runs -/

def readyFrame (d : Value) (seq : ℕ) : Value :=
  .object [("d", d), ("op", .number (.posInt 0)), ("s", .number (.posInt seq)),
    ("t", .string "READY")]

/-- A gateway that reads a few frames by their names. -/
def sampleGateway : Gateway where
  botToken := "token"
  gatewayUrl := "wss://gateway.discord.gg"
  parseJson t := [("hello",
    .object [("d", .object [("heartbeat_interval", .number (.posInt 45000))]),
      ("op", .number (.posInt 10))]),
    ("ready", readyFrame (.object [("session_id", .string "s1")]) 1),
    ("nameless", readyFrame (.object []) 2),
    ("update", .object [("op", .number (.posInt 0)), ("s", .number (.posInt 5))])].lookup t
  parseUrl _ := none

/-- HELLO is read and answered. -/
def greeted : List Move := [.connect true, .receive (.text "hello"), .write true]

/-- A session starts, goes on for a while and loses its connection. -/
def interrupted : List Move :=
  greeted ++ [.receive (.text "ready"), .receive (.text "update"), .streamEnd, .wake]

theorem resumes_interrupted_session :
    sampleGateway.introduces
        (run sampleGateway.step .start (interrupted ++ [.connect true, .receive (.text "hello")]))
        (.write true) = some (sampleGateway.resume "s1" 5) ∧
      Resumable (sampleGateway.history .start
        (interrupted ++ [.connect true, .receive (.text "hello")])) "s1" 5 := by
  have sent : sampleGateway.introduces
      (run sampleGateway.step .start (interrupted ++ [.connect true, .receive (.text "hello")]))
      (.write true) = some (sampleGateway.resume "s1" 5) := rfl
  refine ⟨sent, ((sampleGateway.resumes_latest_session _ ?_ _ _ sent).1 "s1" 5).mp rfl⟩
  intro t v member read ready
  have named : t = "hello" ∨ t = "ready" ∨ t = "update" ∨ t = "hello" := by
    simpa [interrupted, greeted] using member
  rcases named with rfl | rfl | rfl | rfl <;> cases read <;> first | rfl | cases ready

/-- What comes before HELLO is not heard: a READY starts no session, and a close that
cannot be resumed from discards none. A READY that names no session starts none. -/
theorem early_frames_are_lost :
    sampleGateway.introduces
        (run sampleGateway.step .start
          [.connect true, .receive (.text "ready"), .receive (.text "hello")])
        (.write true) = some sampleGateway.identify ∧
      sampleGateway.introduces
        (run sampleGateway.step .start (interrupted ++ [.connect true,
          .receive (.close (some 4004)), .streamEnd, .wake, .connect true,
          .receive (.text "hello")]))
        (.write true) = some (sampleGateway.resume "s1" 5) ∧
      sampleGateway.introduces
        (run sampleGateway.step .start (greeted ++ [.receive (.text "nameless"), .streamEnd,
          .wake, .connect true, .receive (.text "hello")]))
        (.write true) = some sampleGateway.identify :=
  ⟨rfl, rfl, rfl⟩

end Triton.Discord
