/-
# How often a runner contacts the upstream

One run of the runner against an upstream that behaves as it likes: every
contact fails to open, or gives finitely many events and then an end, or keeps
the run waiting until its deadline. Time passes in every turn, a pause takes at
least as long as it is meant to, and other processes use the store and the hub
in between.

The pause starts afresh with every event that the run accepts, so it need not
grow. But a run pauses only if the pause ends before the deadline, which bounds
the number of pauses by their least length. Between two pauses it only follows
the events of one contact, so it returns, and the last event it sends is the one
that tells the end.
-/

import Mathlib.Data.Prod.Lex
import Mathlib.Order.WellFounded
import Triton.Lib.Broadcast
import Triton.Tasks.Runner

namespace Triton.Tasks

open Triton.Lib Triton.Core

/-- A wait with a deadline: a value comes after some time, or the wait is given up some
time after the deadline. -/
inductive Wait (α : Type) where
  | comes (passed : Nat) (value : α)
  | misses (late : Nat)

/-- How the upstream behaves at one contact. -/
structure Attempt where
  opened : Wait (Except TritonError Unit)
  events : List (Nat × StreamEvent)
  ending : Wait Unit

/-- What a run meets: the upstream by the number of the contact, and in every turn the
time it takes, the wall clock, the database and the other processes. -/
structure Surroundings where
  upstream : Nat → Attempt
  lag : Nat → Nat
  now : Nat → Int
  fault : Nat → Option String
  others : Nat → Shared → Shared

/-- A run on its way, with what is left of the present contact, what can be seen of it
and what it has sent. -/
structure Driven where
  shared : Shared
  run : Run
  attempt : Attempt
  log : List Happening := []
  sent : List TaskEvent := []

def Happening.isContact : Happening → Bool
  | .contacted _ _ => true
  | _ => false

/-- What a turn of the run sends on its channel. -/
def Run.broadcasts (r : Run) (turn : Turn) : List TaskEvent :=
  match r.phase, turn.input with
  | .streaming, .event (.token text) => [.token text]
  | .telling event, .proceed => [event]
  | .announcing outcome, .proceed => [Outcome.event outcome]
  | _, _ => []

/-- How long a wait takes, and what it comes to. -/
def Wait.resolve {α : Type} (deadline instant : Nat) (input : α → Input) : Wait α → Nat × Input
  | .comes passed value => (passed, input value)
  | .misses late => (deadline - instant + late, .expired)

namespace Driven

variable (cfg : Runner) (env : Surroundings) (s : Driven)

/-- How often the upstream was contacted. -/
def contacts : Nat := s.log.countP Happening.isContact

def instant : Nat := s.shared.instant

/-- What the run waits for: how long it takes, what it comes to, and what is left of
the contact. -/
def awaited (n : Nat) : Nat × Input × Attempt :=
  match s.run.phase with
  | .opening => (env.lag n, .proceed, env.upstream s.contacts)
  | .awaiting =>
    let (passed, input) := s.attempt.opened.resolve s.run.deadline s.instant .opened
    (passed, input, s.attempt)
  | .streaming =>
    match s.attempt.events with
    | (passed, event) :: rest => (passed, .event event, { s.attempt with events := rest })
    | [] =>
      let (passed, input) := s.attempt.ending.resolve s.run.deadline s.instant fun _ => .ended
      (passed, input, s.attempt)
  | .sleeping _ wakeAt => (wakeAt - s.instant + env.lag n, .proceed, s.attempt)
  | _ => (env.lag n, .proceed, s.attempt)

/-- The shared state as the run finds it. -/
def found (n : Nat) : Shared :=
  { env.others n s.shared with instant := s.instant + (s.awaited env n).1 }

def turn (n : Nat) : Turn := ⟨env.now n, env.fault n, (s.awaited env n).2.1⟩

def step (n : Nat) : Driven :=
  let (shared, run, log) := s.run.move (s.found env n) cfg (s.turn env n)
  { shared, run, attempt := (s.awaited env n).2.2, log := s.log ++ log,
    sent := s.sent ++ s.run.broadcasts (s.turn env n) }

/-- The run after some turns. -/
def after : Nat → Driven
  | 0 => s
  | n + 1 => (after n).step cfg env n

end Driven

/-! ## One turn -/

namespace Run

variable {r : Run} {w : Shared} {cfg : Runner} {turn : Turn}

/-- What is sent in a turn is what the hub gets. -/
theorem hub_move (r : Run) (w : Shared) (cfg : Runner) (turn : Turn) :
    (r.move w cfg turn).1.hub =
      (r.broadcasts turn).foldl (fun hub event => hub.send r.tx event) w.hub := by
  obtain ⟨now, fault, input⟩ := turn
  cases phase : r.phase with
  | awaiting => simp [move, broadcasts, phase]
  | streaming =>
    cases input with
    | event event =>
      cases event with
      | token | tool | done => simp [move, broadcasts, phase, follow, receive]
      | task | progress | error =>
        simp only [move, broadcasts, phase, follow, receive]
        split <;> rfl
    | _ => simp [move, broadcasts, phase, follow]
  | sleeping upstream wakeAt =>
    cases input with
    | proceed => simp only [move, broadcasts, phase, proceed]; split <;> rfl
    | _ => simp [move, broadcasts, phase]
  | _ =>
    cases input with
    | proceed => simp [move, broadcasts, phase, proceed]
    | _ => simp [move, broadcasts, phase]

end Run

/-- How far a phase is from the end, as long as no pause comes between. -/
def Phase.height : Phase → Nat
  | .opening => 9
  | .awaiting => 8
  | .telling _ => 7
  | .streaming => 6
  | .sleeping _ _ => 5
  | .storing _ => 4
  | .announcing _ => 3
  | .closing => 0

/-- A phase about which there is nothing more to know. -/
def Phase.isPlain : Phase → Bool
  | .opening | .awaiting | .streaming | .storing _ | .announcing _ => true
  | .telling _ | .sleeping _ _ | .closing => false

namespace Run

variable {r : Run} {w : Shared} {limit : Nat}

/-- What a turn within a contact comes to: the clock, the deadline and the number of
contacts stay, and the run gets below a height. A pause is long enough and ends before
the deadline, and what is to be told on the way is no ending. -/
structure Onward (r : Run) (w : Shared) (limit : Nat) (after : Shared × Run × List Happening) :
    Prop where
  instant : after.1.instant = w.instant
  deadline : after.2.1.deadline = r.deadline
  backoff : resumeBackoffMs ≤ r.backoff → resumeBackoffMs ≤ after.2.1.backoff
  silent : after.2.2.countP Happening.isContact = 0
  height : after.2.1.phase.height < limit
  goes : after.2.1.phase ≠ .closing
  pause : resumeBackoffMs ≤ r.backoff → ∀ up wakeAt, after.2.1.phase = .sleeping up wakeAt →
    w.instant + resumeBackoffMs ≤ wakeAt ∧ wakeAt < r.deadline
  tells : ∀ event, after.2.1.phase = .telling event → event.isTerminal = false

theorem Onward.plain {shared : Shared} {run : Run} {log : List Happening}
    (instant : shared.instant = w.instant) (deadline : run.deadline = r.deadline)
    (backoff : run.backoff = r.backoff) (silent : log.countP Happening.isContact = 0)
    (height : run.phase.height < limit) (isPlain : run.phase.isPlain = true) :
    r.Onward w limit (shared, run, log) where
  instant := instant
  deadline := deadline
  backoff long := backoff ▸ long
  silent := silent
  height := height
  goes closing := by cases closing ▸ isPlain
  pause _ up wakeAt sleeping := by cases sleeping ▸ isPlain
  tells event telling := by cases telling ▸ isPlain

theorem Onward.breakOff {shared : Shared} (instant : shared.instant = w.instant)
    (high : 5 < limit) (errorClass broken : String) :
    r.Onward w limit (shared, r.breakOff w errorClass broken, []) := by
  unfold Run.breakOff
  split
  case h_1 => exact .plain instant rfl rfl rfl (Nat.lt_trans (by decide : 4 < 5) high) rfl
  case h_2 up upstream =>
    split
    case isTrue => exact .plain instant rfl rfl rfl (Nat.lt_trans (by decide : 4 < 5) high) rfl
    case isFalse early =>
      refine ⟨instant, rfl, id, rfl, high, by simp, ?_, by simp⟩
      rintro long _ _ ⟨⟩
      exact ⟨Nat.add_le_add_left long _, Nat.not_le.mp early⟩

variable {turn : Turn}
variable (cfg : Runner)

theorem await_onward (awaiting : r.phase = .awaiting)
    (answered : (∃ result, turn.input = .opened result) ∨
      (turn.input = .expired ∧ r.deadline ≤ w.instant)) : r.Onward w 8 (r.move w cfg turn) := by
  rw [move, awaiting]
  simp only
  rcases answered with ⟨result, opened⟩ | ⟨expired, late⟩
  · rw [opened]
    cases result with
    | error e =>
      have broken : ({ r with overrides := { r.overrides with clientFiles := none } } :
          Run).Onward w 8 (w, _, []) := .breakOff rfl (by decide) e.errorClass e.display
      exact { broken with }
    | ok _ => exact .plain rfl rfl rfl rfl (by decide : 6 < 8) rfl
  · rw [expired, await, if_pos late]
    exact .plain rfl rfl rfl rfl (by decide : 4 < 8) rfl

theorem event_onward {event : StreamEvent} (streaming : r.phase = .streaming)
    (given : turn.input = .event event) : r.Onward w 8 (r.move w cfg turn) := by
  rw [move, streaming]
  simp only [follow, given]
  have height : r.phase.height < 8 := by rw [streaming]; decide
  have isPlain : r.phase.isPlain = true := by rw [streaming]; rfl
  unfold receive
  split
  case h_1 | h_4 => exact .plain rfl rfl rfl rfl height isPlain
  case h_2 | h_3 =>
    split
    case h_1 => exact .plain rfl rfl rfl rfl height isPlain
    case h_2 =>
      refine ⟨rfl, rfl, fun _ => Nat.le_refl _, rfl, (by decide : 7 < 8), nofun, nofun, ?_⟩
      rintro _ ⟨⟩
      rfl
  case h_5 => exact .plain rfl rfl rfl rfl (by decide : 4 < 8) rfl
  case h_6 error detail =>
    split
    case isTrue => exact .plain rfl rfl rfl rfl (by decide : 4 < 8) rfl
    case isFalse => exact .breakOff rfl (by decide) "tool" error.display

theorem ending_onward (streaming : r.phase = .streaming)
    (finished : turn.input = .ended ∨ (turn.input = .expired ∧ r.deadline ≤ w.instant)) :
    r.Onward w 6 (r.move w cfg turn) := by
  rw [move, streaming]
  rcases finished with ended | ⟨expired, late⟩
  · simp only [follow, ended]
    exact .breakOff rfl (by decide) "tool" _
  · simp only [follow, expired, if_pos late]
    exact .plain rfl rfl rfl rfl (by decide : 4 < 6) rfl

theorem telling_onward {event : TaskEvent} (telling : r.phase = .telling event)
    (proceed : turn.input = .proceed) : r.Onward w 7 (r.move w cfg turn) := by
  simp only [move, telling, proceed, Run.proceed]
  exact .plain rfl rfl rfl rfl (by decide : 6 < 7) rfl

theorem storing_onward {outcome : Outcome} (storing : r.phase = .storing outcome)
    (proceed : turn.input = .proceed) : r.Onward w 4 (r.move w cfg turn) := by
  simp only [move, storing, proceed, Run.proceed]
  exact .plain rfl rfl rfl rfl (by decide : 3 < 4) rfl

end Run

/-! ## One turn of the driven run -/

/-- The phases of a contact, up to its outcome. -/
def Phase.isWithin : Phase → Bool
  | .awaiting | .streaming | .telling _ | .storing _ => true
  | .opening | .sleeping _ _ | .announcing _ | .closing => false

def Phase.isOpening : Phase → Bool
  | .opening => true
  | _ => false

theorem Wait.resolve_cases {α : Type} (deadline instant : Nat) (input : α → Input)
    (wait : Wait α) :
    (∃ value, (wait.resolve deadline instant input).2 = input value) ∨
      ((wait.resolve deadline instant input).2 = .expired ∧
        deadline ≤ instant + (wait.resolve deadline instant input).1) := by
  cases wait with
  | comes passed value => exact .inl ⟨value, rfl⟩
  | misses late => exact .inr ⟨rfl, by simp only [resolve]; omega⟩

namespace Driven

variable (cfg : Runner) (env : Surroundings) {s : Driven} (n : Nat)

/-- A turn within a contact gets the run closer to its end: an event is used up, or the
phase gets lower. -/
theorem step_within (within : s.run.phase.isWithin = true) :
    ∃ limit ≤ 8, s.run.Onward (s.found env n) limit
        (s.run.move (s.found env n) cfg (s.turn env n)) ∧
      2 * (s.awaited env n).2.2.events.length + limit ≤
        2 * s.attempt.events.length + s.run.phase.height := by
  cases phase : s.run.phase with
  | opening | sleeping | announcing | closing =>
    rw [phase] at within
    cases within
  | awaiting =>
    refine ⟨8, Nat.le_refl 8, Run.await_onward cfg phase ?_, ?_⟩
    · have resolved := s.attempt.opened.resolve_cases s.run.deadline s.instant .opened
      simpa only [turn, found, awaited, phase] using resolved
    · simp only [awaited, phase, Phase.height, Nat.le_refl]
  | streaming =>
    cases events : s.attempt.events with
    | cons first rest =>
      obtain ⟨passed, event⟩ := first
      have given : (s.turn env n).input = .event event := by
        simp only [turn, awaited, phase, events]
      refine ⟨8, Nat.le_refl 8, Run.event_onward cfg phase given, ?_⟩
      simp only [awaited, phase, events, Phase.height, List.length_cons]
      omega
    | nil =>
      refine ⟨6, by decide, Run.ending_onward cfg phase ?_, ?_⟩
      · have resolved :=
          s.attempt.ending.resolve_cases s.run.deadline s.instant fun _ => .ended
        simpa only [turn, found, awaited, phase, events, exists_const] using resolved
      · simp only [awaited, phase, events, Phase.height, Nat.le_refl]
  | telling event =>
    refine ⟨7, by decide, Run.telling_onward cfg phase ?_, ?_⟩
    · simp only [turn, awaited, phase]
    · simp only [awaited, phase, Phase.height, Nat.le_refl]
  | storing outcome =>
    refine ⟨4, by decide, Run.storing_onward cfg phase ?_, ?_⟩
    · simp only [turn, awaited, phase]
    · simp only [awaited, phase, Phase.height, Nat.le_refl]

theorem step_opening (opening : s.run.phase = .opening) :
    (s.step cfg env n).run = { s.run with phase := .awaiting } ∧
      (s.step cfg env n).instant = s.instant + env.lag n ∧
      (s.step cfg env n).attempt = env.upstream s.contacts ∧
      (s.step cfg env n).contacts = s.contacts + 1 ∧ (s.step cfg env n).sent = s.sent := by
  simp [step, contacts, instant, turn, found, awaited, opening, Run.move, Run.proceed,
    Run.broadcasts, Happening.isContact]

theorem step_sleeping {up : String} {wakeAt : Nat}
    (sleeping : s.run.phase = .sleeping up wakeAt) :
    (s.step cfg env n).run = { s.run with
        start := .resume up, backoff := min (s.run.backoff * 2) resumeBackoffMaxMs,
        phase := .opening } ∧
      wakeAt ≤ (s.step cfg env n).instant ∧ (s.step cfg env n).contacts = s.contacts ∧
      (s.step cfg env n).sent = s.sent := by
  have awake : wakeAt ≤ s.shared.instant + (wakeAt - s.shared.instant + env.lag n) := by omega
  simp [step, contacts, instant, turn, found, awaited, sleeping, Run.move, Run.proceed,
    Run.broadcasts, awake]

theorem step_announcing {outcome : Outcome} (announcing : s.run.phase = .announcing outcome) :
    (s.step cfg env n).run = { s.run with phase := .closing } ∧
      (s.step cfg env n).instant = s.instant + env.lag n ∧
      (s.step cfg env n).attempt = s.attempt ∧ (s.step cfg env n).contacts = s.contacts ∧
      (s.step cfg env n).sent = s.sent ++ [Outcome.event outcome] := by
  simp [step, contacts, instant, turn, found, awaited, announcing, Run.move, Run.proceed,
    Run.broadcasts]

/-- A run that has returned does nothing more. -/
theorem step_closing (closing : s.run.phase = .closing) :
    (s.step cfg env n).run = s.run ∧ (s.step cfg env n).instant = s.instant + env.lag n ∧
      (s.step cfg env n).log = s.log ∧ (s.step cfg env n).sent = s.sent := by
  simp [step, instant, turn, found, awaited, closing, Run.move, Run.proceed, Run.broadcasts]

/-! ## What every turn keeps -/

/-- The run is in time: every pause behind it took the least pause or longer, and so
did every contact after the first. -/
structure InTime (cfg : Runner) (began : Nat) (s : Driven) : Prop where
  backoff : resumeBackoffMs ≤ s.run.backoff
  deadline : s.run.deadline ≤ began + cfg.taskMaxMs
  pauses : ∃ k, s.contacts = (if s.run.phase.isOpening then k else k + 1) ∧
    began + resumeBackoffMs * k ≤ s.instant ∧ resumeBackoffMs * k ≤ cfg.taskMaxMs
  sleeping : ∀ up wakeAt, s.run.phase = .sleeping up wakeAt →
    s.instant + resumeBackoffMs ≤ wakeAt ∧ wakeAt < s.run.deadline

/-- No ending is sent before the run is over, and then one. -/
structure TellsOnce (s : Driven) : Prop where
  telling : ∀ event, s.run.phase = .telling event → event.isTerminal = false
  ongoing : s.run.phase ≠ .closing → Ongoing TaskEvent.isTerminal s.sent
  ended : s.run.phase = .closing → ∃ last, EndsWith TaskEvent.isTerminal s.sent last

theorem isOpening_of_height {phase : Phase} (low : phase.height < 9) :
    phase.isOpening = false := by
  cases phase with
  | opening => exact absurd low (by decide)
  | _ => rfl

theorem contacts_step (s : Driven) :
    (s.step cfg env n).contacts = s.contacts +
      (s.run.move (s.found env n) cfg (s.turn env n)).2.2.countP Happening.isContact :=
  List.countP_append ..

variable {cfg env n} {began : Nat}

theorem InTime.within (inTime : InTime cfg began s) (within : s.run.phase.isWithin = true) :
    InTime cfg began (s.step cfg env n) := by
  obtain ⟨limit, low, onward, _⟩ := step_within cfg env n within
  have instant : (s.step cfg env n).instant = s.instant + (s.awaited env n).1 := onward.instant
  have deadline : (s.step cfg env n).run.deadline = s.run.deadline := onward.deadline
  refine ⟨onward.backoff inTime.backoff, deadline ▸ inTime.deadline, ?_, ?_⟩
  · obtain ⟨k, counted, spent, room⟩ := inTime.pauses
    have before : s.run.phase.isOpening = false := by
      cases phase : s.run.phase <;> simp_all [Phase.isWithin, Phase.isOpening]
    have now : (s.step cfg env n).run.phase.isOpening = false :=
      isOpening_of_height (Nat.lt_of_lt_of_le onward.height (Nat.le_succ_of_le low))
    rw [before] at counted
    refine ⟨k, ?_, by omega, room⟩
    rw [contacts_step, onward.silent, now]
    exact counted
  · intro up wakeAt sleeping
    rw [instant, deadline]
    exact onward.pause inTime.backoff up wakeAt sleeping

/-- A turn that only enters a phase which is no pause. -/
theorem InTime.turned {after : Driven} {next : Phase} (inTime : InTime cfg began s)
    (run : after.run = { s.run with phase := next }) (later : s.instant ≤ after.instant)
    (contacts : ∀ k, s.contacts = (if s.run.phase.isOpening then k else k + 1) →
      after.contacts = if next.isOpening then k else k + 1)
    (awake : ∀ up wakeAt, next ≠ .sleeping up wakeAt) : InTime cfg began after := by
  obtain ⟨k, counted, spent, room⟩ := inTime.pauses
  refine ⟨run ▸ inTime.backoff, run ▸ inTime.deadline, ⟨k, ?_, by omega, room⟩, ?_⟩
  · rw [run]
    exact contacts k counted
  · rw [run]
    exact fun up wakeAt sleeping => absurd sleeping (awake up wakeAt)

/-- A run that is in time has made few contacts. -/
theorem InTime.contacts_le (inTime : InTime cfg began s) :
    s.contacts ≤ 1 + cfg.taskMaxMs / resumeBackoffMs := by
  obtain ⟨k, counted, _, room⟩ := inTime.pauses
  have few : k ≤ cfg.taskMaxMs / resumeBackoffMs := by
    rw [Nat.le_div_iff_mul_le (by decide), Nat.mul_comm]
    exact room
  rw [counted]
  split <;> omega

/-! ## What the run sends -/

/-- Within a contact no ending is sent. -/
theorem TellsOnce.ongoing_broadcasts (tells : s.TellsOnce) (within : s.run.phase.isWithin = true)
    (turn : Turn) : Ongoing TaskEvent.isTerminal (s.run.broadcasts turn) := by
  unfold Run.broadcasts
  split
  case h_1 => exact List.forall_mem_singleton.mpr rfl
  case h_2 event telling _ => exact List.forall_mem_singleton.mpr (tells.telling event telling)
  case h_3 announcing _ =>
    rw [announcing] at within
    cases within
  case h_4 => exact List.forall_mem_nil _

theorem TellsOnce.within (tells : s.TellsOnce) (within : s.run.phase.isWithin = true) :
    (s.step cfg env n).TellsOnce := by
  obtain ⟨limit, _, onward, _⟩ := step_within cfg env n within
  have running : s.run.phase ≠ .closing := by
    intro closing
    rw [closing] at within
    cases within
  refine ⟨onward.tells, fun _ => ?_, fun closing => absurd closing onward.goes⟩
  exact (tells.ongoing running).append (tells.ongoing_broadcasts within _)

/-- A run stays in time, and silent about its end until it is over. -/
structure Kept (cfg : Runner) (began : Nat) (s : Driven) : Prop where
  inTime : InTime cfg began s
  tells : s.TellsOnce

theorem kept_step (s : Driven) (kept : Kept cfg began s) (n : Nat) :
    Kept cfg began (s.step cfg env n) := by
  obtain ⟨inTime, tells⟩ := kept
  cases phase : s.run.phase with
  | awaiting | streaming | telling | storing =>
    have within : s.run.phase.isWithin = true := by rw [phase]; rfl
    exact ⟨inTime.within within, tells.within within⟩
  | opening =>
    obtain ⟨run, instant, _, contacts, sent⟩ := step_opening cfg env n phase
    have ongoing := tells.ongoing (by rw [phase]; nofun)
    refine ⟨?_, by rw [run]; nofun, fun _ => sent ▸ ongoing, by rw [run]; nofun⟩
    exact inTime.turned run (by omega) (by simp [phase, contacts, Phase.isOpening]) nofun
  | sleeping up wakeAt =>
    obtain ⟨run, awake, contacts, sent⟩ := step_sleeping cfg env n phase
    obtain ⟨long, early⟩ := inTime.sleeping up wakeAt phase
    obtain ⟨k, counted, spent, room⟩ := inTime.pauses
    have deadline := inTime.deadline
    have backoff := inTime.backoff
    have ongoing := tells.ongoing (by rw [phase]; nofun)
    rw [phase] at counted
    have next : resumeBackoffMs * (k + 1) = resumeBackoffMs * k + resumeBackoffMs := rfl
    refine ⟨⟨?_, run ▸ inTime.deadline, ⟨k + 1, ?_, by omega, by omega⟩, ?_⟩, by rw [run]; nofun,
      fun _ => sent ▸ ongoing, by rw [run]; nofun⟩
    · rw [run]
      exact Nat.le_min.mpr ⟨by omega, by decide⟩
    · rw [contacts, counted, run]
      rfl
    · rw [run]
      nofun
  | announcing outcome =>
    obtain ⟨run, instant, _, contacts, sent⟩ := step_announcing cfg env n phase
    have ongoing := tells.ongoing (by rw [phase]; nofun)
    have isLast : (Outcome.event outcome).isTerminal = true := by
      cases outcome <;> rfl
    refine ⟨?_, by rw [run]; nofun, fun goes => absurd (by rw [run]) goes, fun _ => ?_⟩
    · exact inTime.turned run (by omega) (by simp [phase, contacts, Phase.isOpening]) nofun
    · exact ⟨_, s.sent, sent, ongoing, isLast⟩
  | closing =>
    obtain ⟨run, instant, log, sent⟩ := step_closing cfg env n phase
    have same : (s.step cfg env n).run = { s.run with phase := s.run.phase } := run
    have ended := tells.ended phase
    refine ⟨?_, by rw [run, phase]; nofun, fun goes => absurd (by rw [run, phase]) goes,
      fun _ => sent ▸ ended⟩
    refine inTime.turned same (by omega) (fun k counted => ?_) (by rw [phase]; nofun)
    rwa [Driven.contacts, log]

theorem kept_after (kept : Kept cfg began s) (n : Nat) : Kept cfg began (s.after cfg env n) := by
  induction n with
  | zero => exact kept
  | succ n ih => exact kept_step _ ih n

/-! ## The run returns -/

/-- How much is left: time until the deadline, and within a contact its events and the
height of the phase. -/
def left (env : Surroundings) (s : Driven) : ℕ ×ₗ ℕ :=
  let events := if s.run.phase.isOpening then env.upstream s.contacts else s.attempt
  toLex (s.run.deadline - s.instant, 2 * events.events.length + s.run.phase.height)

theorem left_lt {after : Driven} (deadline : after.run.deadline = s.run.deadline)
    (later : s.instant ≤ after.instant)
    (lower : (ofLex (after.left env)).2 < (ofLex (s.left env)).2) :
    after.left env < s.left env := by
  have time : (ofLex (after.left env)).1 ≤ (ofLex (s.left env)).1 := by
    show after.run.deadline - after.instant ≤ s.run.deadline - s.instant
    omega
  rw [Prod.Lex.lt_iff]
  rcases Nat.lt_or_eq_of_le time with less | same
  · exact .inl less
  · exact .inr ⟨same, lower⟩

/-- Every turn of a run that has not returned leaves less. -/
theorem left_step (inTime : InTime cfg began s) (running : s.run.phase ≠ .closing) :
    (s.step cfg env n).left env < s.left env := by
  cases phase : s.run.phase with
  | closing => exact absurd phase running
  | awaiting | streaming | telling | storing =>
    have within : s.run.phase.isWithin = true := by rw [phase]; rfl
    obtain ⟨limit, low, onward, closer⟩ := step_within cfg env n within
    have now : (s.step cfg env n).run.phase.isOpening = false :=
      isOpening_of_height (Nat.lt_of_lt_of_le onward.height (Nat.le_succ_of_le low))
    have before : s.run.phase.isOpening = false := by rw [phase]; rfl
    have instant : (s.step cfg env n).instant = s.instant + (s.awaited env n).1 :=
      onward.instant
    refine left_lt onward.deadline (by omega) ?_
    simp only [left, now, before, ofLex_toLex]
    exact Nat.lt_of_lt_of_le (Nat.add_lt_add_left onward.height _) closer
  | opening =>
    obtain ⟨run, instant, attempt, _, _⟩ := step_opening cfg env n phase
    refine left_lt (by rw [run]) (by omega) ?_
    simp only [left, run, attempt, phase, Phase.isOpening, Phase.height, ofLex_toLex]
    simp
  | sleeping up wakeAt =>
    obtain ⟨run, awake, _, _⟩ := step_sleeping cfg env n phase
    obtain ⟨long, early⟩ := inTime.sleeping up wakeAt phase
    have pause : 0 < resumeBackoffMs := by decide
    have deadline : (s.step cfg env n).run.deadline = s.run.deadline := by rw [run]
    refine Prod.Lex.lt_iff.mpr (.inl ?_)
    show (s.step cfg env n).run.deadline - (s.step cfg env n).instant < s.run.deadline - s.instant
    omega
  | announcing outcome =>
    obtain ⟨run, instant, attempt, _, _⟩ := step_announcing cfg env n phase
    refine left_lt (by rw [run]) (by omega) ?_
    simp only [left, run, attempt, phase, Phase.isOpening, Phase.height, ofLex_toLex]
    simp

/-- Some turn is the last one. -/
theorem exists_closing (kept : Kept cfg began s) (env : Surroundings) :
    ∃ n, (s.after cfg env n).run.phase = .closing := by
  by_contra never
  rw [not_exists] at never
  have falls : ∀ n, (s.after cfg env (n + 1)).left env < (s.after cfg env n).left env :=
    fun n => left_step (kept_after kept n).inTime (never n)
  obtain ⟨n, least⟩ := WellFounded.not_rel_apply_succ (r := (· < ·))
    fun n => (s.after cfg env n).left env
  exact least (falls n)

/-- After its last turn a run shows and sends nothing more. -/
theorem after_of_closing {n : Nat} (closing : (s.after cfg env n).run.phase = .closing) {m : Nat}
    (later : n ≤ m) :
    (s.after cfg env m).run.phase = .closing ∧
      (s.after cfg env m).log = (s.after cfg env n).log ∧
      (s.after cfg env m).sent = (s.after cfg env n).sent := by
  induction later with
  | refl => exact ⟨closing, rfl, rfl⟩
  | @step m _ ih =>
    obtain ⟨closed, log, sent⟩ := ih
    obtain ⟨run, _, sameLog, sameSent⟩ := step_closing cfg env m closed
    exact ⟨by rw [after, run, closed], sameLog.trans log, sameSent.trans sent⟩

/-- The run is over, and its last event, and no other, tells an end. -/
structure Returned (s : Driven) : Prop where
  closing : s.run.phase = .closing
  ending : ∃ last, EndsWith TaskEvent.isTerminal s.sent last

end Driven

/-- A run from its start, among its surroundings. -/
def Run.driven (r : Run) (w : Shared) (env : Surroundings) : Driven where
  shared := w
  run := r
  attempt := env.upstream 0

/-- A run makes few contacts, returns, and sends one ending, as its last event. -/
theorem runner_contacts_bounded (cfg : Runner) (env : Surroundings) (w : Shared) (now : Int)
    (record : TaskRecord) (start : Start) (principal : Principal) (overrides : ContextOverrides)
    (tx : Nat) (persist : Persist) :
    let s := ((Run.spawn cfg w now record start principal overrides tx persist).driven w
      env).after cfg env
    (∀ n, (s n).contacts ≤ 1 + cfg.taskMaxMs / resumeBackoffMs) ∧
      (∃ n, (s n).Returned ∧ ∀ m, n ≤ m → (s m).log = (s n).log ∧ (s m).sent = (s n).sent) ∧
      ∀ n, ∃ events, (s (n + 1)).sent = (s n).sent ++ events ∧
        (s (n + 1)).shared.hub = events.foldl (fun hub event => hub.send (s n).run.tx event)
          (env.others n (s n).shared).hub := by
  intro s
  have begins : Driven.Kept cfg w.instant
      ((Run.spawn cfg w now record start principal overrides tx persist).driven w env) := by
    refine ⟨⟨Nat.le_refl _, ?_, ⟨0, rfl, Nat.le_refl _, Nat.zero_le _⟩, nofun⟩, nofun,
      fun _ => List.forall_mem_nil _, nofun⟩
    exact Nat.add_le_add_left (Nat.sub_le _ _) _
  refine ⟨fun n => (Driven.kept_after begins n).inTime.contacts_le, ?_, ?_⟩
  · obtain ⟨n, closing⟩ := Driven.exists_closing begins env
    refine ⟨n, ⟨closing, (Driven.kept_after begins n).tells.ended closing⟩, ?_⟩
    exact fun m later => (Driven.after_of_closing closing later).2
  · exact fun n => ⟨_, rfl, Run.hub_move _ _ cfg _⟩

end Triton.Tasks
