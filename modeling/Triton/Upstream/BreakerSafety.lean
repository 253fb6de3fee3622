/-
# What the breaker guarantees under concurrency

Two promises about the half-open state, over every interleaving of calls: it
does not outlive the probe that was let through, and there is one probe at a
time. Neither holds without a condition. A probe whose caller the bearer refuses, or
lets go of it, ends without a report and leaves the breaker half-open with nobody to
settle it.
A call admitted while the breaker was closed may report while a probe is under
way, settle the breaker in the probe's place, and so make room for a second one.

A third promise is about the table of breakers: only configured names are in it.
A tool call takes its slot before the name is looked up, so the table grows with
the names callers make up.
-/

import Triton.Lib.Positions
import Triton.Upstream.StaticUpstream

namespace Triton.Upstream

open Triton.Lib
open Triton.Core

/-! ## Steps, seen from one name -/

namespace State

variable (s : State)

theorem breaker_setBreaker (name : String) (b : Breaker) (other : String) :
    (s.setBreaker name b).breaker other = if other = name then b else s.breaker other := by
  rw [breaker, setBreaker, Table.lookup_insert_eq]
  split
  case isTrue | isFalse => rfl

/-- The call at this index is a probe of this name and has not ended. -/
def Probing (name : String) (index : Nat) : Prop :=
  ∃ call, s.calls[index]? = some call ∧ call.name = name ∧ call.wasHalfOpen = true ∧
    call.ended = false

/-- Another call has started. -/
theorem probing_concat {s t : State} {added : Call} (calls : t.calls = s.calls ++ [added])
    (name : String) (index : Nat) :
    t.Probing name index ↔ s.Probing name index ∨ (index = s.calls.length ∧ added.name = name ∧
      added.wasHalfOpen = true ∧ added.ended = false) := by
  constructor
  · rintro ⟨call, found, probing⟩
    rw [calls] at found
    rcases getElem?_concat_cases found with older | ⟨here, rfl⟩
    · exact .inl ⟨call, older, probing⟩
    · exact .inr ⟨here, probing⟩
  · rintro (⟨call, found, probing⟩ | ⟨rfl, probing⟩)
    · have inside := (List.getElem?_eq_some_iff.mp found).1
      exact ⟨call, by rw [calls, List.getElem?_append_left inside]; exact found, probing⟩
    · exact ⟨added, by simp [calls], probing⟩

/-- What a probe's place says about the call found there. -/
theorem Probing.of_getElem? {s : State} {name : String} {index : Nat} {call : Call}
    (probing : s.Probing name index) (found : s.calls[index]? = some call) :
    call.name = name ∧ call.wasHalfOpen = true := by
  obtain ⟨other, there, named, probe, _⟩ := probing
  cases found.symm.trans there
  exact ⟨named, probe⟩

end State

namespace StaticUpstream

variable (up : StaticUpstream) {s : State}

/-- Starting a call leaves the state alone, or takes the slot of the name that guards it.
The call is let through as the probe of an open breaker, turned away, or let through as
no probe. -/
theorem startCall_cases (s : State) (entry : Entry) (principal : Principal)
    (ctx : DispatchContext) :
    up.startCall s entry principal ctx = s ∨
      ∃ name, up.guardName entry = .ok name ∧
        ((s.breaker name).state = .open ∧
            up.startCall s entry principal ctx =
              { s.setBreaker name { s.breaker name with state := .halfOpen } with
                calls := s.calls ++ [⟨entry, name, principal, ctx, true, false⟩] } ∨
          up.startCall s entry principal ctx = s.setBreaker name (s.breaker name) ∨
          up.startCall s entry principal ctx =
            { s.setBreaker name (s.breaker name) with
              calls := s.calls ++ [⟨entry, name, principal, ctx, false, false⟩] }) := by
  unfold startCall
  cases guarded : up.guardName entry with
  | error e => exact .inl rfl
  | ok name =>
    refine .inr ⟨name, rfl, ?_⟩
    rcases (s.breaker name).checkAndArm_cases s.now up.circuitCooldown with
      ⟨armed, wasOpen⟩ | ⟨allowed, unarmed, _⟩
    · exact .inl ⟨wasOpen, by simp [armed, State.setBreaker]⟩
    · cases allowed with
      | false => exact .inr (.inl (by simp [unarmed]))
      | true => exact .inr (.inr (by simp [unarmed, State.setBreaker]))

/-- What a step does that ends no call: it may hand out the probe of an open breaker. -/
structure MayProbe (s t : State) (armed : Option String) : Prop where
  wasOpen : ∀ name ∈ armed, (s.breaker name).state = .open
  breakers : ∀ name, t.breaker name =
    if armed = some name then { s.breaker name with state := .halfOpen } else s.breaker name
  probing : ∀ name index, t.Probing name index ↔
    s.Probing name index ∨ (armed = some name ∧ index = s.calls.length)
  probes : ∀ call ∈ t.calls, call.wasHalfOpen = true → call ∈ s.calls ∨ armed = some call.name

theorem mayProbe_of_same {s t : State} (breakers : ∀ name, t.breaker name = s.breaker name)
    (calls : t.calls = s.calls) : MayProbe s t none := by
  constructor <;> simp +contextual [breakers, calls, State.Probing]

theorem mayProbe_startCall (s : State) (entry : Entry) (principal : Principal)
    (ctx : DispatchContext) : ∃ armed, MayProbe s (up.startCall s entry principal ctx) armed := by
  have rewritten : ∀ name other, (s.setBreaker name (s.breaker name)).breaker other =
      s.breaker other := by
    intro name other
    rw [State.breaker_setBreaker]
    split
    case isTrue same => rw [same]
    case isFalse => rfl
  rcases up.startCall_cases s entry principal ctx with
    same | ⟨name, _, ⟨wasOpen, started⟩ | started | started⟩
  · rw [same]
    exact ⟨none, mayProbe_of_same (fun _ => rfl) rfl⟩
  · rw [started]
    refine ⟨some name, by simpa using wasOpen, fun other => ?_, fun other index => ?_, ?_⟩
    · refine (s.breaker_setBreaker name _ other).trans ?_
      by_cases same : name = other <;> simp [same, eq_comm]
    · rw [State.probing_concat rfl]
      simp [and_comm]
    · exact fun call member _ => (List.mem_append.mp member).imp_right fun new => by
        rw [List.mem_singleton.mp new]
  · rw [started]
    exact ⟨none, mayProbe_of_same (rewritten name) rfl⟩
  · rw [started]
    refine ⟨none, by simp, rewritten name, fun other index => ?_,
      fun call member probe => .inl ?_⟩
    · rw [State.probing_concat rfl]
      simp
    · refine (List.mem_append.mp member).resolve_right fun new => ?_
      rw [List.mem_singleton.mp new] at probe
      cases probe

variable {index : Nat} {call : Call} {name : String} {label : Label} {verdict : Option Bool}

theorem calls_settle (s : State) (index : Nat) (call : Call) (verdict : Option Bool) :
    (up.settle s index call verdict).calls = s.calls.set index { call with ended := true } := by
  cases verdict <;> rfl

/-- Ending a call takes it, and nothing else, out of the calls under way. -/
theorem probing_settle (found : s.calls[index]? = some call) (verdict : Option Bool)
    (name : String) (j : Nat) :
    (up.settle s index call verdict).Probing name j ↔ j ≠ index ∧ s.Probing name j := by
  have inside : index < s.calls.length := (List.getElem?_eq_some_iff.mp found).1
  rw [State.Probing, calls_settle]
  by_cases same : j = index
  · subst same
    simp [List.getElem?_set_self inside]
  · simp [List.getElem?_set_ne (Ne.symm same), same, State.Probing]

theorem breaker_settle_none (index : Nat) (call : Call) (name : String) :
    (up.settle s index call none).breaker name = s.breaker name := rfl

theorem breaker_settle_ne (index : Nat) (call : Call) (verdict : Option Bool)
    (ne : name ≠ call.name) : (up.settle s index call verdict).breaker name = s.breaker name := by
  cases verdict with
  | none => rfl
  | some success =>
    rw [settle, State.breaker_setBreaker, if_neg ne]
    rfl

/-- Only a call under way can be ended, by an exchange of its own kind or by a drop. -/
theorem ending_cases (ends : up.ending s label = some (index, call, verdict)) :
    s.calls[index]? = some call ∧ call.ended = false ∧
      ((label.drops = false ∧
          ((call.entry.streams = false ∧ ∃ exchange, verdict = up.finishReport call exchange) ∨
            (call.entry.streams = true ∧
              ∃ exchange, verdict = up.finishStreamReport call exchange))) ∨
        (label.drops = true ∧ verdict = none)) := by
  have found : ∀ {j c}, s.underway j = some c → s.calls[j]? = some c ∧ c.ended = false := by
    intro j c underway
    simpa [State.underway, Option.filter_eq_some_iff] using underway
  cases label with
  | tick nanos | call entry principal ctx => simp [ending] at ends
  | finish j exchange =>
    obtain ⟨c, underway, rest⟩ := Option.bind_eq_some_iff.mp ends
    by_cases streams : c.entry.streams = true
    · simp [streams] at rest
    · rw [if_neg streams] at rest
      cases rest
      exact ⟨(found underway).1, (found underway).2,
        .inl ⟨rfl, .inl ⟨by simpa using streams, exchange, rfl⟩⟩⟩
  | finishStream j exchange =>
    obtain ⟨c, underway, rest⟩ := Option.bind_eq_some_iff.mp ends
    by_cases streams : c.entry.streams = true
    · rw [if_pos streams] at rest
      cases rest
      exact ⟨(found underway).1, (found underway).2,
        .inl ⟨rfl, .inr ⟨streams, exchange, rfl⟩⟩⟩
    · simp [streams] at rest
  | drop j =>
    obtain ⟨c, underway, rest⟩ := Option.map_eq_some_iff.mp ends
    cases rest
    exact ⟨(found underway).1, (found underway).2, .inr ⟨rfl, rfl⟩⟩

/-- Every step ends a call, or does at most hand out a probe. -/
theorem step_cases (s : State) (label : Label) :
    (up.ending s label = none ∧ ∃ armed, MayProbe s (up.step s label) armed) ∨
      (∃ index call verdict, up.ending s label = some (index, call, verdict) ∧
        up.step s label = up.settle s index call verdict) := by
  cases ends : up.ending s label with
  | none =>
    refine .inl ⟨rfl, ?_⟩
    cases label with
    | tick nanos => exact ⟨none, mayProbe_of_same (fun _ => rfl) rfl⟩
    | call entry principal ctx => exact up.mayProbe_startCall s entry principal ctx
    | finish | finishStream | drop =>
      rw [step, ends]
      exact ⟨none, mayProbe_of_same (fun _ => rfl) rfl⟩
  | some ended =>
    obtain ⟨index, call, verdict⟩ := ended
    refine .inr ⟨index, call, verdict, rfl, ?_⟩
    cases label with
    | tick | call => cases ends
    | finish | finishStream | drop => rw [step, ends]

/-! ## When a probe ends without a report -/

/-- The bearer turns the caller away, and the call ends without a report for it:
a buffered call reports a token that could not be minted, a streamed one does
not. -/
def refuses (call : Call) : Bool :=
  match up.bearer call.principal with
  | .ok _ => false
  | .error (.tool _) => call.entry.streams
  | .error _ => true

/-- Past the map, only the bearer can keep a call from sending. -/
theorem request_of_mapped (mapped : name ∈ up.map) (principal : Principal) (ctx : DispatchContext)
    (entry : Entry) :
    (∃ r, up.request name principal ctx entry = .ok r ∧
        ∃ token, up.bearer principal = .ok token) ∨
      (∃ e, up.request name principal ctx entry = .error e ∧ up.bearer principal = .error e) := by
  obtain ⟨endpoint, found⟩ := Option.isSome_iff_exists.mp (AList.lookup_isSome.mpr mapped)
  cases minted : up.bearer principal with
  | ok token =>
    refine .inl ?_
    cases entry <;> exact ⟨_, by rw [request, found, minted]; rfl, token, rfl⟩
  | error e =>
    refine .inr ⟨e, ?_, rfl⟩
    cases entry <;> (rw [request, found, minted]; rfl)

theorem report_outcome_ne_none (what : String) (exchange : Exchange) :
    report (exchange.outcome what) ≠ none := by
  rcases exchange with _ | _ | ⟨success, status, body⟩
  · simp [Exchange.outcome, report]
  · simp [Exchange.outcome, report]
  · cases success <;> cases body <;> simp [Exchange.outcome, report]

theorem streamReport_probe_ne_none (exchange : StreamExchange) :
    exchange.report true ≠ none := by
  rcases exchange with _ | _ | ⟨success, status, body⟩
  · simp [StreamExchange.report]
  · simp [StreamExchange.report]
  · cases success with
    | false => simp [StreamExchange.report]
    | true =>
      rcases body with body | _ | term
      · cases body <;> simp [StreamExchange.report]
      · simp [StreamExchange.report]
      · cases term <;> simp [StreamExchange.report]

/-- A probe of a mapped name ends without a report exactly when it is dropped or the
bearer refuses its caller. -/
theorem verdict_eq_none_iff (ends : up.ending s label = some (index, call, verdict))
    (mapped : call.name ∈ up.map) (probe : call.wasHalfOpen = true) :
    verdict = none ↔ label.drops = true ∨ up.refuses call = true := by
  obtain ⟨_, _, ⟨answered, kind⟩ | ⟨dropped, rfl⟩⟩ := up.ending_cases ends
  case inr => exact iff_of_true rfl (.inl dropped)
  rw [answered, Bool.false_eq_true, false_or]
  rcases up.request_of_mapped mapped call.principal call.ctx call.entry with
    ⟨r, sent, token, minted⟩ | ⟨e, unsent, refused⟩
  · rcases kind with ⟨_, exchange, rfl⟩ | ⟨_, exchange, rfl⟩
    · refine iff_of_false ?_ (by simp [refuses, minted])
      rw [finishReport, sent]
      exact report_outcome_ne_none _ exchange
    · refine iff_of_false ?_ (by simp [refuses, minted])
      rw [finishStreamReport, sent, probe]
      exact streamReport_probe_ne_none exchange
  · rcases kind with ⟨buffered, exchange, rfl⟩ | ⟨streams, exchange, rfl⟩
    · rw [finishReport, unsent, refuses, refused]
      cases e <;> simp [report, bind, Except.bind, buffered]
    · rw [finishStreamReport, unsent, refuses, refused]
      cases e <;> simp [streams]

/-- A call under an unmapped name reports nothing. -/
theorem verdict_of_unmapped (ends : up.ending s label = some (index, call, verdict))
    (unmapped : call.name ∉ up.map) : verdict = none := by
  obtain ⟨_, _, ⟨_, kind⟩ | ⟨_, dropped⟩⟩ := up.ending_cases ends
  case inr => exact dropped
  have missing : up.map.lookup call.name = none := AList.lookup_eq_none.mpr unmapped
  obtain ⟨message, unsent⟩ : ∃ message,
      up.request call.name call.principal call.ctx call.entry = .error (.validation message) := by
    cases call.entry <;> exact ⟨_, by rw [request, missing]; rfl⟩
  rcases kind with ⟨_, exchange, rfl⟩ | ⟨_, exchange, rfl⟩
  · rw [finishReport, unsent]
    rfl
  · rw [finishStreamReport, unsent]

/-- Names outside the map never leave the closed state, and so never have a
probe. -/
structure Grounded (s : State) : Prop where
  idle : ∀ name, name ∉ up.map → s.breaker name = Breaker.new
  mapped : ∀ call ∈ s.calls, call.wasHalfOpen = true → call.name ∈ up.map

theorem grounded_init : up.Grounded State.init where
  idle _ _ := rfl
  mapped _ mem := by simp [State.init] at mem

theorem grounded_step (s : State) (label : Label) (grounded : up.Grounded s) :
    up.Grounded (up.step s label) := by
  rcases up.step_cases s label with ⟨_, armed, effect⟩ | ⟨index, call, verdict, ends, settled⟩
  · -- an open breaker is not the fresh one, so its name is mapped
    have known : ∀ name, armed = some name → name ∈ up.map := by
      intro name here
      by_contra unmapped
      have wasOpen := effect.wasOpen name here
      rw [grounded.idle name unmapped] at wasOpen
      cases wasOpen
    refine ⟨fun name unmapped => ?_, fun c member probe => ?_⟩
    · rw [effect.breakers, if_neg fun here => unmapped (known name here)]
      exact grounded.idle name unmapped
    · rcases effect.probes c member probe with before | here
      · exact grounded.mapped c before probe
      · exact known c.name here
  · rw [settled]
    refine ⟨fun name unmapped => ?_, fun c member probe => ?_⟩
    · by_cases same : name = call.name
      · subst same
        rw [up.verdict_of_unmapped ends unmapped, breaker_settle_none]
        exact grounded.idle _ unmapped
      · rw [up.breaker_settle_ne index call verdict same]
        exact grounded.idle name unmapped
    · rw [calls_settle] at member
      rcases List.mem_or_eq_of_mem_set member with before | rfl
      · exact grounded.mapped c before probe
      · exact grounded.mapped call (List.mem_of_getElem? (up.ending_cases ends).1) probe

/-- Along every interleaving, a name that nobody configured keeps a fresh breaker, and no
call under it is a probe. -/
theorem unmapped_never_trips (labels : List Label) :
    up.Grounded (run up.step State.init labels) :=
  run_keeps up.grounded_step up.grounded_init labels

/-! ## The breaker does not wedge -/

/-- A half-open breaker has a probe under way. -/
def NeverWedged (s : State) : Prop :=
  ∀ name, (s.breaker name).state = .halfOpen → ∃ index, s.Probing name index

/-- The step ends the only probe of a half-open breaker by dropping it, or the bearer
refuses its caller. -/
def LosesProbe (s : State) (label : Label) : Prop :=
  ∃ index call verdict, up.ending s label = some (index, call, verdict) ∧
    call.wasHalfOpen = true ∧ (s.breaker call.name).state = .halfOpen ∧
    (label.drops = true ∨ up.refuses call = true) ∧ ∀ j, s.Probing call.name j → j = index

/-- A half-open breaker other than that of a lost probe keeps one of its
probes when a call ends. -/
theorem exists_probing_settle (grounded : up.Grounded s) (sound : NeverWedged s)
    (ends : up.ending s label = some (index, call, verdict)) (keeps : ¬ up.LosesProbe s label)
    (halfOpen : ((up.settle s index call verdict).breaker name).state = .halfOpen) :
    ∃ k, k ≠ index ∧ s.Probing name k := by
  have found := (up.ending_cases ends).1
  by_cases same : name = call.name
  · subst same
    cases verdict with
    | some success =>
      rw [settle, State.breaker_setBreaker, if_pos rfl] at halfOpen
      cases probe : call.wasHalfOpen with
      | true =>
        rw [probe] at halfOpen
        exact absurd halfOpen (Breaker.observe_probe_state _ _ _ _)
      | false =>
        rw [probe] at halfOpen
        obtain ⟨k, probing⟩ := sound _ (Breaker.observe_other_state _ _ _ _ halfOpen)
        refine ⟨k, ?_, probing⟩
        rintro rfl
        have isProbe := (probing.of_getElem? found).2
        simp [probe] at isProbe
    | none =>
      rw [breaker_settle_none] at halfOpen
      by_contra lost
      obtain ⟨k, probing⟩ := sound _ halfOpen
      have only : ∀ j, s.Probing call.name j → j = index := fun j probing => by
        by_contra ne
        exact lost ⟨j, ne, probing⟩
      obtain rfl := only k probing
      have probe := (probing.of_getElem? found).2
      have mapped := grounded.mapped call (List.mem_of_getElem? found) probe
      exact keeps ⟨k, call, none, ends, probe, halfOpen,
        (up.verdict_eq_none_iff ends mapped probe).mp rfl, only⟩
  · rw [up.breaker_settle_ne index call verdict same] at halfOpen
    obtain ⟨k, probing⟩ := sound name halfOpen
    refine ⟨k, ?_, probing⟩
    rintro rfl
    exact same (probing.of_getElem? found).1.symm

theorem neverWedged_step_iff (s : State) (label : Label) (grounded : up.Grounded s)
    (sound : NeverWedged s) : NeverWedged (up.step s label) ↔ ¬ up.LosesProbe s label := by
  rcases up.step_cases s label with
    ⟨none_, armed, effect⟩ | ⟨index, call, verdict, ends, settled⟩
  · refine iff_of_true (fun name halfOpen => ?_) ?_
    · by_cases here : armed = some name
      · exact ⟨s.calls.length, (effect.probing name _).mpr (.inr ⟨here, rfl⟩)⟩
      · rw [effect.breakers, if_neg here] at halfOpen
        obtain ⟨index, before⟩ := sound name halfOpen
        exact ⟨index, (effect.probing name index).mpr (.inl before)⟩
    · rintro ⟨index, call, verdict, ends, _⟩
      rw [none_] at ends
      cases ends
  · rw [settled]
    have found := (up.ending_cases ends).1
    constructor
    · rintro kept ⟨j, c, v, ends', probe, halfOpen, refused, only⟩
      rw [ends, Option.some.injEq] at ends'
      cases ends'
      have mapped := grounded.mapped call (List.mem_of_getElem? found) probe
      obtain rfl := (up.verdict_eq_none_iff ends mapped probe).mpr refused
      obtain ⟨k, probing⟩ := kept call.name halfOpen
      rw [up.probing_settle found] at probing
      exact probing.1 (only k probing.2)
    · intro keeps name halfOpen
      obtain ⟨k, survives⟩ := up.exists_probing_settle grounded sound ends keeps halfOpen
      exact ⟨k, (up.probing_settle found verdict name k).mpr survives⟩

/-- Along every interleaving, a half-open breaker always has a probe under way
exactly when no step drops the only probe of a half-open breaker or ends it with a
caller the bearer refuses. -/
theorem neverWedged_run_iff (labels : List Label) :
    EveryStep up.step (fun s label => NeverWedged (up.step s label)) State.init labels ↔
      EveryStep up.step (fun s label => ¬ up.LosesProbe s label) State.init labels := by
  have agree : ∀ s label, up.Grounded s ∧ NeverWedged s →
      (NeverWedged (up.step s label) ↔ ¬ up.LosesProbe s label) := fun s label inv =>
    up.neverWedged_step_iff s label inv.1 inv.2
  exact everyStep_congr_of_invariant
    (fun s label inv kept => ⟨up.grounded_step s label inv.1, kept⟩) agree
    ⟨up.grounded_init, fun _ halfOpen => by cases halfOpen⟩

/-! ## One probe at a time -/

/-- No two calls under way are probes of one name. -/
def AtMostOneProbe (s : State) : Prop :=
  ∀ name i j, s.Probing name i → s.Probing name j → i = j

/-- The step lets a call that was admitted while the breaker was closed report
to a half-open breaker. -/
def StaleReport (s : State) (label : Label) : Prop :=
  ∃ index call success, up.ending s label = some (index, call, some success) ∧
    call.wasHalfOpen = false ∧ (s.breaker call.name).state = .halfOpen

/-- What keeps probes apart: as long as one is under way, its breaker is
half-open and lets nobody else through. -/
structure ProbesApart (s : State) : Prop where
  unique : AtMostOneProbe s
  guarded : ∀ name index, s.Probing name index → (s.breaker name).state = .halfOpen

theorem probesApart_init : ProbesApart State.init where
  unique _ _ _ := by rintro ⟨call, found, _⟩; simp [State.init] at found
  guarded _ _ := by rintro ⟨call, found, _⟩; simp [State.init] at found

theorem probesApart_settle (apart : ProbesApart s)
    (ends : up.ending s label = some (index, call, verdict)) (fresh : ¬ up.StaleReport s label) :
    ProbesApart (up.settle s index call verdict) := by
  obtain ⟨found, underway, _⟩ := up.ending_cases ends
  refine ⟨fun name i j first second => ?_, fun name j probing => ?_⟩
  · rw [up.probing_settle found] at first second
    exact apart.unique name i j first.2 second.2
  · rw [up.probing_settle found] at probing
    obtain ⟨ne, old⟩ := probing
    by_cases same : name = call.name
    · subst same
      -- the ended call is no probe, or there would be two
      have other : call.wasHalfOpen = false := by
        cases probe : call.wasHalfOpen with
        | false => rfl
        | true =>
          exact absurd (apart.unique _ j index old ⟨call, found, rfl, probe, underway⟩) ne
      cases verdict with
      | none => exact apart.guarded _ j old
      | some success =>
        exact absurd ⟨index, call, success, ends, other, apart.guarded _ j old⟩ fresh
    · rw [up.breaker_settle_ne index call verdict same]
      exact apart.guarded name j old

theorem probesApart_step (s : State) (label : Label) (apart : ProbesApart s)
    (fresh : ¬ up.StaleReport s label) : ProbesApart (up.step s label) := by
  rcases up.step_cases s label with ⟨_, armed, effect⟩ | ⟨index, call, verdict, ends, settled⟩
  · -- an open breaker has no probe under way, so the new one is alone
    have alone : ∀ name index, s.Probing name index → armed ≠ some name := by
      intro name index under here
      have wasOpen := effect.wasOpen name here
      rw [apart.guarded name index under] at wasOpen
      cases wasOpen
    refine ⟨fun name i j first second => ?_, fun name index under => ?_⟩
    · rcases (effect.probing name i).mp first with old | ⟨here, last⟩
      · rcases (effect.probing name j).mp second with old' | ⟨here, _⟩
        · exact apart.unique name i j old old'
        · exact absurd here (alone name i old)
      · rcases (effect.probing name j).mp second with old | ⟨_, last'⟩
        · exact absurd here (alone name j old)
        · exact last.trans last'.symm
    · rw [effect.breakers]
      rcases (effect.probing name index).mp under with old | ⟨here, _⟩
      · rw [if_neg (alone name index old)]
        exact apart.guarded name index old
      · rw [if_pos here]
  · rw [settled]
    exact up.probesApart_settle apart ends fresh

/-- Along every interleaving in which no call from before the outage reports to
a half-open breaker, no state has two probes of one name under way. -/
theorem atMostOneProbe_of_no_stale_report (labels : List Label)
    (fresh : EveryStep up.step (fun s label => ¬ up.StaleReport s label) State.init labels) :
    EveryState up.step AtMostOneProbe State.init labels :=
  everyState_of_invariant up.probesApart_step (fun _ apart => apart.unique) probesApart_init
    fresh

end StaticUpstream

/-! ## Both conditions are needed -/

/-- One agent, a breaker that trips on the first fault and cools down in ten
nanoseconds, and a signer that signs whatever it is given. -/
def fragileUpstream : StaticUpstream where
  map := AList.singleton "agent" "127.0.0.1:8080"
  token := "dev-token"
  signer := some fun _ => .ok "jwt"
  audience := "agents"
  tenant := ""
  forwardPrincipal := false
  forwardScopeAllowlist := none
  forwardGroupAllowlist := none
  circuitOpenAfter := 1
  circuitCooldown := 10
  surfaceHint := true

def callerNamed (sub : String) : Principal where
  sub := sub
  scopes := []
  groups := []
  tenant := "acme"
  rawToken := ""
  traceId := "trace"
  senderRef := none
  conversationRef := none
  idp := none

/-- A caller invokes the agent. -/
def invokeAs (sub : String) : Label :=
  .call (.invoke "agent" .null) (callerNamed sub) ⟨"rest", none⟩

/-- A fault trips the breaker; after the cooldown the probe's caller has a blank
in its subject. -/
def refusedProbe : List Label :=
  [invokeAs "alice", .finish 0 .timedOut, .tick 10, invokeAs "al ice",
    .finish 1 (.responded true "200 OK" (.ok .null))]

/-- The breaker is half-open for good: no call is under way. -/
theorem refused_probe_wedges :
    ¬ StaticUpstream.NeverWedged (run fragileUpstream.step State.init refusedProbe) := by
  intro sound
  obtain ⟨index, call, found, _, _, underway⟩ := sound "agent" (by decide)
  have all_ended : (run fragileUpstream.step State.init refusedProbe).calls.all (·.ended) = true :=
    by decide
  have ended := List.all_eq_true.mp all_ended call (List.mem_of_getElem? found)
  simp [underway] at ended

/-- Two calls are under way when one of them trips the breaker. The other one
succeeds while a probe is under way; the next fault and cooldown make room for a
second probe. -/
def secondProbe : List Label :=
  [invokeAs "alice", invokeAs "bob", .finish 0 .timedOut, .tick 10, invokeAs "carol",
    .finish 1 (.responded true "200 OK" (.ok .null)), invokeAs "dave", .finish 3 .timedOut,
    .tick 10, invokeAs "erin"]

theorem two_probes_under_way :
    ¬ StaticUpstream.AtMostOneProbe (run fragileUpstream.step State.init secondProbe) := by
  intro unique
  have same := unique "agent" 2 4 ⟨_, rfl, rfl, rfl, rfl⟩ ⟨_, rfl, rfl, rfl, rfl⟩
  cases same

/-- An outage without calls left over from before it meets the condition. -/
theorem single_outage_one_probe :
    EveryState fragileUpstream.step StaticUpstream.AtMostOneProbe State.init
      [invokeAs "alice", .finish 0 .timedOut, .tick 10, invokeAs "bob"] := by
  refine fragileUpstream.atMostOneProbe_of_no_stale_report _ ⟨?_, ?_, ?_, ?_, trivial⟩
  · rintro ⟨_, _, _, ends, _⟩
    cases ends
  · rintro ⟨_, _, _, ends, _, halfOpen⟩
    cases ends
    cases halfOpen
  · rintro ⟨_, _, _, ends, _⟩
    cases ends
  · rintro ⟨_, _, _, ends, _⟩
    cases ends

/-! ## The names in the table -/

namespace StaticUpstream

variable (up : StaticUpstream) {s : State}

/-- Only configured names hold a slot. -/
def Bounded (s : State) : Prop := ∀ name ∈ s.breakers, name ∈ up.map

/-- A tool call names a configured tool. The resource calls look their owner up
first, and need no condition. -/
def NamesMapped : Label → Prop
  | .call (.invoke tool _) _ _ | .call (.openStream tool _ _) _ _ => tool ∈ up.map
  | _ => True

theorem mem_setBreaker {name other : String} {b : Breaker} :
    other ∈ (s.setBreaker name b).breakers ↔ other = name ∨ other ∈ s.breakers :=
  AList.mem_insert _

/-- The name that guards an admitted call is configured, if a tool call named
such a tool. -/
theorem mapped_of_guardName {entry : Entry} {principal : Principal} {ctx : DispatchContext}
    {name : String} (guarded : up.guardName entry = .ok name)
    (mapped : up.NamesMapped (.call entry principal ctx)) : name ∈ up.map := by
  have owner : ∀ uri, up.guardName (.readResource uri) = .ok name → name ∈ up.map := by
    intro uri found
    rw [guardName] at found
    cases parsed : parseUiAuthority uri with
    | error e =>
      rw [parsed] at found
      cases found
    | ok authority =>
      rw [parsed] at found
      by_cases known : authority ∈ up.map
      · simp only [bind, Except.bind, if_pos known] at found
        cases found
        exact known
      · simp only [bind, Except.bind, if_neg known] at found
        cases found
  cases entry with
  | invoke tool args | openStream tool args resume =>
    cases guarded
    exact mapped
  | readResource uri | updateModelContext uri record => exact owner uri guarded

/-- What keeps the table bounded: the calls under way hold slots already. -/
structure Slotted (s : State) : Prop where
  bounded : up.Bounded s
  holds : ∀ call ∈ s.calls, call.name ∈ s.breakers

theorem slotted_setBreaker (slotted : up.Slotted s) {name : String} (known : name ∈ up.map)
    (b : Breaker) : up.Slotted (s.setBreaker name b) where
  bounded other member := by
    rcases mem_setBreaker.mp member with rfl | before
    · exact known
    · exact slotted.bounded other before
  holds call member := mem_setBreaker.mpr (.inr (slotted.holds call member))

/-- A call takes the slot of its name. -/
theorem slotted_taken (slotted : up.Slotted s) {call : Call} (known : call.name ∈ up.map)
    {t : State} {b : Breaker} (table : t.breakers = (s.setBreaker call.name b).breakers)
    (calls : t.calls = s.calls ++ [call]) : up.Slotted t where
  bounded := by
    rw [Bounded, table]
    exact (up.slotted_setBreaker slotted known b).bounded
  holds other member := by
    rw [calls] at member
    rw [table]
    rcases List.mem_append.mp member with before | new
    · exact (up.slotted_setBreaker slotted known b).holds other before
    · rw [List.mem_singleton.mp new]
      exact mem_setBreaker.mpr (.inl rfl)

theorem slotted_step (s : State) (label : Label) (slotted : up.Slotted s)
    (mapped : up.NamesMapped label) : up.Slotted (up.step s label) := by
  cases label with
  | tick nanos => exact ⟨slotted.bounded, slotted.holds⟩
  | call entry principal ctx =>
    rw [step]
    rcases up.startCall_cases s entry principal ctx with same | ⟨name, guarded, taken⟩
    · rwa [same]
    · have known := up.mapped_of_guardName guarded mapped
      rcases taken with ⟨_, started⟩ | started | started
      · rw [started]
        exact up.slotted_taken slotted known rfl rfl
      · rw [started]
        exact up.slotted_setBreaker slotted known _
      · rw [started]
        exact up.slotted_taken slotted known rfl rfl
  | finish | finishStream | drop =>
    rw [step]
    split
    · rename_i last call verdict ends
      obtain ⟨found, _⟩ := up.ending_cases ends
      have held := slotted.holds call (List.mem_of_getElem? found)
      have ended : up.Slotted (up.settle s last call none) := by
        refine ⟨slotted.bounded, fun other member => ?_⟩
        rcases List.mem_or_eq_of_mem_set member with before | rfl
        · exact slotted.holds other before
        · exact held
      cases verdict with
      | none => exact ended
      | some success => exact up.slotted_setBreaker ended (slotted.bounded _ held) _
    · exact slotted

/-- A tool call has its slot before anything is checked. -/
theorem slot_of_call {entry : Entry} {tool : String} (guarded : up.guardName entry = .ok tool)
    (s : State) (principal : Principal) (ctx : DispatchContext) :
    tool ∈ (up.step s (.call entry principal ctx)).breakers := by
  simp only [step, startCall, guarded]
  split <;> exact mem_setBreaker.mpr (.inl rfl)

/-- Over every interleaving, the table holds configured names only, exactly when
no tool call names a tool that is not configured. -/
theorem bounded_iff_names_mapped (labels : List Label) :
    EveryState up.step up.Bounded State.init labels ↔ ∀ label ∈ labels, up.NamesMapped label := by
  constructor
  · generalize State.init = s
    intro bounded
    induction labels generalizing s with
    | nil => simp
    | cons label labels ih =>
      refine List.forall_mem_cons.mpr ⟨?_, ih _ bounded.2⟩
      have after : up.Bounded (up.step s label) := by
        cases labels with
        | nil => exact bounded.2
        | cons => exact bounded.2.1
      cases label with
      | call entry principal ctx =>
        cases entry with
        | invoke tool args | openStream tool args resume =>
          exact after tool (up.slot_of_call rfl s principal ctx)
        | readResource | updateModelContext => trivial
      | tick | finish | finishStream | drop => trivial
  · intro mapped
    refine everyState_of_invariant up.slotted_step (fun _ slotted => slotted.bounded) ?_
      (everyStep_of_forall_mem (fun label member _ => mapped label member) _)
    exact ⟨fun _ member => absurd member (AList.notMem_empty _), fun _ member => by cases member⟩

end StaticUpstream

/-- A call for a tool nobody configured leaves a slot behind. -/
theorem unknown_tool_holds_slot :
    ¬ EveryState fragileUpstream.step fragileUpstream.Bounded State.init
      [.call (.invoke "nope" .null) (callerNamed "alice") ⟨"rest", none⟩] := by
  intro bounded
  have mapped : "nope" ∈ fragileUpstream.map :=
    bounded.2 "nope" (fragileUpstream.slot_of_call rfl _ _ _)
  exact absurd mapped (by decide)

end Triton.Upstream
