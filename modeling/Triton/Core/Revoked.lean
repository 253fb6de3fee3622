/-
# A revoked caller reaches nothing

Seven entry points lead into the dispatcher and each places the denylist check
for itself. A caller on the list gets the same refusal from all of them, before
a tool is looked up: nothing runs, nothing is asked upstream, and the answer is
the same whatever is registered. A raw body is parsed first, so a caller on the
list may still be told that its body is not JSON.
-/

import Triton.Core.DispatchAudit

namespace Triton.Core

open Triton.Lib

/-- Does the effect run a tool or ask the upstream? -/
def Effect.reaches : Effect → Bool
  | .runTool _ _ _ _ | .callUpstream _ _ _ => true
  | .recordDispatch _ _ _ | .recordAudit _ | .emit _ => false

/-- The raw body of a call that carries one. -/
def Call.body : Call → Option (List UInt8)
  | .invokeWithBytes _ body _ | .invokeStreamingWithBytes _ body _ _ => some body
  | _ => none

/-- What a call returns to its adapter: a buffered result or an open stream. -/
def Call.result (d : Dispatcher) (ext : Externals) (principal : Principal) (elapsed : Nat) :
    Call → Except TritonError (Dispatch ⊕ OpenStream)
  | .invokeWith tool args protocol overrides =>
    (d.invokeWith tool args principal protocol overrides elapsed).value.map .inl
  | .invokeWithBytes tool body protocol =>
    (d.invokeWithBytes ext tool body principal protocol elapsed).value.map .inl
  | .invokeStreamingWith tool args protocol a2ui overrides =>
    (d.invokeStreamingWith ext tool args principal protocol a2ui overrides elapsed).value.map .inr
  | .invokeStreamingWithBytes tool body protocol a2ui =>
    (d.invokeStreamingWithBytes ext tool body principal protocol a2ui elapsed).value.map .inr
  | .resumeStreamingWith tool taskId protocol overrides =>
    (d.resumeStreamingWith tool taskId principal protocol overrides elapsed).value.map .inr
  | .readResource uri => (d.readResource uri principal elapsed).value.map .inl
  | .updateModelContext uri record =>
    (d.updateModelContext uri record principal elapsed).value.map .inl

/-! ## The refusal -/

/-- The text of the refusal names the caller and nothing else. -/
def revocation (principal : Principal) : TritonError :=
  .forbidden
    s!"principal `{principal.tenant}/{principal.sub}` has been revoked by the operator"

/-- A computation that ends in `error` without having reached a tool or the
upstream. -/
structure Refuses {α : Type} (error : TritonError)
    (computed : Logged Effect (Except TritonError α)) : Prop where
  value : computed.value = .error error
  unreached : ∀ effect ∈ computed.log, effect.reaches = false

theorem Refuses.map {α β : Type} {error : TritonError}
    {computed : Logged Effect (Except TritonError α)} (refuses : Refuses error computed)
    (f : α → β) : computed.value.map f = .error error := by
  rw [refuses.value]
  rfl

namespace Dispatcher

variable {d : Dispatcher} {principal : Principal}

theorem fail_unreached (tool protocol : String) (error : TritonError) (latencyMs : Nat) :
    ∀ effect ∈ (d.fail tool protocol principal error latencyMs).log, effect.reaches = false := by
  simp [fail, emitLine, Effect.reaches]

/-- The gate stops a caller on the list whatever lies behind it. -/
theorem gated_refuses {α : Type} (denied : d.isDenied principal = true) (tool protocol : String)
    (body : Logged Effect (Except TritonError α)) :
    Refuses (revocation principal) (d.gated tool protocol principal body) := by
  rw [gated, if_pos denied]
  refine ⟨rfl, fun effect member => ?_⟩
  simp only [Logged.log_bind, Logged.log_pure, List.append_nil] at member
  exact fail_unreached tool protocol (revocation principal) 0 effect member

/-- An entry point that parses a body first refuses the body or the caller. -/
theorem parsed_refuses {α : Type} (ext : Externals) (body : List UInt8) (tool protocol : String)
    {enter : Value → Logged Effect (Except TritonError α)}
    (refused : ∀ args, Refuses (revocation principal) (enter args)) :
    Refuses
      (match parseBody ext body with
        | .error e => e
        | .ok _ => revocation principal)
      (match parseBody ext body with
        | .error e => do return .error (← d.fail tool protocol principal e 0)
        | .ok args => enter args) := by
  cases parsed : parseBody ext body with
  | error e =>
    refine ⟨rfl, fun effect member => ?_⟩
    simp only [Logged.log_bind, Logged.log_pure, List.append_nil] at member
    exact fail_unreached tool protocol e 0 effect member
  | ok args => exact refused args

end Dispatcher

/-- A refused stream leaves nothing to consume. -/
theorem Refuses.settle {error : TritonError}
    {opened : Logged Effect (Except TritonError OpenStream)} (refuses : Refuses error opened)
    (consumer : Consumer) : ∀ effect ∈ settle consumer opened, effect.reaches = false := by
  intro effect member
  rw [Core.settle, refuses.value, List.append_nil] at member
  exact refuses.unreached effect member

/-- What a caller on the list is told. -/
def Call.refusal (ext : Externals) (principal : Principal) (call : Call) : TritonError :=
  match call.body with
  | none => revocation principal
  | some body =>
    match Dispatcher.parseBody ext body with
    | .error e => e
    | .ok _ => revocation principal

/-- The body could not be read as JSON. -/
def Call.Unreadable (ext : Externals) (call : Call) (reason : String) : Prop :=
  ∃ body, call.body = some body ∧ body ≠ [] ∧ ext.fromSlice body = .error reason

theorem Call.refusal_cases (ext : Externals) (principal : Principal) (call : Call) :
    call.refusal ext principal = revocation principal ∨
      ∃ reason, call.Unreadable ext reason ∧
        call.refusal ext principal = .validation s!"invalid JSON body: {reason}" := by
  unfold Call.refusal
  cases carried : call.body with
  | none => exact .inl rfl
  | some body =>
    by_cases empty : body = []
    · exact .inl (by simp [Dispatcher.parseBody, empty])
    · cases read : ext.fromSlice body with
      | ok value => exact .inl (by simp [Dispatcher.parseBody, empty, read])
      | error reason =>
        exact .inr ⟨reason, ⟨body, carried, empty, read⟩,
          by simp [Dispatcher.parseBody, empty, read]⟩

section Refused

variable {d : Dispatcher} {principal : Principal} (ext : Externals) (elapsed : Nat)

/-- The five entry points that take their arguments parsed, and the two that
parse a body. -/
theorem Dispatcher.invokeWith_refuses (denied : d.isDenied principal = true) (tool : String)
    (args : Value) (protocol : String) (overrides : ContextOverrides) :
    Refuses (revocation principal)
      (d.invokeWith tool args principal protocol overrides elapsed) :=
  Dispatcher.gated_refuses denied tool protocol _

theorem Dispatcher.invokeStreamingWith_refuses (denied : d.isDenied principal = true)
    (tool : String) (args : Value) (protocol : String) (a2ui : Option A2ui.A2uiVersion)
    (overrides : ContextOverrides) :
    Refuses (revocation principal)
      (d.invokeStreamingWith ext tool args principal protocol a2ui overrides elapsed) :=
  Dispatcher.gated_refuses denied tool protocol _

/-- Every entry point refuses a caller on the list. -/
theorem Call.refused (denied : d.isDenied principal = true) (consumer : Consumer) (call : Call) :
    call.result d ext principal elapsed = .error (call.refusal ext principal) ∧
      ∀ effect ∈ call.effects d ext principal elapsed consumer, effect.reaches = false := by
  cases call with
  | invokeWith tool args protocol overrides =>
    have refuses := Dispatcher.invokeWith_refuses elapsed denied tool args protocol overrides
    exact ⟨refuses.map Sum.inl, refuses.unreached⟩
  | invokeWithBytes tool body protocol =>
    have refuses : Refuses _ (d.invokeWithBytes ext tool body principal protocol elapsed) :=
      Dispatcher.parsed_refuses ext body tool protocol fun args =>
        Dispatcher.invokeWith_refuses elapsed denied tool args protocol {}
    exact ⟨refuses.map Sum.inl, refuses.unreached⟩
  | invokeStreamingWith tool args protocol a2ui overrides =>
    have refuses :=
      Dispatcher.invokeStreamingWith_refuses ext elapsed denied tool args protocol a2ui overrides
    exact ⟨refuses.map Sum.inr, refuses.settle consumer⟩
  | invokeStreamingWithBytes tool body protocol a2ui =>
    have refuses : Refuses _
        (d.invokeStreamingWithBytes ext tool body principal protocol a2ui elapsed) :=
      Dispatcher.parsed_refuses ext body tool protocol fun args =>
        Dispatcher.invokeStreamingWith_refuses ext elapsed denied tool args protocol a2ui {}
    exact ⟨refuses.map Sum.inr, refuses.settle consumer⟩
  | resumeStreamingWith tool taskId protocol overrides =>
    have refuses : Refuses (revocation principal)
        (d.resumeStreamingWith tool taskId principal protocol overrides elapsed) :=
      Dispatcher.gated_refuses denied tool protocol _
    exact ⟨refuses.map Sum.inr, refuses.settle consumer⟩
  | readResource uri =>
    have refuses : Refuses (revocation principal) (d.readResource uri principal elapsed) :=
      Dispatcher.gated_refuses denied uri "mcp" _
    exact ⟨refuses.map Sum.inl, refuses.unreached⟩
  | updateModelContext uri record =>
    have refuses : Refuses (revocation principal)
        (d.updateModelContext uri record principal elapsed) :=
      Dispatcher.gated_refuses denied uri "mcp" _
    exact ⟨refuses.map Sum.inl, refuses.unreached⟩

end Refused

/-- A caller on the list reaches no tool and no upstream from any entry point. It
is told that it is forbidden, or that its body is not JSON, and the answer is the
same for every registry and every upstream. -/
theorem revoked_reaches_nothing (d : Dispatcher) (ext : Externals) (principal : Principal)
    (denied : (principal.tenant, principal.sub) ∈ d.denied) (elapsed : Nat) (consumer : Consumer)
    (call : Call) :
    (∀ effect ∈ call.effects d ext principal elapsed consumer, effect.reaches = false) ∧
      ((∃ message, call.result d ext principal elapsed = .error (.forbidden message)) ∨
        ∃ reason, call.Unreadable ext reason ∧ call.result d ext principal elapsed =
          .error (.validation s!"invalid JSON body: {reason}")) ∧
      ∀ (registry : Table String Tool) (upstream : Option UpstreamDispatch),
        call.result { d with registry := registry, upstream := upstream } ext principal elapsed =
          call.result d ext principal elapsed := by
  have listed : d.isDenied principal = true := List.contains_iff_mem.mpr denied
  obtain ⟨refused, unreached⟩ := call.refused ext elapsed listed consumer
  refine ⟨unreached, ?_, fun registry upstream => ?_⟩
  · rcases call.refusal_cases ext principal with revoked | ⟨reason, unreadable, error⟩
    · exact .inl ⟨_, by rw [refused, revoked]; rfl⟩
    · exact .inr ⟨reason, unreadable, by rw [refused, error]⟩
  · have other : Dispatcher.isDenied { d with registry := registry, upstream := upstream }
        principal = true := listed
    rw [refused, (call.refused ext elapsed other consumer).1]

/-- Alice of acme is on the list of a gateway with a tool and an agent. Either one is
reached before the listing and neither after it. -/
theorem revoked_alice_reaches_nothing :
    let before := { surfacelessDispatcher with upstream := promptDispatcher.upstream }
    let d := { before with denied := [("acme", "alice")] }
    let call (name : String) := Call.invokeWith name (.object []) "mcp" {}
    (alice.tenant, alice.sub) ∈ d.denied ∧
      ∀ name ∈ ["report", "agent"],
        (∃ effect ∈ (call name).effects before strictExternals alice 0 ⟨[], 0⟩,
          effect.reaches = true) ∧
        (∀ effect ∈ (call name).effects d strictExternals alice 0 ⟨[], 0⟩,
          effect.reaches = false) ∧
        ∃ message, (call name).result d strictExternals alice 0 = .error (.forbidden message) := by
  intro before d call
  have denied : (alice.tenant, alice.sub) ∈ d.denied := by decide
  refine ⟨denied, fun name among => ⟨?_, ?_⟩⟩
  · obtain rfl | rfl : name = "report" ∨ name = "agent" := by simpa using among
    · exact ⟨_, List.mem_cons_self, rfl⟩
    · exact ⟨_, List.mem_cons_self, rfl⟩
  · obtain ⟨unreached, told, _⟩ :=
      revoked_reaches_nothing d strictExternals alice denied 0 ⟨[], 0⟩ (call name)
    refine ⟨unreached, told.resolve_right ?_⟩
    rintro ⟨reason, ⟨body, carried, _⟩, _⟩
    cases carried

end Triton.Core
