/-
# The gateway's own member of the arguments

One member of the arguments belongs to the gateway: it tells an agent what the
adapter knows about the turn and where the answer will be shown. Three functions
touch it in turn. The dispatcher removes what the caller put there and writes the
adapter's metadata with the client's files, and the router adds the surface. The
caller's own member leaves no trace in what is sent, and what is sent under that
name comes from the adapter and the surface registry alone.
-/

import Triton.Core.Dispatcher
import Triton.Lib.Record
import Triton.Upstream.StaticUpstream

namespace Triton.Upstream

open Triton.Lib
open Triton.Core

/-- Two argument values that differ at most in the gateway's member, which each
of them may have or not. -/
inductive SameButReserved : Value → Value → Prop where
  | object {one other : Members} (ordered : Members.Ordered one) (ordered' : Members.Ordered other)
      (same : ∀ key, key ≠ reservedArgsKey → Members.get one key = Members.get other key) :
      SameButReserved (.object one) (.object other)
  | same (value : Value) : SameButReserved value value

variable {args : Value} {overrides : ContextOverrides} {ctx : DispatchContext}

theorem SameButReserved.stripReserved_eq {other : Value} (same : SameButReserved args other) :
    stripReserved args = stripReserved other := by
  cases same with
  | same => rfl
  | object ordered ordered' same =>
    simp only [stripReserved, Value.object.injEq]
    apply (ordered.remove reservedArgsKey).ext (ordered'.remove reservedArgsKey)
    intro key
    rw [Members.get_remove, Members.get_remove]
    by_cases reserved : key = reservedArgsKey
    · rw [if_pos reserved, if_pos reserved]
    · rw [if_neg reserved, if_neg reserved, same key reserved]

/-! ## What is sent under the gateway's name -/

/-- The client's part of the metadata: the adapter's own, with the files of the
turn under one name of it. -/
def ClientWithFiles (overrides : ContextOverrides) (value : Value) : Prop :=
  ∃ files client members,
    overrides.clientFiles = some files ∧ value = .object members ∧
      (Members.get overrides.tritonMeta "client").getD (.object []) = .object client ∧
      ∀ key, Members.get members key =
        if key = "files" then some (.array files) else Members.get client key

/-- A member of the envelope that the adapter or the surface registry supplied. -/
def Supplied (hint : Bool) (overrides : ContextOverrides) (surface : Option SurfaceDescriptor)
    (key : String) (value : Value) : Prop :=
  Members.get overrides.tritonMeta key = some value ∨
    (key = "client" ∧ ClientWithFiles overrides value) ∨
    (key = "surface" ∧ hint = true ∧ ∃ profile, surface = some profile ∧ value = profile.toValue)

/-- Every member of the envelope, if there is one, was supplied. -/
def OnlySupplied (hint : Bool) (overrides : ContextOverrides)
    (surface : Option SurfaceDescriptor) (args : Value) : Prop :=
  ∀ envelope, args.get reservedArgsKey = some envelope →
    ∃ members, envelope = .object members ∧
      ∀ key value, Members.get members key = some value → Supplied hint overrides surface key value

/-- The dispatcher leaves only the adapter's metadata in the envelope. -/
theorem prepareArgs_onlySupplied (args : Value) (overrides : ContextOverrides) (hint : Bool)
    (surface : Option SurfaceDescriptor) :
    OnlySupplied hint overrides surface (prepareArgs args overrides) := by
  intro envelope found
  cases args with
  | object members =>
    simp only [prepareArgs, stripReserved] at found
    split at found
    · -- no metadata: nothing is written after the removal
      rw [Value.get, Members.get_remove, if_pos rfl] at found
      cases found
    · rw [Value.get, Members.get_insert, if_pos rfl] at found
      cases found
      refine ⟨_, rfl, fun key value written => ?_⟩
      split at written
      · rename_i files given
        unfold metaWithFiles at written
        split at written
        · rename_i client known
          rw [Members.get_insert] at written
          split at written
          · rename_i isClient
            cases written
            exact .inr (.inl ⟨isClient, files, client, _, (Option.filter_eq_some_iff.mp given).1,
              rfl, known, fun key => Members.get_insert "files" key _ client⟩)
          · exact .inl written
        · exact .inl written
      · exact .inl written
  | _ => cases found

/-- The router adds the surface and nothing else. -/
theorem withHint_onlySupplied (up : StaticUpstream)
    (prepared : OnlySupplied up.surfaceHint overrides ctx.surface args) :
    OnlySupplied up.surfaceHint overrides ctx.surface (up.withHint args ctx) := by
  unfold StaticUpstream.withHint
  split
  · rename_i hints
    unfold Core.surfaceHint
    split
    · rename_i profile members chosen
      split
      · rename_i reserved known
        intro envelope found
        rw [Value.get, Members.get_insert, if_pos rfl] at found
        cases found
        refine ⟨_, rfl, fun key value written => ?_⟩
        rw [Members.get_insert] at written
        split at written
        · rename_i isSurface
          cases written
          exact .inr (.inr ⟨isSurface, hints, profile, chosen, rfl⟩)
        · cases present : Members.get members reservedArgsKey with
          | none =>
            rw [present] at known
            cases known
            cases written
          | some envelope =>
            rw [present] at known
            cases known
            obtain ⟨_, shape, supplied⟩ := prepared _ present
            cases shape
            exact supplied key value written
      · exact prepared
    · exact prepared
  · exact prepared

/-! ## From the dispatcher to the wire -/

/-- The router's entry point for a call of the dispatcher. -/
def entryOf : UpstreamCall → Entry
  | .invoke tool args => .invoke tool args
  | .invokeStreaming tool args => .openStream tool args none
  | .resumeStreaming tool taskId args => .openStream tool args (some taskId)
  | .readResource uri => .readResource uri
  | .updateModelContext uri record => .updateModelContext uri record

/-- Among the effects is a call of the upstream for which the router sends this
body. -/
def StaticUpstream.Posts (up : StaticUpstream) (effects : List Effect) (body : Value) : Prop :=
  ∃ call principal ctx name request,
    Effect.callUpstream call principal ctx ∈ effects ∧
      up.request name principal ctx (entryOf call) = .ok request ∧ request.body = body

/-- If the effect asks the upstream, it asks with these arguments in this
context. -/
def AsksWith (args : Value) (context : DispatchContext) : Effect → Prop
  | .callUpstream call _ ctx =>
    ctx = context ∧
      ((∃ tool, call = .invoke tool args) ∨ ∃ tool, call = .invokeStreaming tool args)
  | _ => True

variable (d : Dispatcher)

theorem gated_asksWith {α : Type} (principal : Principal) (tool protocol : String)
    {body : Logged Effect (Except TritonError α)}
    (asks : ∀ effect ∈ body.log, AsksWith args ctx effect) :
    ∀ effect ∈ (d.gated tool protocol principal body).log, AsksWith args ctx effect := by
  unfold Dispatcher.gated
  split
  · simp [Dispatcher.deny, Dispatcher.fail, Dispatcher.emitLine, AsksWith]
  · split
    · simp [Dispatcher.auditDispatch, Dispatcher.emitLine, AsksWith]
    · exact asks

theorem run_asksWith (tool : String) (args : Value) (principal : Principal)
    (ctx : DispatchContext) :
    ∀ effect ∈ (d.run tool args principal ctx).log, AsksWith args ctx effect := by
  unfold Dispatcher.run
  cases d.registry.lookup tool with
  | some entry =>
    cases answered : entry.invokeWithContext args principal.toToolPrincipal ctx <;>
      simp [answered, AsksWith]
  | none => cases d.upstream <;> simp [AsksWith]

theorem invokeWith_asksWith (tool : String) (args : Value) (principal : Principal)
    (protocol : String) (overrides : ContextOverrides) (elapsed : Nat) :
    ∀ effect ∈ (d.invokeWith tool args principal protocol overrides elapsed).log,
      AsksWith (prepareArgs args overrides) (d.context protocol overrides) effect := by
  apply gated_asksWith
  intro effect member
  simp only [Logged.log_bind, Logged.log_pure, List.append_nil, List.mem_append] at member
  rcases member with ran | audited
  · exact run_asksWith d tool _ principal _ effect ran
  · revert effect
    simp [Dispatcher.auditDispatch, Dispatcher.emitLine, AsksWith]

theorem streamBuffered_asksWith (tool : String) (args : Value) (principal : Principal)
    (protocol : String) (ctx : DispatchContext) (elapsed : Nat) (wrap : Value → StreamEvent) :
    ∀ effect ∈ (d.streamBuffered tool args principal protocol ctx elapsed wrap).log,
      AsksWith args ctx effect := by
  intro effect member
  simp only [Dispatcher.streamBuffered, Logged.log_bind, Logged.log_pure, List.append_nil,
    List.mem_append] at member
  rcases member with ran | audited
  · exact run_asksWith d tool _ principal _ effect ran
  · revert effect
    simp [Dispatcher.auditDispatch, Dispatcher.emitLine, AsksWith]

/-- Opening a stream asks nothing more than was asked before. -/
theorem openAudited_asksWith (tool protocol : String) (principal : Principal) (elapsed : Nat)
    (opened : Except TritonError EventSource) (args : Value) (ctx : DispatchContext) :
    ∀ effect ∈ (d.openAudited tool protocol principal elapsed opened).log,
      AsksWith args ctx effect := by
  cases opened <;> simp [Dispatcher.openAudited, Dispatcher.fail, Dispatcher.emitLine, AsksWith]

theorem invokeStreamingWith_asksWith (ext : Externals) (tool : String) (args : Value)
    (principal : Principal) (protocol : String) (a2ui : Option A2ui.A2uiVersion)
    (overrides : ContextOverrides) (elapsed : Nat) :
    ∀ effect ∈
        (d.invokeStreamingWith ext tool args principal protocol a2ui overrides elapsed).log,
      AsksWith (prepareArgs args overrides) (d.context protocol overrides) effect := by
  apply gated_asksWith
  dsimp only
  cases d.registry.lookup tool with
  | some entry =>
    dsimp only
    split
    · intro effect member
      rcases List.mem_append.mp member with ran | opened
      · rw [List.mem_singleton.mp ran]
        trivial
      · exact openAudited_asksWith d tool protocol principal elapsed _ _ _ effect opened
    · exact streamBuffered_asksWith d tool _ principal protocol _ elapsed _
  | none =>
    cases d.upstream with
    | none => exact streamBuffered_asksWith d tool _ principal protocol _ elapsed _
    | some upstream =>
      intro effect member
      rcases List.mem_append.mp member with asked | opened
      · rw [List.mem_singleton.mp asked]
        exact ⟨rfl, .inr ⟨tool, rfl⟩⟩
      · exact openAudited_asksWith d tool protocol principal elapsed _ _ _ effect opened

/-- The body of a request is the arguments the router was called with, and the
hint. -/
theorem body_of_request {up : StaticUpstream} {name : String} {principal : Principal}
    {call : UpstreamCall} {request : Request}
    (asked : (∃ tool, call = .invoke tool args) ∨ ∃ tool, call = .invokeStreaming tool args)
    (sent : up.request name principal ctx (entryOf call) = .ok request) :
    request.body = up.withHint args ctx := by
  unfold StaticUpstream.request at sent
  cases mapped : up.map.lookup name with
  | none =>
    rw [mapped] at sent
    rcases asked with ⟨tool, rfl⟩ | ⟨tool, rfl⟩ <;> cases sent
  | some endpoint =>
    cases minted : up.bearer principal with
    | error e =>
      rw [mapped, minted] at sent
      cases sent
    | ok bearer =>
      rw [mapped, minted] at sent
      rcases asked with ⟨tool, rfl⟩ | ⟨tool, rfl⟩ <;> cases sent <;> rfl

/-- Whatever a dispatch with such effects sends, its envelope was supplied. -/
theorem posts_onlySupplied {up : StaticUpstream} {effects : List Effect} {body : Value}
    (asks : ∀ effect ∈ effects, AsksWith (prepareArgs args overrides) ctx effect)
    (posts : up.Posts effects body) : OnlySupplied up.surfaceHint overrides ctx.surface body := by
  obtain ⟨call, principal, context, name, request, member, sent, rfl⟩ := posts
  obtain ⟨rfl, asked⟩ := asks _ member
  rw [body_of_request asked sent]
  exact withHint_onlySupplied up (prepareArgs_onlySupplied args overrides _ _)

/-- Two dispatches whose arguments differ only in the gateway's own member are
the same dispatch, tool call, upstream call and audit line included, and what
the router sends under that name the adapter and the registry supplied. -/
theorem caller_cannot_forge_envelope (d : Dispatcher) (up : StaticUpstream) (ext : Externals)
    (principal : Principal) (protocol : String) (overrides : ContextOverrides)
    {args other : Value} (same : SameButReserved args other) :
    up.withHint (prepareArgs args overrides) (d.context protocol overrides) =
        up.withHint (prepareArgs other overrides) (d.context protocol overrides) ∧
      (∀ tool elapsed,
        d.invokeWith tool args principal protocol overrides elapsed =
            d.invokeWith tool other principal protocol overrides elapsed ∧
          ∀ body, up.Posts (d.invokeWith tool args principal protocol overrides elapsed).log body →
            OnlySupplied up.surfaceHint overrides (d.context protocol overrides).surface body) ∧
      ∀ tool a2ui elapsed,
        d.invokeStreamingWith ext tool args principal protocol a2ui overrides elapsed =
            d.invokeStreamingWith ext tool other principal protocol a2ui overrides elapsed ∧
          ∀ body,
            up.Posts (d.invokeStreamingWith ext tool args principal protocol a2ui overrides
              elapsed).log body →
            OnlySupplied up.surfaceHint overrides (d.context protocol overrides).surface body := by
  have prepared : prepareArgs args overrides = prepareArgs other overrides := by
    rw [prepareArgs, prepareArgs, same.stripReserved_eq]
  refine ⟨by rw [prepared], fun tool elapsed => ⟨?_, fun body => ?_⟩,
    fun tool a2ui elapsed => ⟨?_, fun body => ?_⟩⟩
  · unfold Dispatcher.invokeWith
    rw [prepared]
  · exact posts_onlySupplied (invokeWith_asksWith d tool args principal protocol overrides elapsed)
  · unfold Dispatcher.invokeStreamingWith
    rw [prepared]
  · exact posts_onlySupplied
      (invokeStreamingWith_asksWith d ext tool args principal protocol a2ui overrides elapsed)

/-- A gateway with one mapped agent, and a question with a forged envelope. -/
theorem forged_surface_leaves_no_trace :
    let up : StaticUpstream :=
      ⟨AList.singleton "ask" "agent.ts.net:80", "t", none, "", "", false, none, none, 3, 1, true⟩
    let d : Dispatcher := ⟨∅, "prod", none, [], ∅, ∅, plainSet⟩
    let plain : Members := [("message", .string "hi")]
    let forged : Members := (reservedArgsKey, .object [("agent", .string "root")]) :: plain
    up.withHint (prepareArgs (.object forged) {}) (d.context "rest" {}) =
      up.withHint (prepareArgs (.object plain) {}) (d.context "rest" {}) := by
  intro up d plain forged
  have same : SameButReserved (.object forged) (.object plain) := by
    refine .object ?_ (List.pairwise_singleton _ _) fun key other => ?_
    · refine List.pairwise_cons.mpr ⟨?_, List.pairwise_singleton _ _⟩
      intro member here
      rw [List.mem_singleton.mp here]
      decide
    · rw [Members.get_cons, if_neg other]
  exact (caller_cannot_forge_envelope d up
    ⟨fun _ => .error "", ⟨fun _ => .error "", fun _ _ => .null, fun _ => false⟩⟩
    ⟨"alice", [], [], "acme", "", "trace-1", none, none, none⟩ "rest" {} same).1

end Triton.Upstream
