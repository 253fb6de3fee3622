/-
# The dispatcher

Every adapter funnels through one dispatcher: it gates the caller, prepares the
arguments, runs an in-process tool or asks the upstream router, and writes one
audit line. Its functions are modelled with the effects they perform (`Effect`)
in order; what a tool or the upstream answers is a parameter, so every
statement is about every behaviour of theirs.
-/

import Mathlib.Algebra.Group.Nat.Defs
import Triton.A2ui.Surface
import Triton.Core.Audit
import Triton.Core.Stream
import Triton.Lib.Logged

namespace Triton.Core

open Triton.Lib
open Triton.A2ui (A2uiVersion)

/-- Why the spawned task of an in-process tool gave no answer. -/
inductive JoinError where
  | panic (text : String)
  | cancelled (text : String)
  | other (text : String)

def JoinError.toError : JoinError → TritonError
  | .panic text => .tool s!"tool panic: {text}"
  | .cancelled text => .tool s!"tool cancelled: {text}"
  | .other text => .tool s!"tool join_error: {text}"

/-- An in-process tool, by what it declares and how it answers. A buffered call
runs in a task of its own and may come back as a join error. -/
structure Tool where
  returnsA2ui : Bool
  supportsStreaming : Bool
  invokeWithContext :
    Value → ToolPrincipal → DispatchContext → Except JoinError (Except TritonError Value)
  invokeStreamingWithContext :
    Value → ToolPrincipal → DispatchContext → Except TritonError EventSource

/-- The upstream router, by how it answers. -/
structure UpstreamDispatch where
  invoke : String → Value → Principal → DispatchContext → Except TritonError Value
  invokeStreaming :
    String → Value → Principal → DispatchContext → Except TritonError EventSource
  resumeStreaming :
    String → String → Value → Principal → DispatchContext → Except TritonError EventSource
  readResource : String → Principal → DispatchContext → Except TritonError Value
  updateModelContext :
    String → Value → Principal → DispatchContext → Except TritonError Value

/-- `showSet` is the standard library's debug format of a hash set of strings,
which escapes them and lists them in the order the set happens to have. -/
structure Dispatcher where
  registry : Table String Tool
  env : String
  upstream : Option UpstreamDispatch
  denied : List (String × String)
  scopeRestrictions : Table String (List String)
  surfaces : SurfaceRegistry
  showSet : List String → String

/-- What a buffered dispatch hands back to its adapter. -/
structure Dispatch where
  result : Value
  traceId : String
  latencyMs : Nat
  returnsA2ui : Bool

/-- What the dispatcher takes from libraries: the parser of a request body, and
the surface codec. -/
structure Externals where
  fromSlice : List UInt8 → Except String Value
  codec : A2ui.Codec

/-- Whole milliseconds of a duration in nanoseconds, in 64 bits. -/
def asMillis (nanos : Nat) : Nat := nanos / 1000000 % 2 ^ 64

/-- The debug format of strings that need no escape. -/
def plainSet (items : List String) : String :=
  "\x7b" ++ ", ".intercalate (items.map fun item => s!"\"{item}\"") ++ "\x7d"

namespace Dispatcher

variable (d : Dispatcher)

/-! ## Gates -/

def isDenied (principal : Principal) : Bool :=
  d.denied.contains (principal.tenant, principal.sub)

/-- May this principal invoke this tool? The first scope that is restricted at
all decides. -/
def canInvoke (principal : Principal) (tool : String) : Except TritonError Unit :=
  match principal.scopes.find? fun s => (d.scopeRestrictions.lookup s).isSome with
  | none => .ok ()
  | some held =>
    match d.scopeRestrictions.lookup held with
    | some allowed =>
      if allowed.contains tool then .ok ()
      else
        .error (.forbidden (s!"principal holds only the `{held}` scope, which may invoke "
          ++ s!"{d.showSet allowed} — not `{tool}`"))
    | none => .ok ()

/-! ## The audit line -/

/-- The fields all dispatch-phase lines share. -/
def dispatchLine (tool protocol : String) (principal : Principal) (latencyMs : Nat)
    (result : String) (status : Nat) : AuditRecord where
  phase := .dispatch
  who := principal.sub
  what := tool
  env := d.env
  result := result
  protocol := protocol
  tool := tool
  subject := principal.sub
  tenant := principal.tenant
  latencyMs := latencyMs
  status := status
  statusLabel := none
  statusDetail := none
  errorDetail := none
  ttfbMs := none
  senderRef := principal.senderRef
  destination := none
  suppressed := none
  traceId := principal.traceId

/-- Count the line and write it. -/
def emitLine (record : AuditRecord) : Logged Effect Unit := do
  Logged.tell (.recordDispatch record.tool record.protocol record.result)
  Logged.tell (.recordAudit "dispatch")
  Logged.tell (.emit record)

/-- Audit an error and hand it back. -/
def fail (tool protocol : String) (principal : Principal) (error : TritonError)
    (latencyMs : Nat) : Logged Effect TritonError := do
  emitLine (d.dispatchLine tool protocol principal latencyMs s!"error:{error.errorClass}"
    error.httpStatus)
  return error

/-- The provider messages that may enter an audit line. -/
def safeProviderMessages : List String :=
  ["embedded peacock render queue timed out",
    "embedded peacock render queue closed",
    "embedded peacock request timeout",
    "embedded peacock request connect",
    "embedded peacock request transport",
    "embedded peacock response decode"]

/-- The detail an error may leave in the audit line: only the bounded messages
of the embedded report proxy. -/
def safeDispatchErrorDetail : TritonError → Option String
  | .provider message =>
    if safeProviderMessages.contains message then some message
    else do
      let rest ← Text.stripHead message "embedded peacock render_report status "
      let (status, kind) ← Text.splitOnceAt " error=" rest
      let code ← Text.parseUnsigned 65535 status
      if 100 ≤ code && code ≤ 599 &&
          ["auth", "validation", "data", "render", "unknown"].contains kind then
        some message
      else none
  | _ => none

/-- The line of a buffered dispatch, from its outcome. -/
def outcomeLine (tool protocol : String) (principal : Principal) (latencyMs : Nat)
    (outcome : Except TritonError Value) : AuditRecord :=
  match outcome with
  | .ok _ => d.dispatchLine tool protocol principal latencyMs "ok" 200
  | .error e =>
    { d.dispatchLine tool protocol principal latencyMs s!"error:{e.errorClass}"
        e.httpStatus with
      errorDetail := safeDispatchErrorDetail e }

/-- Audit the outcome of a buffered dispatch. -/
def auditDispatch (tool protocol : String) (principal : Principal) (latencyMs : Nat)
    (outcome : Except TritonError Value) : Logged Effect Unit :=
  emitLine (d.outcomeLine tool protocol principal latencyMs outcome)

def deny (tool protocol : String) (principal : Principal) : Logged Effect TritonError :=
  d.fail tool protocol principal
    (.forbidden s!"principal `{principal.tenant}/{principal.sub}` has been revoked by the operator")
    0

/-- Refuse a revoked principal on a surface that does not dispatch. -/
def denyIfRevoked (principal : Principal) (surface protocol : String) :
    Logged Effect (Except TritonError Unit) :=
  if d.isDenied principal then do
    return .error (← d.deny surface protocol principal)
  else pure (.ok ())

/-- The two gates every entry point opens with: revocation, then scope
restriction, each refusal with its audit line. -/
def gated {α : Type} (tool protocol : String) (principal : Principal)
    (body : Logged Effect (Except TritonError α)) : Logged Effect (Except TritonError α) :=
  if d.isDenied principal then do
    return .error (← d.deny tool protocol principal)
  else
    match d.canInvoke principal tool with
    | .error e => do
        d.auditDispatch tool protocol principal 0 (.error e)
        return .error e
    | .ok () => body

/-! ## Buffered entry points -/

/-- The context for one dispatch: the channel's registered surface unless the
adapter supplied one. -/
def context (protocol : String) (overrides : ContextOverrides) : DispatchContext :=
  let ctx := DispatchContext.forProtocol protocol d.surfaces
  match overrides.surface with
  | some surface => { ctx with surface := some surface }
  | none => ctx

/-- An in-process tool wins; anything else goes upstream. -/
def run (tool : String) (args : Value) (principal : Principal) (ctx : DispatchContext) :
    Logged Effect (Except TritonError Value) :=
  match d.registry.lookup tool with
  | some entry => do
      Logged.tell (.runTool tool args principal.toToolPrincipal ctx)
      match entry.invokeWithContext args principal.toToolPrincipal ctx with
      | .ok result => return result
      | .error joinError => return .error joinError.toError
  | none =>
    match d.upstream with
    | some upstream => do
        Logged.tell (.callUpstream (.invoke tool args) principal ctx)
        return upstream.invoke tool args principal ctx
    | none => pure (.error (.validation s!"unknown tool: {tool}"))

def invokeWith (tool : String) (args : Value) (principal : Principal) (protocol : String)
    (overrides : ContextOverrides) (elapsed : Nat) :
    Logged Effect (Except TritonError Dispatch) :=
  d.gated tool protocol principal do
    let outcome ← d.run tool (prepareArgs args overrides) principal (d.context protocol overrides)
    d.auditDispatch tool protocol principal (asMillis elapsed) outcome
    let returnsA2ui := ((d.registry.lookup tool).map Tool.returnsA2ui).getD d.upstream.isSome
    return outcome.map fun result =>
      ⟨result, principal.traceId, asMillis elapsed, returnsA2ui⟩

/-- The body as a JSON value; an empty body is an empty object. -/
def parseBody (ext : Externals) (body : List UInt8) : Except TritonError Value :=
  if body.isEmpty then .ok (.object [])
  else
    match ext.fromSlice body with
    | .ok value => .ok value
    | .error e => .error (.validation s!"invalid JSON body: {e}")

def invokeWithBytes (ext : Externals) (tool : String) (body : List UInt8)
    (principal : Principal) (protocol : String) (elapsed : Nat) :
    Logged Effect (Except TritonError Dispatch) :=
  match parseBody ext body with
  | .error e => do return .error (← d.fail tool protocol principal e 0)
  | .ok args => d.invokeWith tool args principal protocol {} elapsed

/-- The two MCP-App calls: gate, ask the upstream, audit under the resource's
URI. -/
def resourceCall (uri : String) (principal : Principal) (elapsed : Nat) (call : UpstreamCall)
    (ask : UpstreamDispatch → DispatchContext → Except TritonError Value) :
    Logged Effect (Except TritonError Dispatch) :=
  d.gated uri "mcp" principal do
    let outcome ←
      match d.upstream with
      | some upstream => do
          let ctx := DispatchContext.forProtocol "mcp" d.surfaces
          Logged.tell (.callUpstream call principal ctx)
          pure (ask upstream ctx)
      | none => pure (.error (.validation s!"unknown resource uri: {uri}"))
    d.auditDispatch uri "mcp" principal (asMillis elapsed) outcome
    return outcome.map fun result => ⟨result, principal.traceId, asMillis elapsed, false⟩

def readResource (uri : String) (principal : Principal) (elapsed : Nat) :
    Logged Effect (Except TritonError Dispatch) :=
  d.resourceCall uri principal elapsed (.readResource uri) fun upstream ctx =>
    upstream.readResource uri principal ctx

def updateModelContext (uri : String) (record : Value) (principal : Principal)
    (elapsed : Nat) : Logged Effect (Except TritonError Dispatch) :=
  d.resourceCall uri principal elapsed (.updateModelContext uri record) fun upstream ctx =>
    upstream.updateModelContext uri record principal ctx

end Dispatcher

/-! ## Streamed entry points -/

/-- What the finalizer of an audited stream captures. `openOffset` is the time
from the request to the open stream. -/
structure StreamAudit where
  line : AuditRecord
  openOffset : Nat

/-- A stream as an entry point returns it: bare, or with the audit line hung on
its end. -/
inductive OpenStream where
  | plain (source : EventSource)
  | audited (source : EventSource) (audit : StreamAudit)

/-- The audit line of a streamed dispatch, from how it ended. -/
def StreamAudit.record (audit : StreamAudit) (firing : Firing) : AuditRecord :=
  let (result, status, detail) : String × Nat × Option String :=
    match firing.term with
    | .completed => ("ok", 200, none)
    | .failed detail => ("error:tool", 502, detail)
    | .truncated => ("error:tool", 502, some "upstream_truncated")
    | .disconnected => ("client_disconnect", 499, some "client_disconnect")
  { audit.line with
    result := result
    status := status
    statusDetail := detail
    latencyMs := asMillis (audit.openOffset + firing.timing.total)
    ttfbMs := firing.timing.ttfb.map fun t => asMillis (audit.openOffset + t) }

def emitStreamAudit (audit : StreamAudit) (firing : Firing) : Logged Effect Unit :=
  Dispatcher.emitLine (audit.record firing)

/-- A consumer polls the stream and lets go of it: the answers it got, and what
the stream did meanwhile. -/
def OpenStream.consume (consumer : Consumer) : OpenStream → Logged Effect (List Poll)
  | .plain source => ⟨[], (List.range consumer.polls.length).map source⟩
  | .audited source audit =>
    ⟨((Finalized.new source).firings consumer).flatMap fun firing =>
        (emitStreamAudit audit firing).log,
      ((Finalized.new source).pollAll consumer.polls).answers⟩

/-- A terminal event for a result that should be a surface. -/
def doneEventA2ui (ext : Externals) (value : Value) (version : A2uiVersion) : StreamEvent :=
  match A2ui.extractSurface ext.codec value with
  | .ok surface => .done (ext.codec.buildEnvelope surface version)
  | .error e => .error (.tool s!"tool advertised A2UI but {e}") none

def wrapStreamA2ui (ext : Externals) (inner : EventSource) (version : A2uiVersion) :
    EventSource :=
  inner.map fun
    | .done value => doneEventA2ui ext value version
    | other => other

namespace Dispatcher

variable (d : Dispatcher)

/-- Hang the single audit line on the end of an open stream. -/
def auditedStream (inner : EventSource) (tool protocol : String) (principal : Principal)
    (openOffset : Nat) : OpenStream :=
  .audited inner ⟨d.dispatchLine tool protocol principal 0 "" 0, openOffset⟩

/-- Audit the failure to open a stream, or hand the stream on with its line. -/
def openAudited (tool protocol : String) (principal : Principal) (elapsed : Nat)
    (opened : Except TritonError EventSource) : Logged Effect (Except TritonError OpenStream) :=
  match opened with
  | .error e => do return .error (← d.fail tool protocol principal e (asMillis elapsed))
  | .ok inner => pure (.ok (d.auditedStream inner tool protocol principal elapsed))

/-- Run a tool buffered, audit it now, and wrap its result into a stream of one
event. -/
def streamBuffered (tool : String) (args : Value) (principal : Principal) (protocol : String)
    (ctx : DispatchContext) (elapsed : Nat) (wrap : Value → StreamEvent) :
    Logged Effect (Except TritonError OpenStream) := do
  let outcome ← d.run tool args principal ctx
  d.auditDispatch tool protocol principal (asMillis elapsed) outcome
  return outcome.map fun value => .plain (EventSource.once (wrap value))

/-- The wrap of a negotiated version, where the tool declares surfaces. -/
def wrapDone (ext : Externals) (a2ui : Option A2uiVersion) (returnsA2ui : Bool)
    (value : Value) : StreamEvent :=
  match a2ui, returnsA2ui with
  | some version, true => doneEventA2ui ext value version
  | _, _ => .done value

def wrapStream (ext : Externals) (a2ui : Option A2uiVersion) (returnsA2ui : Bool)
    (inner : EventSource) : EventSource :=
  match a2ui, returnsA2ui with
  | some version, true => wrapStreamA2ui ext inner version
  | _, _ => inner

def invokeStreamingWith (ext : Externals) (tool : String) (args : Value)
    (principal : Principal) (protocol : String) (a2ui : Option A2uiVersion)
    (overrides : ContextOverrides) (elapsed : Nat) :
    Logged Effect (Except TritonError OpenStream) :=
  d.gated tool protocol principal <|
    let args := prepareArgs args overrides
    let ctx := d.context protocol overrides
    match d.registry.lookup tool with
    | some entry =>
      if entry.supportsStreaming then do
        Logged.tell (.runTool tool args principal.toToolPrincipal ctx)
        let opened := entry.invokeStreamingWithContext args principal.toToolPrincipal ctx
        d.openAudited tool protocol principal elapsed
          (opened.map (wrapStream ext a2ui entry.returnsA2ui))
      else
        d.streamBuffered tool args principal protocol ctx elapsed
          (wrapDone ext a2ui entry.returnsA2ui)
    | none =>
      match d.upstream with
      | none => d.streamBuffered tool args principal protocol ctx elapsed .done
      | some upstream => do
          Logged.tell (.callUpstream (.invokeStreaming tool args) principal ctx)
          let opened := upstream.invokeStreaming tool args principal ctx
          d.openAudited tool protocol principal elapsed
            (opened.map (wrapStream ext a2ui true))

def invokeStreamingWithBytes (ext : Externals) (tool : String) (body : List UInt8)
    (principal : Principal) (protocol : String) (a2ui : Option A2uiVersion) (elapsed : Nat) :
    Logged Effect (Except TritonError OpenStream) :=
  match parseBody ext body with
  | .error e => do return .error (← d.fail tool protocol principal e 0)
  | .ok args => d.invokeStreamingWith ext tool args principal protocol a2ui {} elapsed

/-- Re-attach to a long-running upstream task. Without an upstream there is
nothing to resume, and this refusal writes no line. -/
def resumeStreamingWith (tool taskId : String) (principal : Principal) (protocol : String)
    (overrides : ContextOverrides) (elapsed : Nat) :
    Logged Effect (Except TritonError OpenStream) :=
  d.gated tool protocol principal <|
    let args := prepareArgs (.object []) overrides
    let ctx := d.context protocol overrides
    match d.upstream with
    | none => pure (.error (.validation s!"tool {tool} cannot resume a task"))
    | some upstream => do
        Logged.tell (.callUpstream (.resumeStreaming tool taskId args) principal ctx)
        d.openAudited tool protocol principal elapsed
          (upstream.resumeStreaming tool taskId args principal ctx)

end Dispatcher

end Triton.Core
