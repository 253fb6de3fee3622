/-
# The static upstream router

A tool name is looked up in a fixed map, a bearer is minted for the caller, and
the arguments are posted to the mapped endpoint. Around each call stands the
breaker of its tool. The router is modelled as a machine that concurrent calls
share: one step admits a call (or refuses it at the breaker), one step ends an
admitted call in any of the ways its exchange with the agent can end, one drops
it on the way, and the clock moves between steps. A list of steps is an interleaving.
-/

import Triton.Core.Principal
import Triton.Core.Stream
import Triton.Core.Surface
import Triton.Lib.Run
import Triton.Upstream.Breaker

namespace Triton.Upstream

open Triton.Lib
open Triton.Core

/-- What is signed into a minted token. -/
structure Claims where
  auds : List String
  sub : String
  tenant : String
  scopes : List String
  groups : List String
  extra : Members

/-- The router's configuration. A signer is the function its key computes. The
HTTP clients, the stream limits and the latched warning take part in nothing
modelled here. -/
structure StaticUpstream where
  map : Table String String
  token : String
  signer : Option (Claims → Except String String)
  audience : String
  tenant : String
  forwardPrincipal : Bool
  forwardScopeAllowlist : Option (List String)
  forwardGroupAllowlist : Option (List String)
  circuitOpenAfter : UInt32
  circuitCooldown : Nat
  surfaceHint : Bool

def maxScopes : Nat := 32

def maxScopeLen : Nat := 64

def maxTenantLen : Nat := 128

def maxSubLen : Nat := 128

/-- Refuse a field that must not reach a signed claim. -/
def validateSignedField (field value : String) (max : Nat) : Except TritonError Unit :=
  if Text.len value > max then
    .error (.auth (s!"resolved {field} is {Text.len value} bytes, over the {max}-byte cap; "
      ++ "refusing to mint an upstream token"))
  else if value.toList.any fun c => Text.isWhitespace c || Text.isControl c then
    .error (.auth (s!"resolved {field} contains whitespace or control characters; "
      ++ "refusing to mint an upstream token"))
  else .ok ()

def sanitiseScopes (scopes : List String) (allowlist : Option (List String)) : List String :=
  ((scopes.filter fun s =>
      !s.isEmpty && Text.len s ≤ maxScopeLen && !s.toList.any Text.isWhitespace).filter
    fun s => allowlist.all fun allowed => allowed.contains s).take maxScopes

/-- The owner named by a resource URI. -/
def parseUiAuthority (uri : String) : Except TritonError String :=
  match Text.stripHead uri "ui://" with
  | none => .error (.validation s!"not a ui:// resource uri: {uri}")
  | some rest =>
    let authority :=
      String.ofList (rest.toList.takeWhile fun c => c != '/' && c != '?' && c != '#')
    if authority.isEmpty then
      .error (.validation s!"ui:// resource uri has no authority: {uri}")
    else .ok authority

namespace StaticUpstream

variable (up : StaticUpstream)

/-- The provider's view of the caller, each part validated before it is
signed. -/
def idpClaims (idp : IdpIdentity) : Except TritonError Members := do
  validateSignedField "idp" idp.name maxTenantLen
  let claims := Members.insert "idp" (.string idp.name) []
  let claims ←
    match idp.tenant with
    | some tenant => do
        validateSignedField "idp_tenant" tenant maxTenantLen
        pure (Members.insert "idp_tenant" (.string tenant) claims)
    | none => pure claims
  match idp.email with
  | some email => do
      validateSignedField "email" email maxSubLen
      pure (Members.insert "email" (.string email) claims)
  | none => pure claims

/-- The tenant to sign: the caller's, or else the deployment's. -/
def signedTenant (principal : Principal) : Except TritonError String :=
  if principal.tenant.isEmpty then .ok up.tenant
  else do
    validateSignedField "tenant" principal.tenant maxTenantLen
    return principal.tenant

/-- The per-call bearer: a minted token when a signer is attached, else the
static one. -/
def bearer (principal : Principal) : Except TritonError String :=
  match up.signer with
  | none => .ok up.token
  | some sign => do
      let auds := ((Text.split ',' up.audience).map Text.trim).filter (!·.isEmpty)
      let tenant ← up.signedTenant principal
      let scopes :=
        if up.forwardPrincipal then sanitiseScopes principal.scopes up.forwardScopeAllowlist
        else []
      let groups :=
        if up.forwardPrincipal then sanitiseScopes principal.groups up.forwardGroupAllowlist
        else []
      validateSignedField "sub" principal.sub maxSubLen
      let extra ←
        match up.forwardPrincipal, principal.idp with
        | true, some idp => idpClaims idp
        | _, _ => pure []
      match sign ⟨auds, principal.sub, tenant, scopes, groups, extra⟩ with
      | .ok token => return token
      | .error e => .error (.tool s!"mint upstream token: {e}")

def withHint (args : Value) (ctx : DispatchContext) : Value :=
  if up.surfaceHint then Core.surfaceHint args ctx else args

end StaticUpstream

/-! ## Calls -/

/-- A call of one of the router's entry points. -/
inductive Entry where
  | invoke (tool : String) (args : Value)
  | readResource (uri : String)
  | updateModelContext (uri : String) (record : Value)
  | openStream (tool : String) (args : Value) (resume : Option String)

def Entry.streams : Entry → Bool
  | .openStream .. => true
  | _ => false

/-- How the exchange of a buffered call went: the request failed, or a response
came back with a status and a body. -/
inductive Exchange where
  | timedOut
  | unreachable (error : String)
  | responded (success : Bool) (status : String) (body : Except String Value)

/-- The body of a streamed call's response: one document, read within the idle
limit or not, or an event stream that came to an end. -/
inductive StreamBody where
  | document (body : Except String Value)
  | documentTimedOut
  | events (term : Termination)

/-- How the exchange of a streamed call went. -/
inductive StreamExchange where
  | timedOut
  | unreachable (error : String)
  | responded (success : Bool) (status : String) (body : StreamBody)

/-- The request a call sends. -/
structure Request where
  url : String
  bearer : String
  headers : List (String × String)
  body : Value

def channelHeader : String := "X-Triton-Channel"

def taskHeader : String := "X-Triton-Task"

namespace StaticUpstream

variable (up : StaticUpstream)

/-- The name whose breaker guards the call. The resource calls check their owner
against the map before they come near a breaker; the tool calls do not. -/
def guardName : Entry → Except TritonError String
  | .invoke tool _ | .openStream tool _ _ => .ok tool
  | .readResource uri | .updateModelContext uri _ => do
      let authority ← parseUiAuthority uri
      if authority ∈ up.map then .ok authority
      else .error (.validation s!"unknown resource owner: {authority}")

/-- The request of an admitted call, or why it is not sent: the name is not
mapped, or the bearer refuses the caller. -/
def request (name : String) (principal : Principal) (ctx : DispatchContext) (entry : Entry) :
    Except TritonError Request := do
  let endpoint ←
    match up.map.lookup name with
    | some endpoint => pure endpoint
    | none =>
      match entry with
      | .invoke .. | .openStream .. => .error (.validation s!"unknown tool: {name}")
      | .readResource .. | .updateModelContext .. =>
        .error (.validation s!"unknown resource owner: {name}")
  let bearer ← up.bearer principal
  let url := s!"http://{endpoint}/"
  match entry with
  | .invoke _ args =>
    return ⟨url, bearer, [("X-Triton-Tool", name), (channelHeader, ctx.channel)],
      up.withHint args ctx⟩
  | .openStream _ args resume =>
    return ⟨url, bearer,
      [("X-Triton-Tool", name), (channelHeader, ctx.channel), ("Accept", "text/event-stream")]
        ++ (resume.map fun task => (taskHeader, task)).toList,
      up.withHint args ctx⟩
  | .readResource uri =>
    return ⟨url, bearer, [("X-Triton-MCP", "resources/read"), (channelHeader, ctx.channel)],
      .object [("uri", .string uri)]⟩
  | .updateModelContext _ record =>
    return ⟨url, bearer,
      [("X-Triton-MCP", "updateModelContext"), (channelHeader, ctx.channel)], record⟩

end StaticUpstream

/-- What the messages of a call call its agent. -/
def Entry.describe (name : String) : Entry → String
  | .invoke .. | .openStream .. => name
  | .readResource .. => s!"{name} resources/read"
  | .updateModelContext .. => s!"{name} updateModelContext"

/-- The outcome of a buffered exchange. -/
def Exchange.outcome (what : String) : Exchange → Except TritonError Value
  | .timedOut => .error (.tool s!"upstream {what} timed out")
  | .unreachable e => .error (.tool s!"upstream {what} unreachable: {e}")
  | .responded false status _ => .error (.tool s!"upstream {what} returned {status}")
  | .responded true _ (.ok value) => .ok value
  | .responded true _ (.error e) => .error (.tool s!"upstream {what} decode: {e}")

/-- What a buffered call reports to its breaker: success, an agent's fault, or
nothing when the fault is the caller's. -/
def report {α : Type} : Except TritonError α → Option Bool
  | .ok _ => some true
  | .error (.tool _) => some false
  | .error _ => none

/-- What a streamed exchange reports, given whether the call is the probe. A
client that leaves only settles a probe. -/
def StreamExchange.report (wasHalfOpen : Bool) : StreamExchange → Option Bool
  | .timedOut | .unreachable _ | .responded false _ _ => some false
  | .responded true _ (.document (.ok _)) => some true
  | .responded true _ (.document (.error _)) | .responded true _ .documentTimedOut => some false
  | .responded true _ (.events .completed) => some true
  | .responded true _ (.events (.failed _)) | .responded true _ (.events .truncated) =>
    some false
  | .responded true _ (.events .disconnected) => if wasHalfOpen then some false else none

/-! ## The machine -/

/-- An admitted call. -/
structure Call where
  entry : Entry
  name : String
  principal : Principal
  ctx : DispatchContext
  wasHalfOpen : Bool
  ended : Bool

structure State where
  breakers : Table String Breaker
  now : Nat
  calls : List Call

/-- One step of the environment. The last three name a call by the order of admission;
`drop` is a caller that lets go of the call before it has its answer, as the task runner
does at a task's deadline. A client that leaves an open stream ends it by `finishStream`. -/
inductive Label where
  | tick (nanos : Nat)
  | call (entry : Entry) (principal : Principal) (ctx : DispatchContext)
  | finish (index : Nat) (exchange : Exchange)
  | finishStream (index : Nat) (exchange : StreamExchange)
  | drop (index : Nat)

def Label.drops : Label → Bool
  | .drop _ => true
  | _ => false

namespace State

def init : State := ⟨∅, 0, []⟩

/-- The breaker of a name; a slot is made on first use. -/
def breaker (s : State) (name : String) : Breaker := (s.breakers.lookup name).getD Breaker.new

/-- The call at this index, while it has not ended. -/
def underway (s : State) (index : Nat) : Option Call := s.calls[index]?.filter (!·.ended)

def setBreaker (s : State) (name : String) (b : Breaker) : State :=
  { s with breakers := s.breakers.insert name b }

end State

namespace StaticUpstream

variable (up : StaticUpstream)

/-- Admission: find the breaker, ask it, and note the call if it may go on. -/
def startCall (s : State) (entry : Entry) (principal : Principal) (ctx : DispatchContext) : State :=
  match up.guardName entry with
  | .error _ => s
  | .ok name =>
    let (armed, permission) := (s.breaker name).checkAndArm s.now up.circuitCooldown
    let s := s.setBreaker name armed
    if permission.allowed then
      { s with
        calls := s.calls ++ [⟨entry, name, principal, ctx, permission.wasHalfOpen, false⟩] }
    else s

/-- What the end of a buffered call reports. -/
def finishReport (call : Call) (exchange : Exchange) : Option Bool :=
  report do
    let _ ← up.request call.name call.principal call.ctx call.entry
    exchange.outcome (call.entry.describe call.name)

/-- What the end of a streamed call reports. A request that is not sent reports
nothing, whatever the reason. -/
def finishStreamReport (call : Call) (exchange : StreamExchange) : Option Bool :=
  match up.request call.name call.principal call.ctx call.entry with
  | .error _ => none
  | .ok _ => exchange.report call.wasHalfOpen

/-- End a call and hand its report, if any, to its breaker. -/
def settle (s : State) (index : Nat) (call : Call) (verdict : Option Bool) : State :=
  let s := { s with calls := s.calls.set index { call with ended := true } }
  match verdict with
  | none => s
  | some success =>
    s.setBreaker call.name
      ((s.breaker call.name).observe s.now success call.wasHalfOpen up.circuitOpenAfter)

/-- The call a label ends, with its index and its report; nothing for a label
that ends no call under way. -/
def ending (s : State) : Label → Option (Nat × Call × Option Bool)
  | .finish index exchange =>
    (s.underway index).bind fun call =>
      if call.entry.streams then none
      else some (index, call, up.finishReport call exchange)
  | .finishStream index exchange =>
    (s.underway index).bind fun call =>
      if call.entry.streams then some (index, call, up.finishStreamReport call exchange)
      else none
  | .drop index => (s.underway index).map fun call => (index, call, none)
  | _ => none

def step (s : State) (label : Label) : State :=
  match label with
  | .tick nanos => { s with now := s.now + nanos }
  | .call entry principal ctx => up.startCall s entry principal ctx
  | .finish .. | .finishStream .. | .drop .. =>
    match up.ending s label with
    | some (index, call, verdict) => up.settle s index call verdict
    | none => s

end StaticUpstream

end Triton.Upstream
