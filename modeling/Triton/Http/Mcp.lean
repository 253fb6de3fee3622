/-
# MCP methods that reach an upstream

A call of a tool, a read of a resource and a record for the model context all go
through the dispatcher; a tool call may run as a task, and then its outcome is heard on
the task's channel or read from the store. A fault of the agent has one sentence for
the caller, and its cause stays in the log. Only tool calls keep to this, and only as
long as the call itself fails: the other two methods answer with the text of the
fault, and so does a tool call whose result is not the surface it should be.
-/

import Triton.A2ui.Surface
import Triton.Lib.Record
import Triton.Tasks.Endings

namespace Triton.Http.Mcp

open Triton.Lib Triton.Core Triton.Tasks Triton.A2ui
open Triton.Lib.Record (str)

/-! ## Responses -/

def codeInvalidParams : Int := -32602

def codeAuth : Int := -32001

def codeToolProvider : Int := -32000

def codeRateLimited : Int := -32002

inductive RpcResponse where
  | ok (id result : Value)
  | error (id : Value) (code : Int) (message : String)

def codeFor : TritonError → Int
  | .auth _ | .forbidden _ => codeAuth
  | .validation _ => codeInvalidParams
  | .tool _ | .provider _ => codeToolProvider
  | .rateLimited _ => codeRateLimited

/-- A fault on the agent's side. -/
def isFault : TritonError → Bool
  | .tool _ | .provider _ => true
  | _ => false

/-- An error with its text. -/
def rpcDisplay (id : Value) (e : TritonError) : RpcResponse := .error id (codeFor e) e.display

/-- What the dispatcher answers with. -/
structure Dispatch where
  result : Value
  traceId : String
  latencyMs : ℕ
  returnsA2ui : Bool

def envelope (d : Dispatch) : Value :=
  Record.object [("result", some d.result), ("trace_id", str d.traceId),
    ("latency_ms", some (.number (.posInt d.latencyMs)))]

def textOf (v : Value) (key : String) : Option String := (v.get key).bind Value.asStr

/-- A tool result as a host shows it: one text. -/
def textContent (text : String) : Option Value :=
  some (.array [Record.object [("type", str "text"), ("text", str text)]])

/-! ## A call as a task -/

/-- What is heard on the channel of a task: an event, that some were missed, that the
channel closed (with the record the store then has), or nothing in time. -/
inductive Heard where
  | event (event : TaskEvent)
  | lagged
  | closed (stored : Option TaskRecord)
  | timeout

inductive McpOutcome where
  | done (d : Dispatch)
  | filed (result : Value)
  | agentError (message : String)

/-- What the wait has learnt so far. There is a deadline once the upstream went
asynchronous. -/
structure Waiting where
  deadline : Bool
  checkAfter : ℕ
  receipt : Option String
  upstreamTaskId : Option String

def filedResult (traceId : String) (w : Waiting) : Value :=
  let waiting := "The request is filed and still running. Check again in about " ++
    toString w.checkAfter ++ " seconds."
  Record.object [("content", textContent (w.receipt.getD waiting)),
    ("structuredContent", some (Record.object [("status", str "filed"),
      ("task_id", str (w.upstreamTaskId.getD traceId)),
      ("check_after_seconds", some (.number (.posInt w.checkAfter))),
      ("receipt", w.receipt.map .string)])),
    ("isError", some (.bool false)), ("_meta", some (Record.object [("trace_id", str traceId)]))]

/-- One call that runs as a task. -/
structure TaskCall where
  traceId : String
  elapsedMs : ℕ
  returnsA2ui : Bool

def TaskCall.dispatch (call : TaskCall) (result : Value) : Dispatch :=
  ⟨result, call.traceId, call.elapsedMs, call.returnsA2ui⟩

/-- The outcome of a task whose channel closed. -/
def storedOutcome (call : TaskCall) : Option TaskRecord → Except TritonError McpOutcome
  | none => .error (.tool "the call failed")
  | some rec =>
    if rec.state = .completed then
      .ok (.done (call.dispatch (rec.result.getD (standIn (rec.resultText.getD "")))))
    else if rec.errorClass = some classAgent then .ok (.agentError (rec.error.getD ""))
    else .error (storedError rec)

def toldOutcome (errorClass message : String) : Except TritonError McpOutcome :=
  if errorClass = classAgent then .ok (.agentError message)
  else .error (errorOf errorClass message)

/-- Listen until the task ends or the deadline passes. -/
def listen (call : TaskCall) : Waiting → List Heard → Option (Except TritonError McpOutcome)
  | _, [] => none
  | w, .event (.async upstream checkAfter receipt _) :: rest =>
    listen call ⟨true, checkAfter.getD w.checkAfter, receipt.or w.receipt, some upstream⟩ rest
  | _, .event (.done result) :: _ => some (.ok (.done (call.dispatch result)))
  | _, .event (.failed errorClass message) :: _ => some (toldOutcome errorClass message)
  | w, .event (.token _) :: rest => listen call w rest
  | w, .event (.progress _) :: rest => listen call w rest
  | w, .lagged :: rest => listen call w rest
  | _, .closed stored :: _ => some (storedOutcome call stored)
  | w, .timeout :: rest =>
    if w.deadline then some (.ok (.filed (filedResult call.traceId w))) else listen call w rest

/-- What comes from the upstream side: the answer of the dispatcher, why the task of
the call did not start, and what is heard of it. -/
structure Upstream where
  answered : Except TritonError Dispatch
  refused : Option String
  heard : List Heard
  elapsedMs : ℕ

def runAsTask (call : TaskCall) (checkAfter : ℕ) (u : Upstream) :
    Option (Except TritonError McpOutcome) :=
  match u.refused with
  | some text => some (.error (.tool text))
  | none => listen call ⟨false, checkAfter, none, none⟩ u.heard

/-! ## The methods -/

/-- The parts of the server state that the methods read. With tasks there is the time
after which a caller is asked to check back. -/
structure McpState where
  hasUpstream : Bool
  isInProcess : String → Bool
  returnsA2ui : String → Bool
  tasks : Option ℕ
  widget : Bool
  cardNote : String

/-- How results are shown: surfaces, texts, and the widget with its data. -/
structure Faces where
  codec : Codec
  replyText : Value → String
  cardCompanions : Value → Option String
  widgetData : Value → Option Value
  cardText : Value → String → Option String
  widgetHtml : String
  widgetResourceMeta : Value

inductive McpMethod where
  | toolsCall
  | resourcesRead
  | updateModelContext
  deriving DecidableEq, Repr

structure McpRequest where
  method : McpMethod
  id : Value
  params : Value
  cardHost : Bool
  traceId : String

section Methods

variable (state : McpState) (faces : Faces)

def parseMcpA2uiVersion (params : Value) : Except String (Option A2uiVersion) :=
  match (params.get "_meta").bind (textOf · "a2ui_version") with
  | none => .ok none
  | some v =>
    if v = "v0.8" then .ok (some .v08)
    else if v = "v0.9" then .ok (some .v09)
    else .error ("unknown A2UI version: " ++ v)

def wrapA2uiIfRequested (d : Dispatch) (requested : Option A2uiVersion) :
    Except TritonError Dispatch :=
  match requested with
  | none => .ok d
  | some version =>
    if !d.returnsA2ui then .ok d
    else
      match extractSurface faces.codec d.result with
      | .error e => .error (.tool ("tool advertised A2UI but " ++ e))
      | .ok surface => .ok { d with result := faces.codec.buildEnvelope surface version }

/-- The result of a call: its text, its envelope and what the host may draw. The text
and the widget are made from the result before it is wrapped. -/
def callResult (cardHost : Bool) (before wrapped : Dispatch) : Value :=
  let metaOf := before.result.get "_meta"
  let ui := (metaOf.bind (·.get "ui")).filter Value.isObject
  let trace := (metaOf.bind (·.get "tool_trace")).filter fun v => v.asArray.isSome
  let widget := if state.widget && ui.isNone then faces.widgetData before.result else none
  let shown := (widget.filter fun _ => cardHost).bind (faces.cardText · state.cardNote)
  let text :=
    match shown, faces.cardCompanions before.result with
    | some line, some rest => line ++ "\n\n" ++ rest
    | some line, none => line
    | none, _ => faces.replyText before.result
  Record.object [("content", textContent text), ("structuredContent", some (envelope wrapped)),
    ("isError", some (.bool false)),
    ("_meta", some (Record.object [("trace_id", str before.traceId), ("triton/widget", widget),
      ("ui", ui), ("tool_trace", trace)]))]

/-- The outcome of a tool call. Only the tools of an upstream run as tasks. -/
def callOutcome (traceId tool : String) (u : Upstream) : Option (Except TritonError McpOutcome) :=
  match state.tasks with
  | some checkAfter =>
    if state.hasUpstream && !state.isInProcess tool then
      runAsTask ⟨traceId, u.elapsedMs, state.returnsA2ui tool⟩ checkAfter u
    else some (u.answered.map .done)
  | none => some (u.answered.map .done)

/-- The answer to an error of a call. -/
def callError (id : Value) (e : TritonError) : RpcResponse :=
  if isFault e then .error id (codeFor e) e.userNotice else rpcDisplay id e

def outcomeResponse (id : Value) (cardHost : Bool) (requested : Option A2uiVersion) :
    Except TritonError McpOutcome → RpcResponse
  | .error e => callError id e
  | .ok (.filed result) => .ok id result
  | .ok (.agentError message) => .error id codeToolProvider message
  | .ok (.done d) =>
    match wrapA2uiIfRequested faces d requested with
    | .error e => rpcDisplay id e
    | .ok wrapped => .ok id (callResult state faces cardHost d wrapped)

def toolsCall (id params : Value) (cardHost : Bool) (traceId : String) (u : Upstream) :
    Option RpcResponse :=
  match textOf params "name" with
  | none => some (.error id codeInvalidParams "params.name MUST be a string")
  | some tool =>
    match parseMcpA2uiVersion params with
    | .error e => some (.error id codeInvalidParams e)
    | .ok requested =>
      (callOutcome state traceId tool u).map (outcomeResponse state faces id cardHost requested)

/-- The dispatcher's answer, passed on. -/
def relay (id : Value) : Except TritonError Dispatch → RpcResponse
  | .ok d => .ok id d.result
  | .error e => rpcDisplay id e

def runtimeUri : String := "ui://triton/runtime.html"

def isWidgetUri (uri : String) : Bool :=
  (Text.stripHead uri "ui://triton/answer-card").any fun rest =>
    Text.endsWith rest ".html" && !rest.toList.contains '/'

/-- The runtime and the widget are served from here. -/
def isLocal (uri : String) : Bool := uri == runtimeUri || (state.widget && isWidgetUri uri)

def localResource (uri : String) : Value :=
  if uri = runtimeUri then
    Record.object [("contents", some (.array [Record.object [("uri", str uri),
      ("mimeType", str "text/html"),
      ("text", str "<!-- triton runtime stub; see realizations.md §1 -->")]]))]
  else
    Record.object [("contents", some (.array [Record.object [("uri", str uri),
      ("mimeType", str "text/html;profile=mcp-app"), ("text", str faces.widgetHtml),
      ("_meta", some faces.widgetResourceMeta)]]))]

def resourcesRead (id params : Value) (u : Upstream) : RpcResponse :=
  match textOf params "uri" with
  | none => .error id codeInvalidParams "params.uri MUST be a string"
  | some uri =>
    if isLocal state uri then .ok id (localResource faces uri) else relay id u.answered

def updateModelContext (id params : Value) (u : Upstream) : RpcResponse :=
  match textOf params "uri" with
  | none => .error id codeInvalidParams "params.uri MUST be a string"
  | some _ =>
    match params.get "record" with
    | none => .error id codeInvalidParams "params.record MUST be present"
    | some _ => relay id u.answered

/-- The response to a request; none while the call is waited for. -/
def respond (request : McpRequest) (u : Upstream) : Option RpcResponse :=
  match request.method with
  | .toolsCall => toolsCall state faces request.id request.params request.cardHost request.traceId u
  | .resourcesRead => some (resourcesRead state faces request.id request.params u)
  | .updateModelContext => some (updateModelContext request.id request.params u)

/-! ## Failures -/

/-- How a request fails: the upstream's call does, or its result cannot be wrapped. -/
inductive Failure where
  | call (e : TritonError)
  | wrap (e : TritonError)

def Failure.error : Failure → TritonError
  | .call e | .wrap e => e

def Failure.inWrap : Failure → Bool
  | .call _ => false
  | .wrap _ => true

def outcomeFailure (requested : Option A2uiVersion) :
    Except TritonError McpOutcome → Option Failure
  | .error e => some (.call e)
  | .ok (.done d) =>
    match wrapA2uiIfRequested faces d requested with
    | .error e => some (.wrap e)
    | .ok _ => none
  | .ok _ => none

def answerFailure : Except TritonError Dispatch → Option Failure
  | .error e => some (.call e)
  | .ok _ => none

/-- The failure of a request that reaches an upstream. An error event of the agent
itself is none: its message is written for the caller. -/
def failureOf (request : McpRequest) (u : Upstream) : Option Failure :=
  match request.method with
  | .toolsCall =>
    match textOf request.params "name", parseMcpA2uiVersion request.params with
    | some tool, .ok requested =>
      (callOutcome state request.traceId tool u).bind (outcomeFailure faces requested)
    | _, _ => none
  | .resourcesRead =>
    match textOf request.params "uri" with
    | some uri => if isLocal state uri then none else answerFailure u.answered
    | none => none
  | .updateModelContext =>
    match textOf request.params "uri", request.params.get "record" with
    | some _, some _ => answerFailure u.answered
    | _, _ => none

/-- The response to a failure of a request. -/
def failureResponse (request : McpRequest) : Failure → RpcResponse
  | .call e =>
    if request.method = .toolsCall then callError request.id e else rpcDisplay request.id e
  | .wrap e => rpcDisplay request.id e

variable {request : McpRequest}

theorem outcomeResponse_of_failure {requested : Option A2uiVersion}
    {outcome : Except TritonError McpOutcome} {failure : Failure}
    (called : request.method = .toolsCall)
    (fails : outcomeFailure faces requested outcome = some failure) :
    outcomeResponse state faces request.id request.cardHost requested outcome =
      failureResponse request failure := by
  cases outcome with
  | error e =>
    cases fails
    rw [failureResponse, if_pos called, outcomeResponse]
  | ok outcome =>
    cases outcome with
    | filed result | agentError message => cases fails
    | done d =>
      unfold outcomeFailure at fails
      unfold outcomeResponse
      dsimp only at fails ⊢
      split at fails
      · rename_i e wrapped
        cases fails
        rfl
      · cases fails

theorem relay_of_failure {answered : Except TritonError Dispatch} {failure : Failure}
    (other : request.method ≠ .toolsCall) (fails : answerFailure answered = some failure) :
    relay request.id answered = failureResponse request failure := by
  cases answered with
  | error e =>
    cases fails
    rw [failureResponse, if_neg other, relay]
  | ok d => cases fails

/-- Every failure is answered by what it is, in every method and on every path. -/
theorem respond_of_failure {u : Upstream} {failure : Failure}
    (fails : failureOf state faces request u = some failure) :
    respond state faces request u = some (failureResponse request failure) := by
  unfold failureOf at fails
  unfold respond
  cases method : request.method with
  | toolsCall =>
    rw [method] at fails
    dsimp only at fails ⊢
    split at fails
    case h_2 => cases fails
    case h_1 tool requested named versioned =>
      obtain ⟨outcome, came, failed⟩ := Option.bind_eq_some_iff.mp fails
      rw [toolsCall, named, versioned]
      dsimp only
      rw [came, Option.map_some, outcomeResponse_of_failure state faces method failed]
  | resourcesRead =>
    rw [method] at fails
    dsimp only at fails ⊢
    rw [resourcesRead]
    split at fails
    case h_2 => cases fails
    case h_1 uri named =>
      split at fails
      case isTrue => cases fails
      case isFalse remote =>
        rw [named]
        dsimp only
        rw [if_neg remote, relay_of_failure (by rw [method]; decide) fails]
  | updateModelContext =>
    rw [method] at fails
    dsimp only at fails ⊢
    rw [updateModelContext]
    split at fails
    case h_2 => cases fails
    case h_1 uri record named given =>
      rw [named, given]
      dsimp only
      rw [relay_of_failure (by rw [method]; decide) fails]

/-! ### Failures of a task -/

/-- Nothing that ends the wait. -/
def Heard.isPending : Heard → Bool
  | .event told => !told.isTerminal
  | .lagged => true
  | .closed _ | .timeout => false

/-- What is heard before the end only changes what the wait has learnt. -/
theorem listen_pending (call : TaskCall) (w : Waiting) {before : List Heard}
    (pending : ∀ heard ∈ before, heard.isPending = true) (rest : List Heard) :
    ∃ later, listen call w (before ++ rest) = listen call later rest := by
  induction before generalizing w with
  | nil => exact ⟨w, rfl⟩
  | cons heard before ih =>
    obtain ⟨here, there⟩ := List.forall_mem_cons.mp pending
    cases heard with
    | lagged => exact ih w there
    | closed | timeout => cases here
    | event event =>
      cases event with
      | token text | progress progress => exact ih w there
      | async upstream checkAfter receipt note => exact ih _ there
      | done | failed => cases here

section Task

variable {state faces} {request : McpRequest} {u : Upstream} {tool : String}
  {requested : Option A2uiVersion} {before rest : List Heard}

/-- What ends the wait decides about a call that runs as a task. -/
theorem failureOf_heard (called : request.method = .toolsCall)
    (named : textOf request.params "name" = some tool)
    (versioned : parseMcpA2uiVersion request.params = .ok requested)
    (tasks : state.tasks.isSome = true)
    (upstream : (state.hasUpstream && !state.isInProcess tool) = true) (started : u.refused = none)
    (pending : ∀ heard ∈ before, heard.isPending = true) {last : Heard}
    (heard : u.heard = before ++ last :: rest) {outcome : Except TritonError McpOutcome}
    (ends : ∀ call w, listen call w (last :: rest) = some outcome) :
    failureOf state faces request u = outcomeFailure faces requested outcome := by
  obtain ⟨checkAfter, configured⟩ := Option.isSome_iff_exists.mp tasks
  have came : callOutcome state request.traceId tool u = some outcome := by
    rw [callOutcome, configured]
    dsimp only
    rw [if_pos upstream, runAsTask, started]
    dsimp only
    obtain ⟨later, same⟩ := listen_pending ⟨request.traceId, u.elapsedMs, state.returnsA2ui tool⟩
      ⟨false, checkAfter, none, none⟩ pending (last :: rest)
    rw [heard, same, ends]
  rw [failureOf, called]
  dsimp only
  rw [named, versioned]
  dsimp only
  rw [came, Option.bind_some]

end Task

/-! ## Texts stay inside -/

/-- Two faults on the agent's side that differ only in their texts. -/
inductive SameFault : TritonError → TritonError → Prop where
  | tool (first second : String) : SameFault (.tool first) (.tool second)
  | provider (first second : String) : SameFault (.provider first) (.provider second)

/-- Two failures at the same place that differ only in their texts. -/
structure Failure.Alike (first second : Failure) : Prop where
  place : first.inWrap = second.inWrap
  fault : SameFault first.error second.error

theorem rpcDisplay_alike_iff {e e' : TritonError} (same : SameFault e e') (id : Value) :
    rpcDisplay id e = rpcDisplay id e' ↔ e = e' := by
  constructor
  · intro answers
    have texts : e.display = e'.display := by
      injection answers
    cases same with
    | tool first second =>
      exact congrArg TritonError.tool ((String.append_right_inj _).mp texts)
    | provider first second =>
      exact congrArg TritonError.provider ((String.append_right_inj _).mp texts)
  · rintro rfl
    rfl

/-- The method hides the texts of failures at this place. -/
def Hides (request : McpRequest) (failure : Failure) : Prop :=
  request.method = .toolsCall ∧ failure.inWrap = false

theorem failureResponse_alike_iff {first second : Failure} (alike : first.Alike second) :
    failureResponse request first = failureResponse request second ↔
      Hides request first ∨ first.error = second.error := by
  obtain ⟨place, fault⟩ := alike
  cases first with
  | wrap e =>
    cases second with
    | call => cases place
    | wrap e' => simpa [Hides, failureResponse, Failure.inWrap, Failure.error]
        using rpcDisplay_alike_iff fault request.id
  | call e =>
    cases second with
    | wrap => cases place
    | call e' =>
      by_cases called : request.method = .toolsCall
      · have alike : callError request.id e = callError request.id e' := by cases fault <;> rfl
        simpa [Hides, failureResponse, Failure.inWrap, Failure.error, called] using alike
      · simpa [Hides, failureResponse, Failure.inWrap, Failure.error, called]
          using rpcDisplay_alike_iff fault request.id

/-- Two failures that differ only in their texts have the same answer exactly when the
request is a tool call that fails before its result is wrapped, or the texts are the
same after all. -/
theorem faults_answered_alike_iff (request : McpRequest) (u v : Upstream) {first second : Failure}
    (fails : failureOf state faces request u = some first)
    (failsToo : failureOf state faces request v = some second) (alike : first.Alike second) :
    respond state faces request u = respond state faces request v ↔
      Hides request first ∨ first.error = second.error := by
  rw [respond_of_failure state faces fails, respond_of_failure state faces failsToo,
    Option.some.injEq, failureResponse_alike_iff alike]

end Methods

/-! ### A task that fails, and a page that cannot be read -/

def taskState : McpState where
  hasUpstream := true
  isInProcess _ := false
  returnsA2ui _ := true
  tasks := some 30
  widget := false
  cardNote := ""

def plainFaces : Faces where
  codec := ⟨fun _ => .error "unused", fun _ _ => .null, fun _ => true⟩
  replyText _ := ""
  cardCompanions _ := none
  widgetData _ := none
  cardText _ _ := none
  widgetHtml := ""
  widgetResourceMeta := .null

def reportCall : McpRequest where
  method := .toolsCall
  id := .null
  params := .object [("name", .string "report")]
  cardHost := false
  traceId := "t"

/-- An upstream whose task streams a little and then fails. -/
def failing (text : String) : Upstream where
  answered := .error (.tool "unused")
  refused := none
  heard := [.event (.token "Working"), .lagged, .event (.failed "provider" text)]
  elapsedMs := 0

theorem failureOf_failing (text : String) :
    failureOf taskState plainFaces reportCall (failing text) =
      some (.call (.provider text)) := by
  have pending : ∀ heard ∈ [Heard.event (.token "Working"), .lagged], heard.isPending = true := by
    simp [Heard.isPending, TaskEvent.isTerminal]
  have heard : (failing text).heard = [.event (.token "Working"), .lagged] ++
      .event (.failed "provider" text) :: [] := rfl
  have ends : ∀ call w, listen call w [.event (.failed "provider" text)] =
      some (.error (.provider text)) := fun _ _ => rfl
  exact failureOf_heard rfl rfl rfl rfl rfl rfl pending heard ends

theorem task_failures_answered_alike :
    respond taskState plainFaces reportCall (failing "http://10.0.0.7 returned 404") =
      respond taskState plainFaces reportCall (failing "connection refused") :=
  (faults_answered_alike_iff taskState plainFaces reportCall _ _ (failureOf_failing _)
    (failureOf_failing _) ⟨rfl, .provider _ _⟩).mpr (.inl ⟨rfl, rfl⟩)

def pageRead : McpRequest where
  method := .resourcesRead
  id := .null
  params := .object [("uri", .string "ui://peacock/r1")]
  cardHost := false
  traceId := "t"

/-- An upstream that the dispatcher cannot get an answer from. -/
def unreachable (text : String) : Upstream where
  answered := .error (.tool text)
  refused := none
  heard := []
  elapsedMs := 0

/-- A page that cannot be read is answered with the text of the fault. -/
theorem page_faults_told_apart :
    failureOf taskState plainFaces pageRead (unreachable "http://10.0.0.7 returned 404") =
        some (.call (.tool "http://10.0.0.7 returned 404")) ∧
      failureOf taskState plainFaces pageRead (unreachable "connection refused") =
        some (.call (.tool "connection refused")) ∧
      respond taskState plainFaces pageRead (unreachable "http://10.0.0.7 returned 404") =
        some (.error .null codeToolProvider "tool: http://10.0.0.7 returned 404") ∧
      respond taskState plainFaces pageRead (unreachable "http://10.0.0.7 returned 404") ≠
        respond taskState plainFaces pageRead (unreachable "connection refused") := by
  refine ⟨rfl, rfl, rfl, ?_⟩
  intro same
  have answers : rpcDisplay .null (.tool "http://10.0.0.7 returned 404") =
      rpcDisplay .null (.tool "connection refused") := Option.some.inj same
  have faults := (rpcDisplay_alike_iff (.tool _ _) .null).mp answers
  exact absurd (TritonError.tool.inj faults) (by decide)

end Triton.Http.Mcp
