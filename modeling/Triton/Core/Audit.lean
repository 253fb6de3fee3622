/-
# Audit records

One record per decision the gateway takes, and the bounded buffer of recent
records that the operator endpoints read. What goes into the buffer is a copy of
the record with every field a resolver or a caller can choose cut to a bounded
length.
-/

import Triton.Core.Principal
import Triton.Core.Surface

namespace Triton.Core

open Triton.Lib

inductive AuditPhase where
  | dispatch
  | rejected
  | upstream
  | post
  deriving DecidableEq, Repr

/-- One audit line. The constant `kind` and the wall-clock `when` are left out;
nothing reads them. -/
structure AuditRecord where
  phase : AuditPhase
  who : String
  what : String
  env : String
  result : String
  protocol : String
  tool : String
  subject : String
  tenant : String
  latencyMs : Nat
  status : Nat
  statusLabel : Option String
  statusDetail : Option String
  errorDetail : Option String
  ttfbMs : Option Nat
  senderRef : Option String
  destination : Option String
  suppressed : Option Nat
  traceId : String
  deriving DecidableEq, Repr

def maxAuditedFieldLen : Nat := 128

/-- Cut a caller-influenced field, naming its true length. -/
def clampAudited (value : String) : String :=
  if Text.len value ≤ maxAuditedFieldLen then value
  else
    String.ofList (Text.takeBytes maxAuditedFieldLen value.toList) ++
      s!"…[{Text.len value} bytes]"

/-- The record as both sinks carry it. -/
def AuditRecord.toEntry (r : AuditRecord) : AuditRecord :=
  { r with
    who := clampAudited r.who
    subject := clampAudited r.subject
    tenant := clampAudited r.tenant
    destination := r.destination.map clampAudited
    errorDetail := r.errorDetail.map clampAudited
    senderRef := r.senderRef.map clampAudited }

def auditBufferCapacity : Nat := 1024

/-- The recent entries, oldest first. -/
abbrev AuditBuffer := List AuditRecord

namespace AuditBuffer

def pushEntry (buffer : AuditBuffer) (entry : AuditRecord) : AuditBuffer :=
  (if buffer.length = auditBufferCapacity then buffer.tail else buffer) ++ [entry]

/-- The newest `limit` entries that belong to the trace, if one is named, and
that `visible` accepts. -/
def recentWhere (buffer : AuditBuffer) (limit : Nat) (traceId : Option String)
    (visible : AuditRecord → Bool) : List AuditRecord :=
  let newest : List AuditRecord := buffer.reverse
  let filtered : List AuditRecord :=
    match traceId with
    | some t => newest.filter fun e => e.traceId == t
    | none => newest
  (filtered.filter visible).take limit

end AuditBuffer

/-- A call the dispatcher makes on its upstream router. -/
inductive UpstreamCall where
  | invoke (tool : String) (args : Value)
  | invokeStreaming (tool : String) (args : Value)
  | resumeStreaming (tool taskId : String) (args : Value)
  | readResource (uri : String)
  | updateModelContext (uri : String) (record : Value)

/-- What a dispatch does to the world outside it. -/
inductive Effect where
  | recordDispatch (tool protocol result : String)
  | recordAudit (phase : String)
  | emit (record : AuditRecord)
  | runTool (tool : String) (args : Value) (principal : ToolPrincipal) (ctx : DispatchContext)
  | callUpstream (call : UpstreamCall) (principal : Principal) (ctx : DispatchContext)

namespace Effect

/-- The dispatch-phase record an effect emits, if it does. -/
def dispatchRecord : Effect → Option AuditRecord
  | .emit record => if record.phase = .dispatch then some record else none
  | _ => none

end Effect

/-- The dispatch-phase records of a log. -/
def dispatchRecords (log : List Effect) : List AuditRecord := log.filterMap Effect.dispatchRecord

@[simp]
theorem dispatchRecords_nil : dispatchRecords [] = [] := rfl

@[simp]
theorem dispatchRecords_append (first second : List Effect) :
    dispatchRecords (first ++ second) = dispatchRecords first ++ dispatchRecords second :=
  List.filterMap_append

@[simp]
theorem dispatchRecords_runTool (tool : String) (args : Value) (principal : ToolPrincipal)
    (ctx : DispatchContext) (rest : List Effect) :
    dispatchRecords (.runTool tool args principal ctx :: rest) = dispatchRecords rest := rfl

@[simp]
theorem dispatchRecords_callUpstream (call : UpstreamCall) (principal : Principal)
    (ctx : DispatchContext) (rest : List Effect) :
    dispatchRecords (.callUpstream call principal ctx :: rest) = dispatchRecords rest := rfl

end Triton.Core
