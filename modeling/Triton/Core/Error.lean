/-
# Typed errors

The error classes every entry point speaks. The variant carries the meaning;
adapters translate it, and the audit line records its class and status.
-/

import Triton.Lib.Text

namespace Triton.Core

open Triton.Lib

inductive TritonError
  | auth (message : String)
  | forbidden (message : String)
  | validation (message : String)
  | tool (message : String)
  | provider (message : String)
  | rateLimited (message : String)
  deriving DecidableEq, Repr

namespace TritonError

/-- The inner message, without the class `display` puts before it. -/
def message : TritonError → String
  | .auth m | .forbidden m | .validation m | .tool m | .provider m | .rateLimited m => m

/-- The class label of audit lines. -/
def errorClass : TritonError → String
  | .auth _ => "auth"
  | .forbidden _ => "forbidden"
  | .validation _ => "validation"
  | .tool _ => "tool"
  | .provider _ => "provider"
  | .rateLimited _ => "ratelimit"

/-- The one sentence a person sees for a failure of this class. -/
def userNotice : TritonError → String
  | .tool _ | .provider _ =>
    "I encountered an issue processing that request with our data tools. " ++
      "Please check your query parameters or try again in a moment."
  | .rateLimited _ => "The service is temporarily busy. Please wait a moment and try again."
  | .auth _ | .forbidden _ => "Authentication or authorization check failed for this request."
  | .validation _ =>
    "An unexpected error occurred while processing your request. Please try again."

/-- Every variant prints as its class label, a colon and its message. -/
def display (e : TritonError) : String := e.errorClass ++ ": " ++ e.message

/-- The upstream router marks an open breaker by the head of the message. -/
def isCircuitOpen : TritonError → Bool
  | .tool m => Text.startsWith m "circuit_open"
  | _ => false

def isToolTimeout : TritonError → Bool
  | .tool m => Text.contains m "timed out"
  | _ => false

/-- The HTTP status shared by every surface and by the audit line. -/
def httpStatus (e : TritonError) : Nat :=
  if e.isCircuitOpen then 503
  else if e.isToolTimeout then 504
  else
    match e with
    | .auth _ => 401
    | .forbidden _ => 403
    | .validation _ => 400
    | .tool _ | .provider _ => 502
    | .rateLimited _ => 429

end TritonError

/-- Two fallible steps succeed one after the other exactly when both do. -/
theorem bind_eq_ok_iff {α β ε : Type} {first : Except ε α} {next : α → Except ε β} {b : β} :
    (first >>= next) = .ok b ↔ ∃ a, first = .ok a ∧ next a = .ok b := by
  cases first <;> simp [bind, Except.bind]

end Triton.Core
