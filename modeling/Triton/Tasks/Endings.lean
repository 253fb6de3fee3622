/-
# How a task is told to have ended

A reader hears of the end of a task from the live channel or, when that closed
before, from the stored record. Both give an event of the dispatcher's streams.
A failure keeps its class only where the dispatcher has an error of that class;
the others are told as tool faults.
-/

import Triton.Tasks.Runner

namespace Triton.Tasks

open Triton.Lib Triton.Core

/-- An error of the given class. An expired task has a text of its own. -/
def errorOf (errorClass message : String) : TritonError :=
  if errorClass = "auth" then .auth message
  else if errorClass = "forbidden" then .forbidden message
  else if errorClass = "validation" then .validation message
  else if errorClass = "provider" then .provider message
  else if errorClass = "ratelimit" then .rateLimited message
  else if errorClass = classExpired then .tool expiredText
  else .tool message

/-- The class under which a failure of the given class is told. -/
def toldClass (errorClass : String) : String :=
  if errorClass ∈ ["auth", "forbidden", "validation", "provider", "ratelimit"] then errorClass
  else "tool"

theorem errorClass_errorOf (errorClass message : String) :
    (errorOf errorClass message).errorClass = toldClass errorClass := by
  unfold errorOf toldClass
  repeat' split
  all_goals simp_all [TritonError.errorClass]

/-- The failure a stored record describes. -/
def storedError (rec : TaskRecord) : TritonError :=
  errorOf (rec.errorClass.getD "tool") (rec.error.getD "")

/-- The sentence a person sees for an expired task. -/
def expiredNotice : String :=
  "The request expired: it took longer than allowed and was stopped. Please send it again."

/-- What a person sees for an error: an expired task has a sentence of its own. -/
def errorNotice (e : TritonError) : String :=
  if e = .tool expiredText then expiredNotice else e.userNotice

/-- What a person sees for a failed task: the message where it was written for
them, else the notice of its class. -/
def userText (errorClass message : String) : String :=
  if errorClass = classInterrupted ∨ errorClass = classAgent then message
  else errorNotice (errorOf errorClass message)

/-- A result made of the stored text, for a task whose result was not kept. -/
def standIn (text : String) : Value := .object [("surface", .object [("text", .string text)])]

/-- The end a stored record tells; `none` while the task runs. -/
def storedEnding (rec : TaskRecord) : Option StreamEvent :=
  match rec.state with
  | .completed => some (.done (rec.result.getD (standIn (rec.resultText.getD ""))))
  | .failed => some (.error (storedError rec) none)
  | .submitted | .working => none

private def textOrNull (text : Option String) : Value := text.elim .null .string

/-- A live event in the words of the dispatcher's streams. -/
def TaskEvent.streamEvent : TaskEvent → StreamEvent
  | .token text => .token text
  | .async upstreamTaskId checkAfterSeconds receipt note =>
    .task (.object [
      ("check_after_seconds", checkAfterSeconds.elim .null fun n => .number (.posInt n)),
      ("note", textOrNull note), ("receipt", textOrNull receipt),
      ("task_id", .string upstreamTaskId)])
  | .progress p =>
    .progress (.object [
      ("percent", p.percent.elim .null fun n => .number (.posInt n.toNat)),
      ("step", textOrNull p.step), ("text", .string p.text)])
  | .done value => .done value
  | .failed errorClass message => .error (errorOf errorClass message) none

@[simp]
theorem TaskEvent.isTerminal_streamEvent (event : TaskEvent) :
    event.streamEvent.isTerminal = event.isTerminal := by
  cases event <;> rfl

end Triton.Tasks
