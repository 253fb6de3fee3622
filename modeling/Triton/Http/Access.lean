/-
# Who may read a task

The A2A surface answers a task id only to the task's owner, to an operator the
deployment named, or, for records without an owner, by the rule of the trace
endpoint. The owner check compares key texts, so task isolation rests on the key
determining the caller (`Triton.Tasks.Owner`).
-/

import Triton.Core.Dispatcher
import Triton.Tasks.Owner
import Triton.Tasks.Store

namespace Triton.Http

open Triton.Lib
open Triton.Core
open Triton.Tasks

inductive A2aError where
  | parse
  | methodNotFound (method : String)
  | invalidParams (message : String)
  | taskNotFound
  | taskNotCancelable
  | pushNotSupported
  | unsupported (message : String)
  | extendedCardNotConfigured
  | versionNotSupported (version : String)
  | unauthenticated (message : String)
  | permissionDenied (message : String)
  | internal (message : String)
  deriving DecidableEq, Repr

/-- How a reader may use a task. -/
inductive Access where
  | owner
  | operator
  | legacy
  deriving DecidableEq, Repr

/-- What the A2A handlers share; the audit buffer is the process-wide one. -/
structure A2aState where
  dispatcher : Dispatcher
  tasks : TaskStore
  auditOperators : List (String × String)
  audit : AuditBuffer

def idMax : Nat := 200

def auditLimitMax : Nat := 500

def auditReadAllScope : String := "audit:read-all"

/-- Is this an operator the deployment named? The scope alone suffices only in a
local environment. -/
def isNamedOperator (principal : Principal) (operators : List (String × String))
    (env : String) : Bool :=
  principal.scopes.contains auditReadAllScope &&
    (env == "local" || operators.contains (principal.tenant, principal.sub))

/-- May this caller read anything of this trace? -/
def mayReadTrace (audit : AuditBuffer) (principal : Principal)
    (operators : List (String × String)) (env traceId : String) : Bool :=
  let operator := isNamedOperator principal operators env
  let scopable := !isReservedTenant principal.tenant
  !(audit.recentWhere auditLimitMax (some traceId) fun e =>
    operator || (e.subject == principal.sub && e.tenant == principal.tenant) ||
      (scopable && e.tenant == principal.tenant)).isEmpty

/-- How the principal may use this record, if at all. -/
def A2aState.accessTo (a2a : A2aState) (principal : Principal) (id : String)
    (rec : TaskRecord) : Option Access :=
  match rec.owner with
  | some owner =>
    if owner = ownerKey principal then some .owner
    else if isNamedOperator principal a2a.auditOperators a2a.dispatcher.env then
      some .operator
    else none
  | none =>
    if mayReadTrace a2a.audit principal a2a.auditOperators a2a.dispatcher.env id then
      some .legacy
    else none

/-- The stored task, if the principal may read it. Everything else is "not
found". -/
def readable (a2a : A2aState) (principal : Principal) (now : Int) (id : String) :
    Logged Effect (Except A2aError (TaskRecord × Access)) :=
  if id.isEmpty || Text.len id > idMax then pure (.error .taskNotFound)
  else
    match a2a.tasks.get now id with
    | none => pure (.error .taskNotFound)
    | some rec =>
      match a2a.accessTo principal id rec with
      | none => pure (.error .taskNotFound)
      | some access => do
          match ← a2a.dispatcher.denyIfRevoked principal "tasks/get" "a2a" with
          | .error e => return .error (.internal e.display)
          | .ok () => return .ok (rec, access)

/-! ## Task isolation -/

/-- No task the creator owns is readable as its owner by the reader, in any
state of the gateway. -/
def NotOwnedBy (creator reader : Principal) : Prop :=
  ∀ (a2a : A2aState) (now : Int) (id : String) (rec : TaskRecord),
    a2a.tasks.get now id = some rec → rec.owner = some (ownerKey creator) →
      ∀ found, (readable a2a reader now id).value ≠ .ok (found, .owner)

/-- Reading as the owner means that the stored key is the reader's. -/
theorem owner_eq_of_readable {a2a : A2aState} {reader : Principal} {now : Int} {id : String}
    {rec found : TaskRecord} (stored : a2a.tasks.get now id = some rec)
    (read : (readable a2a reader now id).value = .ok (found, .owner)) :
    rec.owner = some (ownerKey reader) := by
  unfold readable at read
  split at read
  · simp at read
  rw [stored] at read
  cases granted : a2a.accessTo reader id rec with
  | none => simp [granted] at read
  | some access =>
    obtain rfl : access = .owner := by
      simp only [granted] at read
      cases revoked : (a2a.dispatcher.denyIfRevoked reader "tasks/get" "a2a").value with
      | error e => simp [revoked] at read
      | ok =>
        simp only [Logged.value_bind, revoked, Logged.value_pure, Except.ok.injEq,
          Prod.mk.injEq] at read
        exact read.2
    unfold A2aState.accessTo at granted
    cases owned : rec.owner with
    | none =>
      simp only [owned] at granted
      split at granted <;> simp at granted
    | some owner =>
      simp only [owned] at granted
      by_cases same : owner = ownerKey reader
      · rw [same]
      · rw [if_neg same] at granted
        split at granted <;> simp at granted

/-- A gateway that holds one task, has no operators and has revoked nobody. -/
def soloState (rec : TaskRecord) : A2aState where
  dispatcher := ⟨∅, "prod", none, [], ∅, ∅, plainSet⟩
  tasks := (TaskStore.memory.put rec.updatedMs none rec).1
  auditOperators := []
  audit := []

theorem get_soloState (rec : TaskRecord) :
    (soloState rec).tasks.get rec.updatedMs rec.id = some rec := by
  simp only [soloState, TaskStore.get, TaskStore.put, TaskStore.memory, TaskStore.getRaw,
    Memory.getRaw_put, Option.filter_eq_some_iff, TaskStore.live, decide_eq_true_eq, true_and]
  omega

/-- On that gateway the holder of the stored key reads the task as its owner. -/
theorem readable_soloState {rec : TaskRecord} {reader : Principal}
    (owned : rec.owner = some (ownerKey reader)) (named : rec.id = "task") :
    (readable (soloState rec) reader rec.updatedMs "task").value = .ok (rec, .owner) := by
  have stored := get_soloState rec
  rw [named] at stored
  have short : ("task".isEmpty || decide (Text.len "task" > idMax)) = false := by decide
  have granted : (soloState rec).accessTo reader "task" rec = some .owner := by
    simp [A2aState.accessTo, owned]
  simp only [readable, short, stored, granted]
  rfl

theorem notOwnedBy_iff (creator reader : Principal) :
    NotOwnedBy creator reader ↔ ownerKey reader ≠ ownerKey creator := by
  constructor
  · intro separate same
    let rec_ := TaskRecord.new 0 "task" "context" "tool" (ownerKey reader)
    have owned : rec_.owner = some (ownerKey creator) := congrArg some same
    exact separate (soloState rec_) rec_.updatedMs "task" rec_ (get_soloState rec_) owned rec_
      (readable_soloState rfl rfl)
  · intro differ a2a now id rec stored created found read
    have owned := owner_eq_of_readable stored read
    rw [created, Option.some.injEq] at owned
    exact differ owned.symm

/-- Every other accepted caller is kept out of this caller's tasks, and this
caller out of theirs. -/
def Isolated (p : Principal) : Prop :=
  ∀ q : Principal, q.Accepted → identity q ≠ identity p → NotOwnedBy p q ∧ NotOwnedBy q p

/-- The tasks of an accepted caller are isolated exactly when the caller is
unmistakable. -/
theorem isolated_iff_unmistakable {p : Principal} (accepted : p.Accepted) :
    Isolated p ↔ Unmistakable p := by
  rw [← ownerKey_injective_at_iff accepted]
  constructor
  · intro isolated q acceptable same
    by_contra other
    exact (notOwnedBy_iff p q).mp (isolated q acceptable other).1 same
  · intro injective q acceptable other
    have differ : ownerKey q ≠ ownerKey p := fun same => other (injective q acceptable same)
    exact ⟨(notOwnedBy_iff p q).mpr differ, (notOwnedBy_iff q p).mpr differ.symm⟩

/-- A caller with a bar in its subject. -/
def barred : Principal where
  sub := "a|b"
  scopes := []
  groups := []
  tenant := "c"
  rawToken := ""
  traceId := "trace"
  senderRef := none
  conversationRef := none
  idp := some { name := "oidc", issuer := some "https://idp.example" }

/-- Another caller of the same issuer, with the bar in its tenant. -/
def barredTwin : Principal := { barred with sub := "a", tenant := "b|c" }

/-- The two pass the resolver boundary, differ, and read each other's tasks as
owners. -/
theorem barred_not_isolated :
    barred.Accepted ∧ barredTwin.Accepted ∧ identity barredTwin ≠ identity barred ∧
      ¬ NotOwnedBy barred barredTwin := by
  refine ⟨by decide, by decide, by decide, ?_⟩
  rw [notOwnedBy_iff]
  decide

/-- A caller without a bar anywhere. -/
def unbarred : Principal := { barred with sub := "alice", tenant := "acme" }

theorem unbarred_isolated_iff :
    unbarred.Accepted ∧ (Isolated unbarred ↔ Unmistakable unbarred) :=
  ⟨by decide, isolated_iff_unmistakable (by decide)⟩

/-- A caller whom a named provider vouches for is kept apart from all others if no part
has a bar in it. -/
theorem isolated_of_no_bar {p : Principal} {issuer : String} (accepted : p.Accepted)
    (vouched : issuerOf p = some issuer) (named : issuer ≠ "-") (hissuer : '|' ∉ issuer.toList)
    (hsub : '|' ∉ p.sub.toList) (htenant : '|' ∉ p.tenant.toList) : Isolated p := by
  have unambiguous := Regroup.unambiguous_of_notMem '|' Acceptable hissuer hsub htenant
  have unmistakable : Unmistakable p := ⟨⟨issuer, vouched, named⟩, by simpa [vouched]⟩
  intro q acceptable other
  have differ : ownerKey q ≠ ownerKey p := fun same =>
    other ((ownerKey_injective_at_iff accepted).mpr unmistakable q acceptable same)
  exact ⟨(notOwnedBy_iff p q).mpr differ, (notOwnedBy_iff q p).mpr differ.symm⟩

theorem unbarred_isolated : unbarred.Accepted ∧ Isolated unbarred :=
  ⟨by decide, isolated_of_no_bar (by decide) rfl (by decide) (by decide) (by decide) (by decide)⟩

end Triton.Http
