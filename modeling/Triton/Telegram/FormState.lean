/-
# Forms as numbered prompts

A chat without native forms walks a form field by field: each message fills the
next field, and the last one submits. The store keeps the forms under way by
chat and user, and for every tenant a queue of the keys of its forms, oldest
first, so that a tenant at its cap loses its oldest form to a new one.
-/

import Mathlib.Algebra.Group.Int.Defs
import Triton.A2ui.Surface
import Triton.Lib.Table

namespace Triton.Telegram

open Triton.Lib Triton.A2ui

/-- Default per-tenant cap on the number of forms under way. -/
def defaultPerTenantCap : Nat := 100

def maxFieldsPerForm : Nat := 16

/-- The chat, and the user as the platform asserts it. -/
structure FormKey where
  chatId : Int
  telegramUserId : Int
  deriving DecidableEq, Repr

/-- One form under way. `step` is the field the next message fills; `sub` and
`tenant` are those of whoever installed it. -/
structure ActiveForm where
  submitTool : String
  fields : List FormField
  args : Members
  step : Nat
  sub : String
  tenant : String

namespace ActiveForm

def new (submitTool : String) (fields : List FormField) (sub tenant : String) : ActiveForm where
  submitTool := submitTool
  fields := fields
  args := fields.foldl (fun args f => Members.insert f.name .null args) []
  step := 0
  sub := sub
  tenant := tenant

def isComplete (form : ActiveForm) : Bool := form.fields.length ≤ form.step

def currentField (form : ActiveForm) : Option FormField := form.fields[form.step]?

def nextPrompt (form : ActiveForm) : Option String :=
  form.currentField.map fun f =>
    let suffix :=
      if f.required then " (required)" else " (optional, send a blank message to skip)"
    s!"{form.step + 1}/{form.fields.length} — {f.label}{suffix}"

end ActiveForm

/-! ## Reading a reply -/

def parseBool (raw : String) : Option Bool :=
  let raw := Text.toAsciiLowercase raw
  if raw ∈ ["yes", "y", "true", "1"] then some true
  else if raw ∈ ["no", "n", "false", "0"] then some false
  else none

/-- The front of a text that fits into `n` bytes. -/
def clip (raw : String) (n : Nat) : String := String.ofList (Text.takeBytes n raw.toList)

/-- The value a reply gives its field, or why the field is asked again. -/
def coerce (field : FormField) (raw : String) : Except String Value :=
  if raw.isEmpty then
    if field.required then
      .error ("the `" ++ field.label ++ "` field is required — please send a non-empty value")
    else .ok .null
  else
    match field.kind with
    | .string | .text => .ok (.string raw)
    | .select =>
      match field.options.find? fun o =>
        Text.eqIgnoreAsciiCase o.value raw || Text.eqIgnoreAsciiCase o.label raw with
      | some o => .ok (.string o.value)
      | none =>
        .error ("expected one of " ++ String.intercalate ", " (field.options.map (·.label)) ++
          " for `" ++ field.label ++ "`, got `" ++ clip raw 32 ++ "`.")
    | .integer =>
      match Text.parseSigned (-2 ^ 63) (2 ^ 63 - 1) raw with
      | some n => .ok (Value.ofInt n)
      | none =>
        .error ("expected an integer for `" ++ field.label ++ "`, got `" ++ clip raw 32 ++
          "`. Please send a number.")
    | .boolean =>
      match parseBool raw with
      | some b => .ok (.bool b)
      | none =>
        .error ("expected yes/no for `" ++ field.label ++ "`, got `" ++ clip raw 32 ++
          "`. Reply with yes/no, true/false, or 1/0.")

/-! ## The store -/

inductive InstallError
  | noFields
  | tooManyFields (count : Nat)
  | emptyFieldName
  | duplicateFieldName (name : String)
  deriving DecidableEq, Repr

inductive InstallOutcome
  | installed
  | installedEvicted (evicted : FormKey) (evictedSub evictedTenant : String)
  deriving DecidableEq, Repr

inductive AdvanceOutcome
  | needMore
  | complete (submitTool : String) (args : Value)
  | reprompt (reason : String)

/-- The forms by key, and the queue of keys of every tenant that ever had one. -/
structure FormStateStore where
  forms : Table FormKey ActiveForm
  perTenantOrder : Table String (List FormKey)
  capPerTenant : Nat
  cap_pos : 1 ≤ capPerTenant

namespace FormStateStore

def withCap (capPerTenant : Nat) : FormStateStore where
  forms := ∅
  perTenantOrder := ∅
  capPerTenant := max capPerTenant 1
  cap_pos := Nat.le_max_right _ _

def new : FormStateStore := withCap defaultPerTenantCap

def hasActive (s : FormStateStore) (key : FormKey) : Bool := (s.forms.lookup key).isSome

def peekPrompt (s : FormStateStore) (key : FormKey) : Option String :=
  (s.forms.lookup key).bind (·.nextPrompt)

/-- The first field whose name is empty or taken decides. -/
def checkNames (seen : List String) : List FormField → Option InstallError
  | [] => none
  | f :: rest =>
    if f.name.isEmpty then some .emptyFieldName
    else if f.name ∈ seen then some (.duplicateFieldName f.name)
    else checkNames (f.name :: seen) rest

def checkFields (fields : List FormField) : Option InstallError :=
  if fields.isEmpty then some .noFields
  else if maxFieldsPerForm < fields.length then some (.tooManyFields fields.length)
  else checkNames [] fields

/-- Make room for a form of `tenant`. The front of a full queue goes; its form,
if there is one, goes with it and is reported. -/
def maybeEvict (s : FormStateStore) (tenant : String) :
    FormStateStore × Option (FormKey × String × String) :=
  match s.perTenantOrder.lookup tenant with
  | none => (s, none)
  | some queue =>
    if queue.length < s.capPerTenant then (s, none)
    else
      match queue with
      | [] => (s, none)
      | evictedKey :: rest =>
        let s := { s with perTenantOrder := s.perTenantOrder.insert tenant rest }
        match s.forms.lookup evictedKey with
        | none => (s, none)
        | some removed =>
          ({ s with forms := s.forms.erase evictedKey },
            some (evictedKey, removed.sub, removed.tenant))

/-- The outcome of an installation that dropped `evicted`. -/
def installOutcome : Option (FormKey × String × String) → InstallOutcome
  | some (key, evictedSub, evictedTenant) => .installedEvicted key evictedSub evictedTenant
  | none => .installed

/-- Install a form. One for a key that has a form already takes its place, and
the queues stay as they are. -/
def install (s : FormStateStore) (key : FormKey) (submitTool : String) (fields : List FormField)
    (sub tenant : String) : FormStateStore × Except InstallError InstallOutcome :=
  match checkFields fields with
  | some error => (s, .error error)
  | none =>
    let form := ActiveForm.new submitTool fields sub tenant
    let replacing := s.hasActive key
    let (s, evicted) := if replacing then (s, none) else s.maybeEvict tenant
    let s := { s with forms := s.forms.insert key form }
    let s :=
      if replacing then s
      else
        let queue := (s.perTenantOrder.lookup tenant).getD []
        { s with perTenantOrder := s.perTenantOrder.insert tenant (queue ++ [key]) }
    (s, .ok (installOutcome evicted))

/-- Remove a form, and its key from the queue of the form's tenant. -/
def dropForm (s : FormStateStore) (key : FormKey) : FormStateStore :=
  match s.forms.lookup key with
  | none => s
  | some form =>
    let s := { s with forms := s.forms.erase key }
    match s.perTenantOrder.lookup form.tenant with
    | none => s
    | some queue =>
      { s with perTenantOrder := s.perTenantOrder.insert form.tenant (queue.erase key) }

/-- Feed a message into the form of this key; `none` when there is no form. -/
def advance (s : FormStateStore) (key : FormKey) (message : String) :
    FormStateStore × Option AdvanceOutcome :=
  match s.forms.lookup key with
  | none => (s, none)
  | some form =>
    match form.currentField with
    | none => (s.dropForm key, none)
    | some field =>
      match coerce field (Text.trim message) with
      | .error reason => (s, some (.reprompt reason))
      | .ok value =>
        let form :=
          { form with args := form.args.insert field.name value, step := form.step + 1 }
        let s := { s with forms := s.forms.insert key form }
        if form.isComplete then
          (s.dropForm key, some (.complete form.submitTool (.object form.args)))
        else (s, some .needMore)

/-- Was there a form to cancel? -/
def cancel (s : FormStateStore) (key : FormKey) : FormStateStore × Bool :=
  if s.hasActive key then (s.dropForm key, true) else (s, false)

/-- What the adapter asks of the store. -/
inductive Op
  | install (key : FormKey) (submitTool : String) (fields : List FormField) (sub tenant : String)
  | advance (key : FormKey) (message : String)
  | cancel (key : FormKey)

def step (s : FormStateStore) : Op → FormStateStore
  | .install key submitTool fields sub tenant => (s.install key submitTool fields sub tenant).1
  | .advance key message => (s.advance key message).1
  | .cancel key => (s.cancel key).1

end FormStateStore

end Triton.Telegram
