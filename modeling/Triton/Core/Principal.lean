/-
# The verified identity

A principal is what an adapter hands to the dispatcher once the caller's
identity has been checked. `validateResolved` is the gate for a subject and a
tenant that an out-of-process resolver chose.
-/

import Triton.Core.Error
import Triton.Lib.Json

namespace Triton.Core

open Triton.Lib

/-- What an external identity provider asserted about a caller. -/
structure IdpIdentity where
  name : String
  tenant : Option String := none
  email : Option String := none
  issuer : Option String := none
  deriving DecidableEq, Repr

structure Principal where
  sub : String
  scopes : List String
  groups : List String
  tenant : String
  rawToken : String
  traceId : String
  senderRef : Option String
  conversationRef : Option Value
  idp : Option IdpIdentity

/-- The redacted view an in-process tool sees: everything but the raw token,
the sender reference and the provider. -/
structure ToolPrincipal where
  sub : String
  scopes : List String
  groups : List String
  tenant : String
  traceId : String
  conversationRef : Option Value

def Principal.toToolPrincipal (p : Principal) : ToolPrincipal where
  sub := p.sub
  scopes := p.scopes
  groups := p.groups
  tenant := p.tenant
  traceId := p.traceId
  conversationRef := p.conversationRef

/-- Tenants that mark a caller as unattributed rather than name a tenant. -/
def reservedTenants : List String := ["-", "pairing", ""]

def isReservedTenant (tenant : String) : Bool := reservedTenants.contains (Text.trim tenant)

def maxResolvedFieldLen : Nat := 128

/-- The three checks one resolved field must pass, in the order they are
made. -/
def validateField (field value : String) : Except TritonError Unit :=
  if (Text.trim value).isEmpty then
    .error (.auth s!"identity resolver returned an empty {field}")
  else if Text.len value > maxResolvedFieldLen then
    .error (.auth (s!"identity resolver returned a {field} of {Text.len value} bytes, over the "
      ++ s!"{maxResolvedFieldLen}-byte cap"))
  else if value.toList.any fun c => Text.isWhitespace c || Text.isControl c then
    .error (.auth (s!"identity resolver returned a {field} containing whitespace or "
      ++ "control characters"))
  else .ok ()

def validateResolved (sub tenant : String) : Except TritonError Unit := do
  validateField "sub" sub
  validateField "tenant" tenant

/-- A subject and a tenant the resolver boundary lets through. -/
def Principal.Accepted (p : Principal) : Prop := validateResolved p.sub p.tenant = .ok ()

instance (p : Principal) : Decidable p.Accepted :=
  match h : validateResolved p.sub p.tenant with
  | .ok () => isTrue h
  | .error _ => isFalse fun ok => by rw [Principal.Accepted, h] at ok; cases ok

end Triton.Core
