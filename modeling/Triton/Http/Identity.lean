/-
# Which verifier a bearer token meets

Several pairs of issuer and audience may be configured, as alternatives: a token
that satisfies any of them is to be accepted. The provider reads the issuer of
the token unchecked, and hands the token to the first pair that takes this
issuer. A pair behind it that takes the same issuer is never asked.
-/

import Triton.Http.Access
import Triton.Identity.Oidc

namespace Triton.Http

open Triton.Lib
open Triton.Core
open Triton.Identity

/-- The two headers an identity is read from. -/
structure Parts where
  authorization : Option Bytes
  forwardedEmail : Option Bytes

/-- A header value as text, if all its bytes are visible ASCII or tabs. -/
def headerText (value : Bytes) : Option String :=
  if value.all fun b => (32 ≤ b && b < 127) || b == 9 then
    some (String.ofList (value.map fun b => Char.ofNat b.toNat))
  else none

def bearerFrom (parts : Parts) : Except TritonError String :=
  match parts.authorization with
  | none => .error (.auth "missing Authorization header")
  | some value =>
    match headerText value with
    | none => .error (.auth "non-ASCII Authorization header")
    | some header =>
      match Text.stripHead header "Bearer " with
      | none => .error (.auth "expected `Bearer <token>`")
      | some token => .ok (Text.trim token)

def forwardedEmail (parts : Parts) : Except TritonError (Option String) :=
  match parts.forwardedEmail with
  | none => .ok none
  | some value =>
    match headerText value with
    | none => .error (.auth "non-ASCII X-Forwarded-Email header")
    | some email => .ok ((some (Text.trim email)).filter (!·.isEmpty))

def forwardedEmailPrincipal (traceId email : String) : Principal where
  sub := email
  scopes := ["sso-ops"]
  groups := []
  tenant := "ops"
  rawToken := ""
  traceId
  senderRef := none
  conversationRef := none
  idp := none

/-- The dev token, in a build that has it. An empty one switches the path off. -/
def verifyDevOrReject (devBuild : Bool) (traceId token expected : String) :
    Except TritonError Principal :=
  if !devBuild then
    .error (.auth "no OIDC verifier configured and dev-token disabled at build time (ADR-10)")
  else if expected.isEmpty || token != expected then .error (.auth "unknown token")
  else .ok {
    sub := "dev-user"
    scopes := ["dev", auditReadAllScope]
    groups := []
    tenant := "dev"
    rawToken := token
    traceId
    senderRef := none
    conversationRef := none
    idp := none }

/-- The configured pairs in their order, and the fallback for bearers that are
no JWT. -/
structure IdentityProvider (Key : Type) where
  oidc : List (OidcVerifier Key)
  trustForwardedAuth : Bool
  devToken : String
  googleAccess : Option (String → Except TritonError Principal)

namespace IdentityProvider

variable {Key : Type}

/-- The only pair verifies every token; of several, the first that takes the
issuer the token claims. -/
def routeByIssuer (oidc : List (OidcVerifier Key)) (jwt : Jwt Key) (traceId token : String) :
    Except TritonError Principal :=
  match oidc with
  | [only] => only.verify jwt traceId token
  | _ =>
    match unverifiedIssuer jwt token with
    | none => .error (.auth "bearer is not a JWT with a readable `iss` claim")
    | some claimed =>
      match oidc.find? fun v => v.acceptsIssuer claimed with
      | none => .error (.auth s!"no configured issuer accepts tokens from {claimed}")
      | some verifier => verifier.verify jwt traceId token

def verifyBearerViaOidc (provider : IdentityProvider Key) (jwt : Jwt Key) (traceId : String)
    (parts : Parts) : Except TritonError Principal := do
  let token ← bearerFrom parts
  match unverifiedIssuer jwt token, provider.googleAccess with
  | none, some google => google token
  | _, _ => routeByIssuer provider.oidc jwt traceId token

/-- With any verifier configured only the bearer counts; then a trusted proxy's
header; then the dev token. -/
def verify (provider : IdentityProvider Key) (jwt : Jwt Key) (devBuild : Bool)
    (traceId : String) (parts : Parts) : Except TritonError Principal := do
  if !provider.oidc.isEmpty || provider.googleAccess.isSome then
    provider.verifyBearerViaOidc jwt traceId parts
  else
    let email ← if provider.trustForwardedAuth then forwardedEmail parts else .ok none
    match email with
    | some email => return forwardedEmailPrincipal traceId email
    | none => verifyDevOrReject devBuild traceId (← bearerFrom parts) provider.devToken

/-! ## Pairs that are never asked -/

/-- The pair a token is handed to: the only one, or the first that takes its issuer. -/
def asked (oidc : List (OidcVerifier Key)) (jwt : Jwt Key) (token : String) :
    Option (OidcVerifier Key) :=
  if oidc.length = 1 then oidc.head?
  else (unverifiedIssuer jwt token).bind fun claimed => oidc.find? (·.acceptsIssuer claimed)

/-- The token passes this verifier. -/
def Passes (jwt : Jwt Key) (traceId token : String) (v : OidcVerifier Key) : Prop :=
  ∃ p, v.verify jwt traceId token = .ok p

variable {oidc : List (OidcVerifier Key)} {jwt : Jwt Key} {traceId token : String}

variable {provider : IdentityProvider Key} {parts : Parts}
  {keys : OidcConfig → String → Except TritonError Key} {library : Jwt Key}

/-- A library that finds the signature of the token good. -/
def signing (jwt : Jwt Key) (payload : Value) : Jwt Key :=
  { jwt with
    decodeHeader := fun _ => .ok ⟨.RS256, some ""⟩
    decode := fun _ _ validation =>
      if namesOne (payload.get "iss") validation.iss = true ∧
          namesOne (payload.get "aud") validation.aud = true then .ok payload
      else .error "" }

def pair (audience : String) : OidcVerifier Unit where
  config := .new "https://i" audience
  lookupKey _ := .ok ()

end IdentityProvider

end Triton.Http
