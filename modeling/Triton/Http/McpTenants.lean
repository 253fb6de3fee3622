/-
# One MCP endpoint per customer

A customer's endpoint is bound to that customer's Entra directory and data
tenant. The verifier takes the directory of a token out of its issuer, and the
endpoint compares it with its own. Together they keep one customer's directory
from reaching another customer's data.
-/

import Triton.Identity.Oidc

namespace Triton.Http

open Triton.Lib
open Triton.Core
open Triton.Identity

def wellKnown : String := "/.well-known/oauth-protected-resource"

structure McpRoute where
  slug : String
  dataTenant : String
  tid : String
  authorizationServer : String
  resource : String
  scopes : List String
  requiredScopes : List String
  challengeBare : String
  challengeInvalid : String
  challengeScope : String

/-- A scope that may stand inside a quoted challenge parameter. -/
def isScopeToken (s : String) : Bool :=
  !s.isEmpty && (Utf8.encode s).all fun b =>
    b == 0x21 || (0x23 ≤ b && b ≤ 0x5b) || (0x5d ≤ b && b ≤ 0x7e)

/-- A header value has no control bytes but the tab. -/
def headerValue (v : String) : Except String String :=
  if (Utf8.encode v).all fun b => (32 ≤ b && b != 127) || b == 9 then .ok v
  else .error s!"challenge `{v}` is not a header: failed to parse header value"

namespace McpRoute

def new (slug dataTenant tid authority origin : String) (scopes : List String) :
    Except String McpRoute :=
  if scopes.isEmpty then .error "no scope to advertise and require"
  else
    match scopes.find? fun s => !isScopeToken s with
    | some bad => .error s!"`{bad}` is not an RFC 6749 scope token"
    | none => do
        let tid := Text.toAsciiLowercase tid
        let origin := Text.trimEndMatches '/' origin
        let metadataUrl := origin ++ wellKnown ++ "/mcp/" ++ slug
        let base := "Bearer realm=\"triton\", resource_metadata=\"" ++ metadataUrl ++
          "\", scope=\"" ++ " ".intercalate scopes ++ "\""
        let challengeInvalid ← headerValue (base ++ ", error=\"invalid_token\"")
        let challengeScope ← headerValue (base ++ ", error=\"insufficient_scope\"")
        let challengeBare ← headerValue base
        return {
          slug
          dataTenant
          tid
          authorizationServer := Text.trimEndMatches '/' authority ++ "/" ++ tid ++ "/v2.0"
          resource := origin ++ "/mcp/" ++ slug
          scopes
          requiredScopes := scopes.map fun s => (Text.split '/' s).getLast?.getD s
          challengeBare
          challengeInvalid
          challengeScope }

/-- Was the principal verified as one of this route's directory? -/
def fromHere (route : McpRoute) (p : Principal) : Bool :=
  p.idp.any fun idp =>
    idp.name == "entra" && idp.tenant == some route.tid &&
      idp.issuer == some route.authorizationServer

def admitPrincipal (route : McpRoute) (p : Principal) : Except TritonError Unit :=
  if !route.fromHere p || p.tenant != route.dataTenant then
    .error (.auth "the token is not from this endpoint's Entra directory")
  else if !p.scopes.any route.requiredScopes.contains then
    .error (.forbidden
      ("insufficient_scope: the token carries none of " ++ " ".intercalate route.scopes))
  else .ok ()

theorem bound_of_admitPrincipal {route : McpRoute} {p : Principal}
    (admitted : route.admitPrincipal p = .ok ()) :
    (∃ idp, p.idp = some idp ∧ idp.tenant = some route.tid) ∧ p.tenant = route.dataTenant := by
  unfold admitPrincipal at admitted
  split at admitted
  case isTrue => cases admitted
  case isFalse bound =>
    simp only [Bool.or_eq_true, Bool.not_eq_true', bne_iff_ne, ne_eq, not_or, not_not,
      Bool.not_eq_false] at bound
    obtain ⟨here, tenant⟩ := bound
    rw [fromHere, Option.any_eq_true] at here
    obtain ⟨idp, known, matching⟩ := here
    simp only [Bool.and_eq_true, beq_iff_eq] at matching
    exact ⟨⟨idp, known, matching.1.2⟩, tenant⟩

end McpRoute

section Isolation

variable {Key : Type} {jwt : Jwt Key} {verifier : OidcVerifier Key} {mt : EntraMultiTenant}
  {traceId rawToken : String} {p : Principal}

/-- The one directory an accepted token belongs to: it is in the issuer that was
pinned for the signature check, in the signed `tid` claim, and the key of the
map entry the principal has its tenant from. -/
structure OfDirectory (jwt : Jwt Key) (verifier : OidcVerifier Key) (mt : EntraMultiTenant)
    (rawToken : String) (p : Principal) (tid : String) : Prop where
  issuer : ∃ directory, isEntraGuid directory = true ∧ Text.toAsciiLowercase directory = tid ∧
    unverifiedIssuer jwt rawToken =
      some (Text.trimEndMatches '/' mt.authority ++ ("/" ++ (directory ++ "/v2.0")))
  signed : ∃ key validation claims,
    OidcVerifier.decodeClaims jwt rawToken key validation = .ok claims ∧
      validation.iss = (unverifiedIssuer jwt rawToken).toList ∧
      validation.aud = [verifier.config.audience] ∧ claims.tid = some tid
  mapped : mt.tenantMap.lookup tid = some p.tenant
  idp : ∃ idp, p.idp = some idp ∧ idp.tenant = some tid

theorem ofDirectory_of_verify (multi : verifier.config.multiTenantEntra = some mt)
    (verified : verifier.verify jwt traceId rawToken = .ok p) :
    ∃ tid, OfDirectory jwt verifier mt rawToken p tid := by
  obtain ⟨ctx, claims, accepted⟩ := OidcVerifier.accepted_of_verify verified
  obtain ⟨found, rfl, issuer, named, mapped⟩ :=
    (OidcVerifier.context_eq_ok_iff multi).mp accepted.context
  obtain ⟨directory, guid, lower, whole⟩ := issuer_of_entraTidUnder named
  obtain ⟨alg, key, signed⟩ := accepted.signed
  have tenant := accepted.tenant
  simp only [OidcVerifier.tenantOf] at tenant
  split at tenant
  case isFalse => cases tenant
  case isTrue same =>
    rw [Except.ok.injEq] at tenant
    refine ⟨found.tid, ?_, ?_, tenant ▸ mapped, _, accepted.idp, rfl⟩
    · exact ⟨directory, guid, lower, whole ▸ issuer⟩
    · exact ⟨key, _, claims, signed, by rw [issuer]; rfl, rfl, same⟩

end Isolation

/-- A token that a multi-tenant verifier accepts belongs to one directory, and
every endpoint that admits its principal is that directory's and serves the
tenant it is mapped to. No two endpoints of different directories or data
tenants admit one principal. -/
theorem entra_tenants_isolated {Key : Type} (jwt : Jwt Key) (verifier : OidcVerifier Key)
    (mt : EntraMultiTenant) (multi : verifier.config.multiTenantEntra = some mt)
    (traceId rawToken : String) (p : Principal)
    (verified : verifier.verify jwt traceId rawToken = .ok p) :
    (∃ tid, OfDirectory jwt verifier mt rawToken p tid ∧
      ∀ route : McpRoute, route.admitPrincipal p = .ok () →
        route.tid = tid ∧ route.dataTenant = p.tenant) ∧
    ∀ one other : McpRoute, one.admitPrincipal p = .ok () → other.admitPrincipal p = .ok () →
      one.tid = other.tid ∧ one.dataTenant = other.dataTenant := by
  obtain ⟨tid, found⟩ := ofDirectory_of_verify multi verified
  have bound : ∀ route : McpRoute, route.admitPrincipal p = .ok () →
      route.tid = tid ∧ route.dataTenant = p.tenant := by
    intro route admitted
    obtain ⟨⟨idp, known, here⟩, tenant⟩ := McpRoute.bound_of_admitPrincipal admitted
    obtain ⟨asserted, same, directory⟩ := found.idp
    rw [known, Option.some.injEq] at same
    rw [← same, here, Option.some.injEq] at directory
    exact ⟨directory, tenant.symm⟩
  refine ⟨⟨tid, found, bound⟩, ?_⟩
  intro one other first second
  obtain ⟨firstTid, firstTenant⟩ := bound one first
  obtain ⟨secondTid, secondTenant⟩ := bound other second
  exact ⟨firstTid.trans secondTid.symm, firstTenant.trans secondTenant.symm⟩

/-! A token of one directory, and the library as it behaves on it. -/

def sampleDirectory : String := "0a1b2c3d-0000-4000-8000-00000000000f"

def sampleIssuer : String := "https://login.microsoftonline.com/" ++ sampleDirectory ++ "/v2.0"

def samplePayload : Value := .object [
  ("aud", .string "api"),
  ("exp", .number (.posInt 4102444800)),
  ("iss", .string sampleIssuer),
  ("scp", .string "access_as_user"),
  ("sub", .string "u"),
  ("tid", .string sampleDirectory)]

def samplePayloadText : String :=
  "\x7b\"aud\":\"api\",\"exp\":4102444800,\"iss\":\"" ++ sampleIssuer ++
    "\",\"scp\":\"access_as_user\",\"sub\":\"u\",\"tid\":\"" ++ sampleDirectory ++ "\"\x7d"

def sampleToken : String :=
  Base64.encode (Utf8.encode "\x7b\"alg\":\"RS256\",\"kid\":\"k\"\x7d") ++ ("." ++
    (Base64.encode (Utf8.encode samplePayloadText) ++ ("." ++ "c2ln")))

def sampleJwt : Jwt Unit where
  decodeHeader _ := .ok ⟨.RS256, some "k"⟩
  decode _ _ validation :=
    if validation.iss = [sampleIssuer] && validation.aud = ["api"] then .ok samplePayload
    else .error "InvalidIssuer"
  claimsError _ := ""
  fromSlice bytes := if bytes = Utf8.encode samplePayloadText then some samplePayload else none

def sampleTenants : EntraMultiTenant := ⟨[(sampleDirectory, "acme")], entraAuthority, []⟩

def sampleVerifier : OidcVerifier Unit where
  config := ⟨entraMultiTenantIssuer, "api", some sampleTenants, some "entra"⟩
  lookupKey _ := .ok ()

def samplePrincipal : Principal where
  sub := "u"
  scopes := ["access_as_user"]
  groups := []
  tenant := "acme"
  rawToken := sampleToken
  traceId := "trace"
  senderRef := none
  conversationRef := none
  idp := some {
    name := "entra"
    tenant := some sampleDirectory
    issuer := some sampleIssuer }

theorem context_sample : sampleVerifier.context sampleJwt sampleToken =
    .ok (some ⟨sampleIssuer, sampleDirectory, "acme"⟩) := by
  have read : sampleJwt.fromSlice (Utf8.encode samplePayloadText) = some samplePayload := by
    simp only [sampleJwt, if_true]
  have issuer : unverifiedIssuer sampleJwt sampleToken = some sampleIssuer := by
    rw [sampleToken, unverifiedIssuer, unverifiedPayload_parts, read]
    rfl
  have named : entraTidUnder sampleTenants.authority sampleIssuer = some sampleDirectory := by
    decide +kernel
  have mapped : sampleTenants.tenantMap.lookup sampleDirectory = some "acme" := by
    simp [sampleTenants]
  have multi : sampleVerifier.config.multiTenantEntra = some sampleTenants := rfl
  exact (OidcVerifier.context_eq_ok_iff multi).mpr
    ⟨⟨sampleIssuer, sampleDirectory, "acme"⟩, rfl, issuer, named, mapped⟩

def sampleClaims : TokenClaims where
  sub := "u"
  tenant := none
  tid := some sampleDirectory
  email := none
  upn := none
  preferredUsername := none
  hd := none
  scope := none
  scp := some ["access_as_user"]
  roles := none
  groups := none

theorem verify_sample :
    sampleVerifier.verify sampleJwt "trace" sampleToken = .ok samplePrincipal := by
  have claims : TokenClaims.read samplePayload = some sampleClaims := rfl
  have signed : OidcVerifier.decodeClaims sampleJwt sampleToken ()
      (sampleVerifier.validation .RS256 (some ⟨sampleIssuer, sampleDirectory, "acme"⟩)) =
        .ok sampleClaims := by
    simp [OidcVerifier.decodeClaims, sampleJwt, OidcVerifier.validation, sampleVerifier, claims]
  have tenant : OidcVerifier.tenantOf (some ⟨sampleIssuer, sampleDirectory, "acme"⟩)
      sampleClaims = .ok "acme" := by
    simp [OidcVerifier.tenantOf, sampleClaims]
  rw [OidcVerifier.verify, bind_eq_ok_iff]
  refine ⟨⟨.RS256, some "k"⟩, rfl, bind_eq_ok_iff.mpr ⟨_, context_sample, ?_⟩⟩
  refine bind_eq_ok_iff.mpr ⟨"k", rfl, bind_eq_ok_iff.mpr ⟨(), rfl, ?_⟩⟩
  refine bind_eq_ok_iff.mpr ⟨_, signed, bind_eq_ok_iff.mpr ⟨_, tenant, ?_⟩⟩
  rfl

def sampleRoute : McpRoute where
  slug := "acme"
  dataTenant := "acme"
  tid := sampleDirectory
  authorizationServer := sampleIssuer
  resource := "https://triton.example/mcp/acme"
  scopes := ["api://app/access_as_user"]
  requiredScopes := ["access_as_user"]
  challengeBare := ""
  challengeInvalid := ""
  challengeScope := ""

theorem sample_directory_isolated :
    sampleVerifier.verify sampleJwt "trace" sampleToken = .ok samplePrincipal ∧
      sampleRoute.admitPrincipal samplePrincipal = .ok () ∧
      ∀ other : McpRoute, other.admitPrincipal samplePrincipal = .ok () →
        other.tid = sampleDirectory ∧ other.dataTenant = "acme" := by
  have admitted : sampleRoute.admitPrincipal samplePrincipal = .ok () := by decide +kernel
  refine ⟨verify_sample, admitted, ?_⟩
  intro other second
  obtain ⟨_, unique⟩ := entra_tenants_isolated sampleJwt sampleVerifier sampleTenants rfl
    "trace" sampleToken samplePrincipal verify_sample
  exact unique other sampleRoute second admitted

end Triton.Http
