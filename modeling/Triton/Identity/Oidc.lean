/-
# Bearer tokens of an OIDC issuer

A verifier stands for one configured pair of issuer and audience. In the
multi-tenant mode of Entra the issuer is a template: the verifier reads the
issuer of the token at hand before anything is checked, takes the directory id
out of it, and pins that issuer when the signature is checked. The directory id
chooses the data tenant, so it must be the same in the issuer, in the signed
`tid` claim and in the tenant map.

The JWT library and the JSON reader are parameters, and so is the key a
verifier finds for a key id.
-/

import Triton.Core.Principal
import Triton.Lib.Base64

namespace Triton.Identity

open Triton.Lib
open Triton.Lib.Record
open Triton.Core

/-- The signature algorithms the JWT library knows. -/
inductive Algorithm where
  | HS256 | HS384 | HS512
  | ES256 | ES384
  | RS256 | RS384 | RS512
  | PS256 | PS384 | PS512
  | EdDSA
  deriving DecidableEq, Repr

def Algorithm.name : Algorithm → String
  | .HS256 => "HS256"
  | .HS384 => "HS384"
  | .HS512 => "HS512"
  | .ES256 => "ES256"
  | .ES384 => "ES384"
  | .RS256 => "RS256"
  | .RS384 => "RS384"
  | .RS512 => "RS512"
  | .PS256 => "PS256"
  | .PS384 => "PS384"
  | .PS512 => "PS512"
  | .EdDSA => "EdDSA"

def allowedAlgs : List Algorithm := [.RS256, .RS384, .RS512, .ES256, .ES384, .EdDSA]

structure Header where
  alg : Algorithm
  kid : Option String

/-- What the library is told to check besides the signature and the expiry. -/
structure Validation where
  algorithms : List Algorithm
  iss : List String
  aud : List String
  requiredSpecClaims : List String
  deriving DecidableEq

/-- The JWT library and the JSON reader. `decode` checks a token and gives its
payload; `claimsError` is the text of a payload that is not the expected
record. -/
structure Jwt (Key : Type) where
  decodeHeader : String → Except String Header
  decode : String → Key → Validation → Except String Value
  claimsError : Value → String
  fromSlice : Bytes → Option Value

structure TokenClaims where
  sub : String
  tenant : Option String
  tid : Option String
  email : Option String
  upn : Option String
  preferredUsername : Option String
  hd : Option String
  scope : Option String
  scp : Option (List String)
  roles : Option (List String)
  groups : Option (List String)

/-- A claim that is one text of words or a list of texts. -/
def deStringOrSeq : Value → Option (List String)
  | .string s => some (Text.splitWhitespace s)
  | value => list Value.asStr value

def TokenClaims.read (payload : Value) : Option TokenClaims := do
  return {
    sub := ← mandatory Value.asStr (payload.get "sub")
    tenant := ← optional Value.asStr (payload.get "tenant")
    tid := ← optional Value.asStr (payload.get "tid")
    email := ← optional Value.asStr (payload.get "email")
    upn := ← optional Value.asStr (payload.get "upn")
    preferredUsername := ← optional Value.asStr (payload.get "preferred_username")
    hd := ← optional Value.asStr (payload.get "hd")
    scope := ← optional Value.asStr (payload.get "scope")
    scp := ← optional deStringOrSeq (payload.get "scp")
    roles := ← optional (list Value.asStr) (payload.get "roles")
    groups := ← optional (list Value.asStr) (payload.get "groups") }

namespace TokenClaims

def scopes (claims : TokenClaims) : List String :=
  match claims.scp, claims.scope with
  | some scp, _ => scp
  | none, some scope => Text.splitWhitespace scope
  | none, none => []

def memberships (claims : TokenClaims) : List String :=
  match claims.roles, claims.groups with
  | some roles, _ => roles
  | none, some groups => groups
  | none, none => []

end TokenClaims

/-! ## Issuers -/

def entraMultiTenantIssuer : String := "https://login.microsoftonline.com/\x7btenantid\x7d/v2.0"

def entraAuthority : String := "https://login.microsoftonline.com"

/-- The payload of a token, before anything is checked. -/
def unverifiedPayload (fromSlice : Bytes → Option Value) (token : String) : Option Value := do
  let payload ← (Text.split '.' token)[1]?
  let bytes ← Base64.decode payload
  fromSlice bytes

/-- Its `iss` member. -/
def unverifiedIssuer {Key : Type} (jwt : Jwt Key) (token : String) : Option String := do
  let json ← unverifiedPayload jwt.fromSlice token
  (← json.get "iss").asStr

/-- The payload of a token that is put together from its three parts. -/
theorem unverifiedPayload_parts (fromSlice : Bytes → Option Value) (header payload : Bytes)
    (signature : String) :
    unverifiedPayload fromSlice (Base64.encode header ++ ("." ++
        (Base64.encode payload ++ ("." ++ signature)))) = fromSlice payload := by
  have parts : (Text.split '.' (Base64.encode header ++ ("." ++
      (Base64.encode payload ++ ("." ++ signature)))))[1]? = some (Base64.encode payload) := by
    rw [Text.split_append (Base64.dot_notMem_encode header) rfl,
      Text.split_append (Base64.dot_notMem_encode payload) rfl]
    rfl
  simp only [unverifiedPayload, parts, Option.bind_eq_bind, Option.bind_some,
    Base64.decode_encode]

def isAsciiHexdigit (c : Char) : Bool :=
  c.isDigit || ('a' ≤ c && c ≤ 'f') || ('A' ≤ c && c ≤ 'F')

/-- Five groups of hexadecimal digits, in either case. -/
def isEntraGuid (s : String) : Bool :=
  let groups := [8, 4, 4, 4, 12]
  let parts := Text.split '-' s
  parts.length == groups.length &&
    (parts.zip groups).all fun (part, n) =>
      Text.len part == n && part.toList.all isAsciiHexdigit

/-- The directory id of a tenant issuer of this authority, in lower case. -/
def entraTidUnder (authority iss : String) : Option String := do
  let rest ← Text.stripHead iss (Text.trimEndMatches '/' authority)
  let path ← Text.stripHead rest "/"
  let mid ← Text.stripTail path "/v2.0"
  if isEntraGuid mid then some (Text.toAsciiLowercase mid) else none

def entraTidFromIssuer (iss : String) : Option String := entraTidUnder entraAuthority iss

/-- A trailing slash does not make another issuer. -/
def issuerMatches (configured fromToken : String) : Bool :=
  if configured = entraMultiTenantIssuer then
    (entraTidFromIssuer (Text.trimEndMatches '/' fromToken)).isSome
  else Text.trimEndMatches '/' configured == Text.trimEndMatches '/' fromToken

/-- An issuer that names a directory is the authority's, with the directory id
as its only further segment. -/
theorem issuer_of_entraTidUnder {authority iss tid : String}
    (named : entraTidUnder authority iss = some tid) :
    ∃ directory, isEntraGuid directory = true ∧ Text.toAsciiLowercase directory = tid ∧
      iss = Text.trimEndMatches '/' authority ++ ("/" ++ (directory ++ "/v2.0")) := by
  simp only [entraTidUnder, Option.bind_eq_bind, Option.bind_eq_some_iff] at named
  obtain ⟨rest, head, path, slash, mid, tail, named⟩ := named
  split at named
  case isFalse => cases named
  case isTrue guid =>
    cases named
    exact ⟨mid, guid, rfl, by
      rw [← Text.eq_append_of_stripTail tail, ← Text.eq_append_of_stripHead slash,
        ← Text.eq_append_of_stripHead head]⟩

/-! ## The verifier -/

/-- The acceptance policy of a multi-tenant Entra application. The tenant map
takes directory ids to data tenants. -/
structure EntraMultiTenant where
  tenantMap : List (String × String)
  authority : String
  requiredScopes : List String

structure OidcConfig where
  issuer : String
  audience : String
  multiTenantEntra : Option EntraMultiTenant
  idpName : Option String

namespace OidcConfig

def new (issuer audience : String) : OidcConfig := ⟨issuer, audience, none, none⟩

end OidcConfig

/-- A configured pair with the keys it finds: from its cache, from a fetch, or
none. -/
structure OidcVerifier (Key : Type) where
  config : OidcConfig
  lookupKey : String → Except TritonError Key

/-- What the token's own issuer says in multi-tenant mode. -/
structure TenantContext where
  iss : String
  tid : String
  tenant : String
  deriving DecidableEq

namespace OidcVerifier

variable {Key : Type}

/-- Should a token with this issuer be offered to this verifier? -/
def acceptsIssuer (v : OidcVerifier Key) (iss : String) : Bool :=
  match v.config.multiTenantEntra with
  | some mt => (entraTidUnder mt.authority (Text.trimEndMatches '/' iss)).isSome
  | none => issuerMatches v.config.issuer iss

def idpName (v : OidcVerifier Key) : String :=
  match v.config.idpName with
  | some name => name
  | none =>
    let iss := Text.trimEndMatches '/' v.config.issuer
    if Text.startsWith iss entraAuthority || Text.startsWith iss "https://sts.windows.net" then
      "entra"
    else if iss = "https://accounts.google.com" || iss = "accounts.google.com" then "google"
    else "oidc"

/-- The issuer of the token, its directory id and the tenant mapped to it, before
any key is looked up. -/
def tenantContext (jwt : Jwt Key) (mt : EntraMultiTenant) (rawToken : String) :
    Except TritonError TenantContext :=
  match unverifiedIssuer jwt rawToken with
  | none => .error (.auth "token has no readable iss")
  | some iss =>
    match entraTidUnder mt.authority iss with
    | none => .error (.auth s!"issuer {iss} is not a tenant-scoped Entra v2 issuer")
    | some tid =>
      match mt.tenantMap.lookup tid with
      | none => .error (.auth s!"tid {tid} is not allow-listed")
      | some tenant => .ok ⟨iss, tid, tenant⟩

def context (v : OidcVerifier Key) (jwt : Jwt Key) (rawToken : String) :
    Except TritonError (Option TenantContext) :=
  match v.config.multiTenantEntra with
  | some mt => (tenantContext jwt mt rawToken).map some
  | none => .ok none

/-- The context of a multi-tenant verifier: the token's issuer, the directory in
it and the tenant the map gives that directory. -/
theorem context_eq_ok_iff {v : OidcVerifier Key} {jwt : Jwt Key} {rawToken : String}
    {mt : EntraMultiTenant} (multi : v.config.multiTenantEntra = some mt)
    {ctx : Option TenantContext} :
    v.context jwt rawToken = .ok ctx ↔
      ∃ found : TenantContext, ctx = some found ∧ unverifiedIssuer jwt rawToken = some found.iss ∧
        entraTidUnder mt.authority found.iss = some found.tid ∧
        mt.tenantMap.lookup found.tid = some found.tenant := by
  rw [context, multi]
  constructor
  · intro read
    simp only [tenantContext] at read
    cases issuer : unverifiedIssuer jwt rawToken with
    | none => simp [issuer, Except.map] at read
    | some iss =>
      cases named : entraTidUnder mt.authority iss with
      | none => simp [issuer, named, Except.map] at read
      | some tid =>
        cases mapped : mt.tenantMap.lookup tid with
        | none => simp [issuer, named, mapped, Except.map] at read
        | some tenant =>
          simp only [issuer, named, mapped, Except.map, Except.ok.injEq] at read
          exact ⟨⟨iss, tid, tenant⟩, read.symm, rfl, named, mapped⟩
  · rintro ⟨found, rfl, issuer, named, mapped⟩
    simp [tenantContext, issuer, named, mapped, Except.map]

/-- In multi-tenant mode the issuer of the token at hand is pinned, otherwise the
configured one. -/
def validation (v : OidcVerifier Key) (alg : Algorithm) (ctx : Option TenantContext) :
    Validation where
  algorithms := [alg]
  iss := [match ctx with | some ctx => ctx.iss | none => v.config.issuer]
  aud := [v.config.audience]
  requiredSpecClaims := ["exp", "iss", "aud"]

def tenantOf (ctx : Option TenantContext) (claims : TokenClaims) : Except TritonError String :=
  match ctx with
  | some ctx =>
    if claims.tid = some ctx.tid then .ok ctx.tenant
    else .error (.auth "tid claim does not match the token issuer's tenant")
  | none => .ok (claims.tenant.getD "-")

/-- Multi-tenant mode may require a delegated scope. -/
def checkScopes (v : OidcVerifier Key) (scopes : List String) : Except TritonError Unit :=
  match v.config.multiTenantEntra with
  | some mt =>
    if !mt.requiredScopes.isEmpty && !scopes.any mt.requiredScopes.contains then
      .error (.forbidden ("insufficient_scope: the token carries none of the delegated scopes "
        ++ " ".intercalate mt.requiredScopes))
    else .ok ()
  | none => .ok ()

/-- What the provider asserted, for a token that passed. -/
def idpOf (v : OidcVerifier Key) (ctx : Option TenantContext) (claims : TokenClaims) :
    IdpIdentity :=
  let name := v.idpName
  { name
    tenant :=
      match ctx with
      | some ctx => some ctx.tid
      | none => if name = "entra" then claims.tid else if name = "google" then claims.hd else none
    email :=
      if name = "entra" then claims.email <|> claims.upn <|> claims.preferredUsername
      else claims.email
    issuer :=
      match ctx with
      | some ctx => some ctx.iss
      | none => some (Text.trimEndMatches '/' v.config.issuer) }

/-- The header of a token, if its algorithm is on the list. -/
def readHeader (jwt : Jwt Key) (rawToken : String) : Except TritonError Header :=
  match jwt.decodeHeader rawToken with
  | .error e => .error (.auth s!"invalid JWT header: {e}")
  | .ok header =>
    if allowedAlgs.contains header.alg then .ok header
    else .error (.auth s!"alg {header.alg.name} is not in the FR-I-3 allowlist")

/-- The claims of a token that passes the library's checks. -/
def decodeClaims (jwt : Jwt Key) (rawToken : String) (key : Key) (validation : Validation) :
    Except TritonError TokenClaims :=
  match jwt.decode rawToken key validation with
  | .error e => .error (.auth s!"JWT verification failed: {e}")
  | .ok payload =>
    match TokenClaims.read payload with
    | none => .error (.auth s!"JWT verification failed: {jwt.claimsError payload}")
    | some claims => .ok claims

/-- Check a bearer token and build its principal. The trace id is a fresh one. -/
def verify (v : OidcVerifier Key) (jwt : Jwt Key) (traceId rawToken : String) :
    Except TritonError Principal := do
  let header ← readHeader jwt rawToken
  -- The directory is looked up before any key, so that an unknown one costs no fetch.
  let ctx ← v.context jwt rawToken
  let kid ← header.kid.elim (.error (.auth "JWT header missing kid")) .ok
  let key ← v.lookupKey kid
  let claims ← decodeClaims jwt rawToken key (v.validation header.alg ctx)
  let tenant ← tenantOf ctx claims
  v.checkScopes claims.scopes
  return {
    sub := claims.sub
    scopes := claims.scopes
    groups := claims.memberships
    tenant
    rawToken
    traceId
    senderRef := none
    conversationRef := none
    idp := some (v.idpOf ctx claims) }

/-- What a verifier found in a token it accepted: the context it read before the
check, and the claims that passed it. -/
structure Accepted (v : OidcVerifier Key) (jwt : Jwt Key) (rawToken : String) (p : Principal)
    (ctx : Option TenantContext) (claims : TokenClaims) : Prop where
  context : v.context jwt rawToken = .ok ctx
  signed : ∃ alg key, decodeClaims jwt rawToken key (v.validation alg ctx) = .ok claims
  tenant : tenantOf ctx claims = .ok p.tenant
  idp : p.idp = some (v.idpOf ctx claims)

theorem accepted_of_verify {v : OidcVerifier Key} {jwt : Jwt Key} {traceId rawToken : String}
    {p : Principal} (verified : v.verify jwt traceId rawToken = .ok p) :
    ∃ ctx claims, v.Accepted jwt rawToken p ctx claims := by
  simp only [verify, bind_eq_ok_iff] at verified
  obtain ⟨header, _, ctx, context, kid, _, key, _, claims, signed, tenant, chosen, _, _, built⟩ :=
    verified
  cases built
  exact ⟨ctx, claims, context, ⟨header.alg, key, signed⟩, chosen, rfl⟩

end OidcVerifier

/-! ## What the claims of a token decide -/

/-- A claim, of one text or of several, names one of the expected texts. -/
def namesOne (claim : Option Value) (expected : List String) : Bool :=
  match claim with
  | some (.string s) => expected.contains s
  | some claim => (list Value.asStr claim).any fun texts => texts.any expected.contains
  | none => false

/-- The claims of the token are those the pair asks for: its audience, and its issuer or, of
a multi-tenant pair, a directory of its map, the same in `tid`, and a scope it requires. -/
structure OidcVerifier.Fits {Key : Type} (v : OidcVerifier Key) (jwt : Jwt Key)
    (rawToken : String) (payload : Value) (ctx : Option TenantContext) (claims : TokenClaims) :
    Prop where
  carried : unverifiedPayload jwt.fromSlice rawToken = some payload
  context : v.context jwt rawToken = .ok ctx
  issuer : ∀ alg, namesOne (payload.get "iss") (v.validation alg ctx).iss = true
  audience : namesOne (payload.get "aud") [v.config.audience] = true
  readable : TokenClaims.read payload = some claims
  tenant : ∃ tenant, OidcVerifier.tenantOf ctx claims = .ok tenant
  scopes : v.checkScopes claims.scopes = .ok ()

namespace OidcVerifier

variable {Key : Type} {v : OidcVerifier Key} {jwt : Jwt Key} {traceId rawToken : String}

/-- With the claims in order, the key and its signature decide. -/
theorem Fits.verify {payload : Value} {ctx : Option TenantContext} {claims : TokenClaims}
    (fits : v.Fits jwt rawToken payload ctx claims) {header : Header} {kid : String} {key : Key}
    (read : readHeader jwt rawToken = .ok header) (named : header.kid = some kid)
    (found : v.lookupKey kid = .ok key)
    (signed : jwt.decode rawToken key (v.validation header.alg ctx) = .ok payload) :
    ∃ p, v.verify jwt traceId rawToken = .ok p := by
  obtain ⟨tenant, chosen⟩ := fits.tenant
  simp only [OidcVerifier.verify, read, fits.context, named, found, decodeClaims, signed,
    fits.readable, chosen, fits.scopes, bind, Except.bind, Option.elim]
  exact ⟨_, rfl⟩

end OidcVerifier

end Triton.Identity
