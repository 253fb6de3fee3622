/-
# Concurrent introspection of Google access tokens

A verify call reads the cache of identities, asks tokeninfo, perhaps reads the
cache of hosted domains, asks userinfo and writes that cache, and writes the
cache of identities. Calls for any tokens interleave between these turns, and
the endpoints may answer anything.

Whatever is returned for a token goes back to a tokeninfo answer for that very
token. A hosted domain out of the cache goes back to a userinfo answer for that
token, which agreed with the tokeninfo answer of its own time. The cache does
not compare it with a later one.
-/

import Triton.Identity.Google
import Triton.Lib.Run

namespace Triton.Identity

open Triton.Lib
open Triton.Core

structure GoogleAccessTokenVerifier where
  audiences : List String
  allowed : Option (List (String × Option String))
  requireHd : Bool

structure GoogleCacheEntry where
  id : GoogleIdentity
  expires : Instant

/-- What comes back from an endpoint. -/
inductive Answer (α : Type) where
  | unreachable
  | refused
  | undecodable
  | ok (body : α)

/-- Where a verify call stands. -/
inductive Phase where
  | arrived
  | askingTokeninfo
  | readingHd (info : GoogleTokenInfo) (exp now : Int)
  | askingUserinfo (info : GoogleTokenInfo) (exp now : Int)
  | writingHd (info : GoogleTokenInfo) (exp now : Int) (hd : UserInfoHd)
  | writing (id : GoogleIdentity) (now : Int)
  | returned (result : Except TritonError Principal)

structure VerifyCall where
  token : String
  phase : Phase

/-- Every answer an endpoint has given for a token. -/
structure Answers where
  infos : List (String × GoogleTokenInfo) := []
  users : List (String × GoogleUserInfo) := []

structure World (Hash : Type) where
  cache : List (String × GoogleCacheEntry) := []
  hdCache : HdCache Hash := {}
  calls : List VerifyCall := []
  answers : Answers := {}

/-- A call arrives, takes a turn of its own, or gets an answer. Clocks and trace
ids are whatever the turn finds. -/
inductive Event where
  | call (token : String)
  | turn (index : Nat) (instant : Instant) (traceId : String)
  | tokeninfo (index : Nat) (answer : Answer GoogleTokenInfo) (now : Int)
  | userinfo (index : Nat) (answer : Answer GoogleUserInfo)

def cacheGet (cache : List (String × GoogleCacheEntry)) (now : Instant) (token : String) :
    Option GoogleIdentity :=
  ((cache.lookup token).filter fun e => now < e.expires).map (·.id)

def googleCacheCap : Nat := 1024

def cachePut (cache : List (String × GoogleCacheEntry)) (now : Instant) (token : String)
    (id : GoogleIdentity) (ttl : Nat) : List (String × GoogleCacheEntry) :=
  if ttl = 0 then cache
  else
    let live := cache.filter fun (_, e) => now < e.expires
    if googleCacheCap ≤ live.length then live
    else (token, ⟨id, now + seconds ttl⟩) :: live.filter (·.1 ≠ token)

theorem mem_of_cacheGet {cache : List (String × GoogleCacheEntry)} {now : Instant}
    {token : String} {id : GoogleIdentity} (hit : cacheGet cache now token = some id) :
    ∃ entry, (token, entry) ∈ cache ∧ entry.id = id := by
  obtain ⟨entry, live, same⟩ := Option.map_eq_some_iff.mp hit
  exact ⟨entry, mem_of_lookup (Option.filter_eq_some_iff.mp live).1, same⟩

theorem mem_cachePut {cache : List (String × GoogleCacheEntry)} {now : Instant} {token : String}
    {id : GoogleIdentity} {ttl : Nat} {e : String × GoogleCacheEntry}
    (member : e ∈ cachePut cache now token id ttl) :
    (e.1 = token ∧ e.2.id = id) ∨ e ∈ cache := by
  unfold cachePut at member
  split at member
  case isTrue => exact .inr member
  case isFalse =>
    simp only at member
    split at member
    case isTrue => exact .inr (List.mem_of_mem_filter member)
    case isFalse =>
      rcases List.mem_cons.mp member with rfl | kept
      · exact .inl ⟨rfl, rfl⟩
      · exact .inr (List.mem_of_mem_filter (List.mem_of_mem_filter kept))

/-- The answer of tokeninfo, completed by a hosted domain from userinfo. -/
def GoogleTokenInfo.withHd (info : GoogleTokenInfo) : UserInfoHd → GoogleTokenInfo
  | .domain hd => { info with hd := some hd }
  | .none => info

namespace GoogleAccessTokenVerifier

def principal (id : GoogleIdentity) (rawToken traceId : String) : Principal where
  sub := id.sub
  scopes := id.scopes
  groups := []
  tenant := id.tenant.getD "-"
  rawToken
  traceId
  senderRef := none
  conversationRef := none
  idp := some {
    name := "google"
    tenant := id.domain
    email := some id.sub
    issuer := some "https://accounts.google.com" }

variable {Hash : Type} (v : GoogleAccessTokenVerifier) (ext : Externals Hash)

/-- The last check, on an answer that has its hosted domain. -/
def settle (info : GoogleTokenInfo) (now : Int) : Phase :=
  match validateGoogleTokeninfoWith ext.parseF64 info v.audiences v.allowed v.requireHd now with
  | .error e => .returned (.error e)
  | .ok id => .writing id now

/-- A required hosted domain that tokeninfo does not name is looked up, for a token
that is acceptable otherwise. -/
def afterTokeninfo (info : GoogleTokenInfo) (now : Int) : Phase :=
  if v.requireHd && (namedHd info.hd).isNone then
    match validateGoogleTokeninfoWith ext.parseF64 info v.audiences none false now with
    | .error e => .returned (.error e)
    | .ok base => .readingHd info base.exp now
  else v.settle ext info now

def onTokeninfo (answer : Answer GoogleTokenInfo) (now : Int) : Phase :=
  match answer with
  | .unreachable => .returned (.error (.auth "google tokeninfo request failed"))
  | .refused => .returned (.error (.auth "google access token rejected by tokeninfo"))
  | .undecodable => .returned (.error (.auth "google tokeninfo decode failed"))
  | .ok info => v.afterTokeninfo ext info now

def onUserinfo (info : GoogleTokenInfo) (exp now : Int) (answer : Answer GoogleUserInfo) : Phase :=
  match answer with
  | .unreachable | .refused | .undecodable =>
    .returned (.error (.auth "google access token could not be verified"))
  | .ok ui =>
    match checkGoogleUserinfo info ui with
    | .error e => .returned (.error e)
    | .ok hd => .writingHd info exp now hd

/-- The answer for a token, in the record of all answers. -/
def logged {α : Type} (log : List (String × α)) (token : String) : Answer α → List (String × α)
  | .ok body => log ++ [(token, body)]
  | _ => log

/-- A turn of a call that waits for nothing: one access to one cache. -/
def turn [DecidableEq Hash] (w : World Hash) (call : VerifyCall) (instant : Instant)
    (traceId : String) : World Hash × Phase :=
  match call.phase with
  | .arrived =>
    match cacheGet w.cache instant call.token with
    | some id => (w, .returned (.ok (principal id call.token traceId)))
    | none => (w, .askingTokeninfo)
  | .readingHd info exp now =>
    let (hdCache, found) := w.hdCache.get instant (ext.tokenHash call.token)
    match found with
    | some hd => ({ w with hdCache }, v.settle ext (info.withHd hd) now)
    | none => ({ w with hdCache }, .askingUserinfo info exp now)
  | .writingHd info exp now hd =>
    let hdCache := w.hdCache.put instant (ext.tokenHash call.token) hd ⟨(exp - now).toNat, 0⟩
    ({ w with hdCache }, v.settle ext (info.withHd hd) now)
  | .writing id now =>
    let cache := cachePut w.cache instant call.token id (min (id.exp - now).toNat 300)
    ({ w with cache }, .returned (.ok (principal id call.token traceId)))
  | phase => (w, phase)

def moveTo (w : World Hash) (index : Nat) (call : VerifyCall) (phase : Phase) : World Hash :=
  { w with calls := w.calls.set index { call with phase } }

def step [DecidableEq Hash] (w : World Hash) : Event → World Hash
  | .call token => { w with calls := w.calls ++ [⟨token, .arrived⟩] }
  | .turn index instant traceId =>
    match w.calls[index]? with
    | none => w
    | some call =>
      let (w, phase) := v.turn ext w call instant traceId
      moveTo w index call phase
  | .tokeninfo index answer now =>
    match w.calls[index]? with
    | some ⟨token, .askingTokeninfo⟩ =>
      let w := { w with answers.infos := logged w.answers.infos token answer }
      moveTo w index ⟨token, .askingTokeninfo⟩ (v.onTokeninfo ext answer now)
    | _ => w
  | .userinfo index answer =>
    match w.calls[index]? with
    | some ⟨token, .askingUserinfo info exp now⟩ =>
      let w := { w with answers.users := logged w.answers.users token answer }
      moveTo w index ⟨token, .askingUserinfo info exp now⟩ (onUserinfo info exp now answer)
    | _ => w

/-! ## Where a principal comes from -/

/-- A userinfo answer for this token, about the person of this tokeninfo answer,
says this about the hosted domain. -/
def Vouched (answers : Answers) (token : String) (about : GoogleTokenInfo) (hd : UserInfoHd) :
    Prop :=
  ∃ ui, (token, ui) ∈ answers.users ∧ checkGoogleUserinfo about ui = .ok hd

/-- A hosted domain under this hash is vouched for, with a token of this hash. -/
def Sourced (answers : Answers) (key : Hash) (hd : UserInfoHd) : Prop :=
  ∃ token about, ext.tokenHash token = key ∧ (token, about) ∈ answers.infos ∧
    Vouched answers token about hd

/-- An identity that a tokeninfo answer for the token gives, alone or with a
hosted domain that was looked up. -/
inductive Genuine (answers : Answers) (token : String) (id : GoogleIdentity) : Prop
  | direct {info now} (given : (token, info) ∈ answers.infos)
      (valid : validateGoogleTokeninfoWith ext.parseF64 info v.audiences v.allowed v.requireHd
        now = .ok id)
  | looked {info now hd} (given : (token, info) ∈ answers.infos)
      (required : v.requireHd = true) (blank : namedHd info.hd = none)
      (sourced : Sourced ext answers (ext.tokenHash token) hd)
      (valid : validateGoogleTokeninfoWith ext.parseF64 (info.withHd hd) v.audiences v.allowed
        v.requireHd now = .ok id)

/-- The answer a call works on was given for its token, and lacks the hosted domain
it needs. -/
structure Lacking (answers : Answers) (token : String) (info : GoogleTokenInfo) : Prop where
  given : (token, info) ∈ answers.infos
  required : v.requireHd = true
  blank : namedHd info.hd = none

/-- What is known of a call by the phase it is in. -/
def PhaseSound (answers : Answers) (token : String) : Phase → Prop
  | .arrived | .askingTokeninfo | .returned (.error _) => True
  | .readingHd info _ _ | .askingUserinfo info _ _ => v.Lacking answers token info
  | .writingHd info _ _ hd => v.Lacking answers token info ∧ Vouched answers token info hd
  | .writing id now => v.Genuine ext answers token id ∧ now < id.exp
  | .returned (.ok p) =>
    ∃ id traceId, v.Genuine ext answers token id ∧ p = principal id token traceId

/-- Every call is for a known token, and so is every answer of tokeninfo. -/
structure Sound (known : String → Prop) (w : World Hash) : Prop where
  cache : ∀ e ∈ w.cache, v.Genuine ext w.answers e.1 e.2.id
  hdCache : ∀ e ∈ w.hdCache.entries, Sourced ext w.answers e.1 e.2.hd
  calls : ∀ call ∈ w.calls, known call.token ∧ v.PhaseSound ext w.answers call.token call.phase
  infos : ∀ e ∈ w.answers.infos, known e.1

section Growth

/-- Answers are only added. -/
structure Within (answers later : Answers) : Prop where
  infos : answers.infos ⊆ later.infos
  users : answers.users ⊆ later.users

variable {v ext} {answers later : Answers} (grows : Within answers later) {token : String}

include grows

theorem Vouched.mono {about : GoogleTokenInfo} {hd : UserInfoHd}
    (vouched : Vouched answers token about hd) : Vouched later token about hd := by
  obtain ⟨ui, given, agrees⟩ := vouched
  exact ⟨ui, grows.users given, agrees⟩

theorem Sourced.mono {key : Hash} {hd : UserInfoHd} (sourced : Sourced ext answers key hd) :
    Sourced ext later key hd := by
  obtain ⟨token, about, hashed, given, vouched⟩ := sourced
  exact ⟨token, about, hashed, grows.infos given, vouched.mono grows⟩

theorem Genuine.mono {id : GoogleIdentity} (genuine : v.Genuine ext answers token id) :
    v.Genuine ext later token id := by
  cases genuine with
  | direct given valid => exact .direct (grows.infos given) valid
  | looked given required blank sourced valid =>
    exact .looked (grows.infos given) required blank (sourced.mono grows) valid

theorem Lacking.mono {info : GoogleTokenInfo} (lacking : v.Lacking answers token info) :
    v.Lacking later token info :=
  ⟨grows.infos lacking.given, lacking.required, lacking.blank⟩

theorem PhaseSound.mono {phase : Phase} (sound : v.PhaseSound ext answers token phase) :
    v.PhaseSound ext later token phase := by
  cases phase with
  | arrived | askingTokeninfo => trivial
  | readingHd | askingUserinfo => exact Lacking.mono grows sound
  | writingHd => exact ⟨sound.1.mono grows, sound.2.mono grows⟩
  | writing => exact ⟨sound.1.mono grows, sound.2⟩
  | returned result =>
    cases result with
    | error => trivial
    | ok p =>
      obtain ⟨id, traceId, genuine, built⟩ := sound
      exact ⟨id, traceId, genuine.mono grows, built⟩

end Growth

variable {v ext} {w : World Hash} {token : String}

theorem Within.refl (answers : Answers) : Within answers answers := ⟨fun _ => id, fun _ => id⟩

theorem subset_logged {α : Type} (log : List (String × α)) (token : String) (answer : Answer α) :
    log ⊆ logged log token answer := by
  intro e member
  cases answer <;> simp [logged, member]

theorem mem_of_mem_logged {α : Type} {log : List (String × α)} {token : String} {answer : Answer α}
    {e : String × α} (member : e ∈ logged log token answer) : e ∈ log ∨ e.1 = token := by
  cases answer with
  | ok body =>
    rcases List.mem_append.mp member with old | new
    · exact .inl old
    · exact .inr (congrArg Prod.fst (List.mem_singleton.mp new))
  | unreachable | refused | undecodable => exact .inl member

/-! ## One turn -/

theorem exp_of_valid {parseF64 : String → Option UInt64} {info : GoogleTokenInfo}
    {audiences : List String} {allowed : Option (List (String × Option String))}
    {requireHd : Bool} {now : Int} {id : GoogleIdentity}
    (valid : validateGoogleTokeninfoWith parseF64 info audiences allowed requireHd now = .ok id) :
    jsonAsI64 parseF64 info.exp = some id.exp ∧ now < id.exp := by
  obtain ⟨_, _, _, _, live⟩ := validateGoogleTokeninfoWith_eq_ok valid
  unfold liveExpiry at live
  split at live
  case h_1 => cases live
  case h_2 reported =>
    split at live
    case isTrue => cases live
    case isFalse early =>
      cases live
      exact ⟨reported, Int.not_le.mp early⟩

variable {answers : Answers} {info : GoogleTokenInfo}

theorem phaseSound_settle {now : Int}
    (genuine : ∀ id, validateGoogleTokeninfoWith ext.parseF64 info v.audiences v.allowed
      v.requireHd now = .ok id → v.Genuine ext answers token id) :
    v.PhaseSound ext answers token (v.settle ext info now) := by
  unfold settle
  split
  case h_1 => trivial
  case h_2 id valid => exact ⟨genuine id valid, (exp_of_valid valid).2⟩

theorem phaseSound_onTokeninfo {answer : Answer GoogleTokenInfo} {now : Int}
    (given : ∀ info, answer = .ok info → (token, info) ∈ answers.infos) :
    v.PhaseSound ext answers token (v.onTokeninfo ext answer now) := by
  cases answer with
  | unreachable | refused | undecodable => trivial
  | ok info =>
    have here := given info rfl
    simp only [onTokeninfo, afterTokeninfo]
    split
    case isFalse => exact phaseSound_settle fun id valid => .direct here valid
    case isTrue lacks =>
      simp only [Bool.and_eq_true, Option.isNone_iff_eq_none] at lacks
      split
      case h_1 => trivial
      case h_2 => exact ⟨here, lacks.1, lacks.2⟩

theorem phaseSound_onUserinfo {exp now : Int} {answer : Answer GoogleUserInfo}
    (lacking : v.Lacking answers token info)
    (given : ∀ ui, answer = .ok ui → (token, ui) ∈ answers.users) :
    v.PhaseSound ext answers token (onUserinfo info exp now answer) := by
  cases answer with
  | unreachable | refused | undecodable => trivial
  | ok ui =>
    simp only [onUserinfo]
    split
    case h_1 => trivial
    case h_2 hd agrees => exact ⟨lacking, ui, given ui rfl, agrees⟩

variable {known : String → Prop}

/-- A call moves on, with what it wrote. -/
theorem sound_moveTo {index : Nat} {call : VerifyCall} {phase : Phase} {before : World Hash}
    (sound : v.Sound ext known before) (found : before.calls[index]? = some call)
    (grows : Within before.answers w.answers) (others : w.calls = before.calls)
    (infos : ∀ e ∈ w.answers.infos, known e.1)
    (cache : ∀ e ∈ w.cache, v.Genuine ext w.answers e.1 e.2.id)
    (hdCache : ∀ e ∈ w.hdCache.entries, Sourced ext w.answers e.1 e.2.hd)
    (moved : v.PhaseSound ext w.answers call.token phase) :
    v.Sound ext known (moveTo w index call phase) where
  cache := cache
  hdCache := hdCache
  calls := by
    intro other member
    rcases List.mem_or_eq_of_mem_set member with kept | rfl
    · rw [others] at kept
      exact (sound.calls other kept).imp_right (PhaseSound.mono grows)
    · exact ⟨(sound.calls call (List.mem_of_getElem? found)).1, moved⟩
  infos := infos

variable [DecidableEq Hash]

theorem sound_turn {index : Nat} {call : VerifyCall} (sound : v.Sound ext known w)
    (found : w.calls[index]? = some call) (instant : Instant) (traceId : String) :
    v.Sound ext known (moveTo (v.turn ext w call instant traceId).1 index call
      (v.turn ext w call instant traceId).2) := by
  have here := (sound.calls call (List.mem_of_getElem? found)).2
  have same := Within.refl w.answers
  obtain ⟨token, phase⟩ := call
  cases phase with
  | arrived =>
    simp only [turn]
    split
    case h_2 =>
      exact sound_moveTo sound found same rfl sound.infos sound.cache sound.hdCache trivial
    case h_1 id hit =>
      obtain ⟨entry, cached, rfl⟩ := mem_of_cacheGet hit
      exact sound_moveTo sound found same rfl sound.infos sound.cache sound.hdCache
        ⟨entry.id, traceId, sound.cache _ cached, rfl⟩
  | readingHd info exp now =>
    have kept : ∀ e ∈ (w.hdCache.get instant (ext.tokenHash token)).1.entries,
        Sourced ext w.answers e.1 e.2.hd := by
      intro e member
      rcases HdCache.mem_get member with ⟨there, _⟩ | ⟨old, there, _, rfl⟩
      · exact sound.hdCache e there
      · exact sound.hdCache (_, old) there
    simp only [turn]
    split
    case h_2 => exact sound_moveTo sound found same rfl sound.infos sound.cache kept here
    case h_1 hd hit =>
      obtain ⟨entry, there, _, rfl⟩ := HdCache.get_eq_some hit
      refine sound_moveTo sound found same rfl sound.infos sound.cache kept (phaseSound_settle ?_)
      intro id valid
      exact .looked here.given here.required here.blank (sound.hdCache _ there) valid
  | writingHd info exp now hd =>
    obtain ⟨lacking, vouched⟩ := here
    have sourced : Sourced ext w.answers (ext.tokenHash token) hd :=
      ⟨token, info, rfl, lacking.given, vouched⟩
    refine sound_moveTo sound found same rfl sound.infos sound.cache ?_ (phaseSound_settle ?_)
    · intro e member
      rcases HdCache.mem_put member with ⟨key, said⟩ | there
      · rw [key, said]
        exact sourced
      · exact sound.hdCache e there
    · intro id valid
      exact .looked lacking.given lacking.required lacking.blank sourced valid
  | writing id now =>
    refine sound_moveTo sound found same rfl sound.infos ?_ sound.hdCache
      ⟨id, traceId, here.1, rfl⟩
    intro e member
    rcases mem_cachePut member with ⟨key, same⟩ | there
    · rw [key, same]
      exact here.1
    · exact sound.cache e there
  | askingTokeninfo | askingUserinfo | returned =>
    exact sound_moveTo sound found same rfl sound.infos sound.cache sound.hdCache here

theorem sound_step (w : World Hash) (event : Event) (sound : v.Sound ext known w)
    (meets : ∀ token, event = .call token → known token) :
    v.Sound ext known (v.step ext w event) := by
  cases event with
  | call token =>
    refine ⟨sound.cache, sound.hdCache, ?_, sound.infos⟩
    intro call member
    rcases List.mem_append.mp member with old | new
    · exact sound.calls call old
    · obtain rfl := List.mem_singleton.mp new
      exact ⟨meets token rfl, trivial⟩
  | turn index instant traceId =>
    simp only [step]
    split
    case h_1 => exact sound
    case h_2 call found => exact sound_turn sound found instant traceId
  | tokeninfo index answer now =>
    simp only [step]
    split
    case h_2 => exact sound
    case h_1 token found =>
      have grows : Within w.answers { w.answers with
          infos := logged w.answers.infos token answer } :=
        ⟨subset_logged _ _ _, fun _ => id⟩
      refine sound_moveTo sound found grows rfl ?_
        (fun e there => (sound.cache e there).mono grows)
        (fun e there => (sound.hdCache e there).mono grows) (phaseSound_onTokeninfo ?_)
      · intro e member
        rcases mem_of_mem_logged member with old | own
        · exact sound.infos e old
        · rw [own]
          exact (sound.calls _ (List.mem_of_getElem? found)).1
      · rintro info rfl
        simp [logged]
  | userinfo index answer =>
    simp only [step]
    split
    case h_2 => exact sound
    case h_1 token info exp now found =>
      have grows : Within w.answers { w.answers with
          users := logged w.answers.users token answer } :=
        ⟨fun _ => id, subset_logged _ _ _⟩
      have here := (sound.calls _ (List.mem_of_getElem? found)).2
      refine sound_moveTo sound found grows rfl sound.infos
        (fun e there => (sound.cache e there).mono grows)
        (fun e there => (sound.hdCache e there).mono grows)
        (phaseSound_onUserinfo (Lacking.mono grows here) ?_)
      rintro ui rfl
      simp [logged]

theorem sound_run (events : List Event) :
    v.Sound ext (fun token => .call token ∈ events) (run (v.step ext) {} events) := by
  have start : v.Sound ext (fun token => .call token ∈ events) ({} : World Hash) :=
    ⟨by simp, by simp, by simp, by simp⟩
  refine run_invariant sound_step start (everyStep_of_forall_mem ?_ _)
  rintro event member _ token rfl
  exact member

/-! ## Admission -/

/-- A principal for a token, from this tokeninfo answer and under this domain. -/
structure Admission (v : GoogleAccessTokenVerifier) (answers : Answers) (token : String)
    (p : Principal) (info : GoogleTokenInfo) (domain : String) : Prop where
  given : (token, info) ∈ answers.infos
  audience : ∃ aud ∈ v.audiences, info.aud = some aud
  email : info.email = some p.sub ∧ p.sub.isEmpty = false
  verified : jsonIsTrue info.emailVerified = true
  fallback : v.requireHd = false → domain = admittedDomain info p.sub
  listed : ∀ allowed, v.allowed = some allowed → (allowed.lookup domain).isSome = true
  tenant : p.tenant = ((v.allowed.bind fun allowed => allowed.lookup domain).join).getD "-"
  rawToken : p.rawToken = token
  scopes : p.scopes = Text.splitWhitespace (info.scope.getD "")
  idp : p.idp = some {
    name := "google"
    tenant := if v.requireHd then some domain
      else (namedHd info.hd).map Text.toAsciiLowercase
    email := some p.sub
    issuer := some "https://accounts.google.com" }

/-- The domain is the hosted domain that tokeninfo names, and not blank. -/
def HostedByTokeninfo (info : GoogleTokenInfo) (domain : String) : Prop :=
  (namedHd info.hd).map Text.toAsciiLowercase = some domain

/-- A validated answer admits under its domain. -/
theorem admission_of_valid {parseF64 : String → Option UInt64} {completed : GoogleTokenInfo}
    {now : Int} {id : GoogleIdentity} {traceId : String} (given : (token, info) ∈ answers.infos)
    (valid : validateGoogleTokeninfoWith parseF64 completed v.audiences v.allowed v.requireHd
      now = .ok id) (same : completed.aud = info.aud ∧ completed.email = info.email ∧
      completed.emailVerified = info.emailVerified ∧ completed.scope = info.scope)
    (plain : v.requireHd = false → completed = info) :
    v.Admission answers token (principal id token traceId) info
      (admittedDomain completed id.sub) := by
  obtain ⟨audience, verified, hosted, mapped, _⟩ := validateGoogleTokeninfoWith_eq_ok valid
  obtain ⟨email, nonempty, holds⟩ := verifiedEmail_eq_ok verified
  obtain ⟨scopes, named⟩ := scopes_of_validate valid
  obtain ⟨sameAud, sameEmail, sameVerified, sameScope⟩ := same
  refine ⟨given, sameAud ▸ audience, ⟨sameEmail ▸ email, nonempty⟩, sameVerified ▸ holds, ?_, ?_,
    ?_, rfl, sameScope ▸ scopes, ?_⟩
  · intro optional
    rw [plain optional]
    rfl
  · intro allowed map
    rw [map, mappedTenant] at mapped
    cases found : allowed.lookup (admittedDomain completed id.sub) with
    | none => simp [found] at mapped
    | some _ => rfl
  · cases map : v.allowed with
    | none =>
      rw [map, mappedTenant, Except.ok.injEq] at mapped
      simp [principal, ← mapped]
    | some allowed =>
      rw [map, mappedTenant] at mapped
      cases found : allowed.lookup (admittedDomain completed id.sub) with
      | none => simp [found] at mapped
      | some tenant =>
        simp only [found, Except.ok.injEq] at mapped
        simp [principal, found, mapped]
  · cases required : v.requireHd with
    | true =>
      obtain ⟨h, found⟩ := namedHd_of_checkHosted (required ▸ hosted)
      simp [principal, named, found, admittedDomain]
    | false => simp [principal, named, plain required]

theorem namedHd_of_vouched {about : GoogleTokenInfo} {hd : String}
    (vouched : Vouched answers token about (.domain hd)) :
    (namedHd (some hd) = some hd ∧ Text.toAsciiLowercase hd = hd) ∧ hd.isEmpty = false := by
  obtain ⟨ui, _, agrees⟩ := vouched
  unfold checkGoogleUserinfo at agrees
  split at agrees
  case isFalse => cases agrees
  case isTrue =>
    cases named : namedHd ui.hd with
    | none => simp [named] at agrees
    | some h =>
      simp only [named, Except.ok.injEq, UserInfoHd.domain.injEq] at agrees
      subst agrees
      obtain ⟨stays, nonempty⟩ := namedHd_toAsciiLowercase named
      exact ⟨⟨stays, Text.toAsciiLowercase_toAsciiLowercase h⟩, nonempty⟩

/-- Where a required hosted domain comes from: the tokeninfo answer itself, or a
userinfo answer for the token about the person of a tokeninfo answer for it. It
is the person of this answer, if all those answers are about one person. -/
def HostedFor (answers : Answers) (token : String) (info : GoogleTokenInfo) (domain : String) :
    Prop :=
  HostedByTokeninfo info domain ∨
    ∃ about, (token, about) ∈ answers.infos ∧ Vouched answers token about (.domain domain) ∧
      ((∀ other, (token, other) ∈ answers.infos →
          other.email = info.email ∧ other.sub = info.sub) →
        Vouched answers token info (.domain domain))

theorem hostedFor_of_vouched {about : GoogleTokenInfo} {domain : String}
    (given : (token, about) ∈ answers.infos)
    (vouched : Vouched answers token about (.domain domain)) :
    HostedFor answers token info domain := by
  refine .inr ⟨about, given, vouched, ?_⟩
  intro unique
  obtain ⟨email, sub⟩ := unique about given
  obtain ⟨ui, answered, agrees⟩ := vouched
  refine ⟨ui, answered, ?_⟩
  rwa [checkGoogleUserinfo, sameUser, email, sub] at agrees

/-- What is returned for a token was admitted on a tokeninfo answer for that token,
in every interleaving of verify calls in which no two tokens share a hash. -/
theorem admission_sound_through_caches {Hash : Type} [DecidableEq Hash]
    (v : GoogleAccessTokenVerifier) (ext : Externals Hash) (events : List Event)
    (apart : ∀ one other, .call one ∈ events → .call other ∈ events →
      ext.tokenHash one = ext.tokenHash other → one = other)
    (index : Nat) (token : String) (p : Principal)
    (returned : (run (v.step ext) {} events).calls[index]? = some ⟨token, .returned (.ok p)⟩) :
    ∃ info domain, v.Admission (run (v.step ext) {} events).answers token p info domain ∧
      (v.requireHd = true → domain.isEmpty = false ∧
        HostedFor (run (v.step ext) {} events).answers token info domain) := by
  have sound : v.Sound ext _ (run (v.step ext) {} events) := sound_run events
  obtain ⟨called, here⟩ := sound.calls _ (List.mem_of_getElem? returned)
  obtain ⟨id, traceId, genuine, built⟩ := here
  rw [built]
  cases genuine with
  | @direct info now given valid =>
    refine ⟨info, _, admission_of_valid given valid ⟨rfl, rfl, rfl, rfl⟩ fun _ => rfl, ?_⟩
    intro required
    obtain ⟨_, _, hosted, _, _⟩ := validateGoogleTokeninfoWith_eq_ok valid
    obtain ⟨h, named⟩ := namedHd_of_checkHosted (required ▸ hosted)
    have domain : admittedDomain info id.sub = Text.toAsciiLowercase h := by
      rw [admittedDomain, named]
    rw [domain]
    exact ⟨(namedHd_toAsciiLowercase named).2, .inl (by rw [HostedByTokeninfo, named]; rfl)⟩
  | @looked info now hd given required blank sourced valid =>
    obtain ⟨other, about, hashed, asked, vouched⟩ := sourced
    obtain rfl := apart other token (sound.infos _ asked) called hashed
    cases hd with
    | none =>
      obtain ⟨_, _, hosted, _, _⟩ := validateGoogleTokeninfoWith_eq_ok valid
      obtain ⟨h, named⟩ := namedHd_of_checkHosted (required ▸ hosted)
      rw [GoogleTokenInfo.withHd, blank] at named
      cases named
    | domain hd =>
      obtain ⟨named, nonempty⟩ := namedHd_of_vouched vouched
      have domain : admittedDomain (info.withHd (.domain hd)) id.sub = hd := by
        rw [admittedDomain, GoogleTokenInfo.withHd, named.1]
        exact named.2
      refine ⟨info, hd, domain ▸ admission_of_valid given valid ⟨rfl, rfl, rfl, rfl⟩ ?_, ?_⟩
      · intro optional
        rw [required] at optional
        cases optional
      · intro _
        exact ⟨nonempty, hostedFor_of_vouched asked vouched⟩

/-! A token that tokeninfo gives to one person and later to another. -/

def workspaceOnly : GoogleAccessTokenVerifier := ⟨["client"], some [("acme", some "acme")], true⟩

def plainHash : Externals String := ⟨id, fun _ => none⟩

def infoOf (email : String) : GoogleTokenInfo where
  aud := some "client"
  email := some email
  emailVerified := some (.bool true)
  exp := some (.number (.posInt 3600))

def aliceUserinfo : GoogleUserInfo := { email := some "alice@acme", hd := some "acme" }

/-- The second call comes when the identity has left its cache and the hosted
domain has not. -/
def changedHands : List Event := [
  .call "t", .turn 0 0 "a", .tokeninfo 0 (.ok (infoOf "alice@acme")) 0, .turn 0 0 "a",
  .userinfo 0 (.ok aliceUserinfo), .turn 0 0 "a", .turn 0 0 "a",
  .call "t", .turn 1 (seconds 301) "b", .tokeninfo 1 (.ok (infoOf "mallory@mail")) 301,
  .turn 1 (seconds 301) "b", .turn 1 (seconds 301) "b"]

def changedHandsWorld : World String := run (workspaceOnly.step plainHash) {} changedHands

def malloryIdentity : GoogleIdentity := ⟨"mallory@mail", [], 3600, some "acme", some "acme"⟩

theorem changedHands_returned : changedHandsWorld.calls[1]? =
    some ⟨"t", .returned (.ok (principal malloryIdentity "t" "b"))⟩ := rfl

theorem changedHands_answers : changedHandsWorld.answers =
    ⟨[("t", infoOf "alice@acme"), ("t", infoOf "mallory@mail")], [("t", aliceUserinfo)]⟩ := rfl

/-- The second person is admitted to the first one's domain, which no userinfo
answer about the second person names. -/
theorem admitted_under_foreign_domain :
    changedHandsWorld.calls[1]? =
        some ⟨"t", .returned (.ok (principal malloryIdentity "t" "b"))⟩ ∧
      ¬ ∃ info domain, ("t", info) ∈ changedHandsWorld.answers.infos ∧
        info.email = some (principal malloryIdentity "t" "b").sub ∧
        (HostedByTokeninfo info domain ∨
          Vouched changedHandsWorld.answers "t" info (.domain domain)) := by
  refine ⟨changedHands_returned, ?_⟩
  rintro ⟨info, domain, given, email, hosted⟩
  rw [changedHands_answers] at given hosted
  obtain rfl : info = infoOf "mallory@mail" := by
    rcases List.mem_cons.mp given with first | later
    · cases first
      simp [infoOf, principal, malloryIdentity] at email
    · rw [List.mem_singleton] at later
      cases later
      rfl
  rcases hosted with named | ⟨ui, answered, agrees⟩
  · cases named
  · rw [List.mem_singleton] at answered
    cases answered
    have other : sameUser (infoOf "mallory@mail") aliceUserinfo = false := by decide
    simp [checkGoogleUserinfo, other] at agrees

theorem changed_hands_admission :
    changedHandsWorld.calls[1]? =
        some ⟨"t", .returned (.ok (principal malloryIdentity "t" "b"))⟩ ∧
      ∃ info domain, workspaceOnly.Admission changedHandsWorld.answers "t"
          (principal malloryIdentity "t" "b") info domain ∧
        (workspaceOnly.requireHd = true → domain.isEmpty = false ∧
          HostedFor changedHandsWorld.answers "t" info domain) :=
  ⟨changedHands_returned, admission_sound_through_caches workspaceOnly plainHash changedHands
    (fun _ _ _ _ same => same) 1 "t" _ changedHands_returned⟩

end GoogleAccessTokenVerifier

end Triton.Identity
