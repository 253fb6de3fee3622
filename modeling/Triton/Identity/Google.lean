/-
# Opaque Google access tokens

An access token of Google is no JWT. Google's tokeninfo endpoint answers for it
with an audience, an address and an expiry, and its userinfo endpoint with the
hosted domain of the person. This module has the checks of the two answers and
the two caches, one of identities by the token, one of hosted domains by the
token's hash.
-/

import Mathlib.Data.List.MinMax
import Triton.Core.Principal
import Triton.Lib.Record

namespace Triton.Identity

open Triton.Lib
open Triton.Core

/-- The hash function, and the standard library's reader of decimal fractions. -/
structure Externals (Hash : Type) where
  tokenHash : String → Hash
  parseF64 : String → Option UInt64

structure GoogleTokenInfo where
  aud : Option String := none
  email : Option String := none
  emailVerified : Option Value := none
  exp : Option Value := none
  scope : Option String := none
  hd : Option String := none
  sub : Option String := none

structure GoogleUserInfo where
  sub : Option String := none
  email : Option String := none
  hd : Option String := none

/-- What userinfo said about the hosted domain: a Workspace domain in lower case,
or a consumer account. -/
inductive UserInfoHd where
  | domain (hd : String)
  | none
  deriving DecidableEq, Repr

/-- A hosted domain that is not blank, without white space around it. -/
def namedHd (hd : Option String) : Option String := (hd.map Text.trim).filter (!·.isEmpty)

/-- In lower case, it is still not blank and has no white space around it. -/
theorem namedHd_toAsciiLowercase {hd : Option String} {h : String} (named : namedHd hd = some h) :
    namedHd (some (Text.toAsciiLowercase h)) = some (Text.toAsciiLowercase h) ∧
      (Text.toAsciiLowercase h).isEmpty = false := by
  obtain ⟨trimmed, nonempty⟩ := Option.filter_eq_some_iff.mp named
  obtain ⟨raw, _, rfl⟩ := Option.map_eq_some_iff.mp trimmed
  have kept : (Text.toAsciiLowercase (Text.trim raw)).isEmpty = false := by
    rw [Text.isEmpty_toAsciiLowercase]
    simpa using nonempty
  refine ⟨?_, kept⟩
  rw [namedHd, Option.map_some, Text.trim_toAsciiLowercase, Text.trim_trim,
    Option.filter_eq_some_iff]
  exact ⟨rfl, by simp [kept]⟩

/-- The two answers are about one person. -/
def sameUser (info : GoogleTokenInfo) (ui : GoogleUserInfo) : Bool :=
  let sameEmail :=
    match info.email, ui.email with
    | some a, some b => !a.isEmpty && Text.eqIgnoreAsciiCase a b
    | _, _ => false
  let subConflict :=
    match info.sub, ui.sub with
    | some a, some b => a != b
    | _, _ => false
  sameEmail && !subConflict

def checkGoogleUserinfo (info : GoogleTokenInfo) (ui : GoogleUserInfo) :
    Except TritonError UserInfoHd :=
  if sameUser info ui then
    .ok (match namedHd ui.hd with
      | some h => .domain (Text.toAsciiLowercase h)
      | none => .none)
  else .error (.auth "google access token identity mismatch")

/-! ## The cache of hosted domains -/

def googleHdCacheCap : Nat := 1024

/-- Nanoseconds of a monotonic clock. -/
abbrev Instant := Nat

def seconds (n : Nat) : Nat := n * 1000000000

structure Duration where
  secs : Nat
  nanos : Nat

namespace Duration

def isZero (d : Duration) : Bool := d.secs = 0 && d.nanos = 0

def asNanos (d : Duration) : Nat := seconds d.secs + d.nanos

end Duration

structure HdCacheEntry where
  hd : UserInfoHd
  expires : Instant
  lastUsed : Nat

structure HdCache (Hash : Type) where
  entries : List (Hash × HdCacheEntry) := []
  tick : Nat := 0

namespace HdCache

variable {Hash : Type} [DecidableEq Hash]

def get (cache : HdCache Hash) (now : Instant) (key : Hash) :
    HdCache Hash × Option UserInfoHd :=
  let tick := cache.tick + 1
  match cache.entries.lookup key with
  | some e =>
    if now < e.expires then
      let used := cache.entries.map fun (k, entry) =>
        if k = key then (k, { entry with lastUsed := tick }) else (k, entry)
      (⟨used, tick⟩, some e.hd)
    else (⟨cache.entries.filter (·.1 ≠ key), tick⟩, none)
  | none => (⟨cache.entries, tick⟩, none)

/-- Make room for one more entry: first the expired ones go, then the one that was
not used for the longest time. -/
def evict (entries : List (Hash × HdCacheEntry)) (now : Instant) :
    List (Hash × HdCacheEntry) :=
  let live := entries.filter fun (_, e) => now < e.expires
  if googleHdCacheCap ≤ live.length then
    match live.argmin fun (_, e) => e.lastUsed with
    | some oldest => live.filter (·.1 ≠ oldest.1)
    | none => live
  else live

/-- The entries a new key can be written to. -/
def roomFor (cache : HdCache Hash) (now : Instant) (key : Hash) : List (Hash × HdCacheEntry) :=
  let full := googleHdCacheCap ≤ cache.entries.length && !cache.entries.any (·.1 = key)
  if full then evict cache.entries now else cache.entries

def put (cache : HdCache Hash) (now : Instant) (key : Hash) (hd : UserInfoHd) (ttl : Duration) :
    HdCache Hash :=
  if ttl.isZero then cache
  else
    let tick := cache.tick + 1
    let entries := cache.roomFor now key
    ⟨(key, ⟨hd, now + ttl.asNanos, tick⟩) :: entries.filter (·.1 ≠ key), tick⟩

variable {cache : HdCache Hash} {now : Instant} {key : Hash} {e : Hash × HdCacheEntry}

/-- A read notes the use of what it finds, or drops what has expired. -/
theorem get_cases (cache : HdCache Hash) (now : Instant) (key : Hash) :
    (∃ entry, cache.entries.lookup key = some entry ∧ now < entry.expires ∧
      cache.get now key = (⟨cache.entries.map fun e =>
        if e.1 = key then (e.1, { e.2 with lastUsed := cache.tick + 1 }) else e,
        cache.tick + 1⟩, some entry.hd)) ∨
    ((∀ entry, cache.entries.lookup key = some entry → entry.expires ≤ now) ∧
      cache.get now key = (⟨cache.entries.filter (·.1 ≠ key), cache.tick + 1⟩, none)) := by
  unfold get
  cases there : cache.entries.lookup key with
  | none =>
    have absent : cache.entries.filter (·.1 ≠ key) = cache.entries := by
      rw [List.filter_eq_self]
      intro e member
      have other : key ≠ e.1 := by simpa using List.lookup_eq_none_iff.mp there e member
      simpa using other.symm
    exact .inr ⟨by simp, by rw [absent]⟩
  | some entry =>
    by_cases live : now < entry.expires
    · exact .inl ⟨entry, rfl, live, if_pos live⟩
    · refine .inr ⟨?_, if_neg live⟩
      rintro _ ⟨⟩
      exact Nat.not_lt.mp live

theorem mem_get (member : e ∈ (cache.get now key).1.entries) :
    (e ∈ cache.entries ∧ (e.1 = key → (cache.get now key).2 = none)) ∨
      ∃ old, (key, old) ∈ cache.entries ∧ (cache.get now key).2.isSome ∧
        e = (key, { old with lastUsed := cache.tick + 1 }) := by
  rcases get_cases cache now key with ⟨entry, _, _, same⟩ | ⟨_, same⟩
  · rw [same] at member ⊢
    obtain ⟨⟨other, old⟩, there, rfl⟩ := List.mem_map.mp member
    by_cases mine : other = key
    · subst mine
      exact .inr ⟨old, there, rfl, if_pos rfl⟩
    · exact .inl ⟨by simpa [mine] using there, by simp [mine]⟩
  · rw [same] at member ⊢
    exact .inl ⟨List.mem_of_mem_filter member, fun _ => rfl⟩

theorem get_eq_some {hd : UserInfoHd} (found : (cache.get now key).2 = some hd) :
    ∃ entry, (key, entry) ∈ cache.entries ∧ now < entry.expires ∧ entry.hd = hd := by
  rcases get_cases cache now key with ⟨entry, there, live, same⟩ | ⟨_, same⟩
  · rw [same] at found
    exact ⟨entry, mem_of_lookup there, live, Option.some.inj found⟩
  · rw [same] at found
    cases found

/-- The expired entries make enough room, or the oldest of the others goes as well. -/
theorem evict_cases (entries : List (Hash × HdCacheEntry)) (now : Instant) :
    let live := entries.filter fun e => now < e.2.expires
    (live.length < googleHdCacheCap ∧ evict entries now = live) ∨
      ∃ oldest ∈ live, (∀ other ∈ live, oldest.2.lastUsed ≤ other.2.lastUsed) ∧
        googleHdCacheCap ≤ live.length ∧ evict entries now = live.filter (·.1 ≠ oldest.1) := by
  intro live
  by_cases full : googleHdCacheCap ≤ live.length
  · right
    obtain ⟨oldest, least⟩ : ∃ oldest, live.argmin (·.2.lastUsed) = some oldest := by
      rw [← Option.ne_none_iff_exists', Ne, List.argmin_eq_none]
      intro empty
      rw [empty] at full
      cases full
    refine ⟨oldest, List.argmin_mem least, fun other member => ?_, full, ?_⟩
    · exact List.le_of_mem_argmin (f := fun e : Hash × HdCacheEntry => e.2.lastUsed) member least
    · exact (if_pos full).trans (by rw [least])
  · exact .inl ⟨Nat.not_le.mp full, if_neg full⟩

theorem roomFor_sublist : (cache.roomFor now key).Sublist cache.entries := by
  unfold roomFor
  simp only
  split
  case isFalse => exact List.Sublist.refl _
  case isTrue =>
    rcases evict_cases cache.entries now with ⟨_, same⟩ | ⟨oldest, _, _, _, same⟩
    · rw [same]
      exact List.filter_sublist
    · rw [same]
      exact List.filter_sublist.trans List.filter_sublist

/-- Writing adds the one entry. -/
theorem mem_put {hd : UserInfoHd} {ttl : Duration}
    (member : e ∈ (cache.put now key hd ttl).entries) :
    (e.1 = key ∧ e.2.hd = hd) ∨ e ∈ cache.entries := by
  unfold put at member
  split at member
  case isTrue => exact .inr member
  case isFalse =>
    rcases List.mem_cons.mp member with rfl | kept
    · exact .inl ⟨rfl, rfl⟩
    · exact .inr (roomFor_sublist.subset (List.mem_of_mem_filter kept))

end HdCache

/-! ## The checks of tokeninfo -/

def jsonIsTrue : Option Value → Bool
  | some (.bool b) => b
  | some (.string s) =>
    let t := Text.trim s
    Text.eqIgnoreAsciiCase t "true" || t == "1"
  | some (.number n) => (Value.number n).asI64 == some 1
  | _ => false

def jsonAsI64 (parseF64 : String → Option UInt64) : Option Value → Option Int
  | some (.number n) =>
    (Value.number n).asI64 <|> (Value.number n).asF64.map Double.toI64
  | some (.string s) =>
    let t := Text.trim s
    Text.parseSigned (-0x8000000000000000) 0x7FFFFFFFFFFFFFFF t <|>
      (parseF64 t).map Double.toI64
  | _ => none

structure GoogleIdentity where
  sub : String
  scopes : List String
  exp : Int
  domain : Option String
  tenant : Option String

/-- What comes after the last `@`. -/
def emailDomain (email : String) : String :=
  Text.toAsciiLowercase ((Text.split '@' email).getLast?.getD "")

/-- The domain a token is admitted under. -/
def admittedDomain (info : GoogleTokenInfo) (email : String) : String :=
  match namedHd info.hd with
  | some h => Text.toAsciiLowercase h
  | none => emailDomain email

def checkAudience (info : GoogleTokenInfo) (audiences : List String) : Except TritonError Unit :=
  if info.aud.any audiences.contains then .ok ()
  else .error (.auth "google access token audience mismatch")

def verifiedEmail (info : GoogleTokenInfo) : Except TritonError String :=
  match info.email.filter (!·.isEmpty) with
  | none => .error (.auth "google access token has no email")
  | some email =>
    if jsonIsTrue info.emailVerified then .ok email
    else .error (.auth "google access token email is not verified")

def checkHosted (info : GoogleTokenInfo) (requireHd : Bool) : Except TritonError Unit :=
  if requireHd && (namedHd info.hd).isNone then
    .error (.auth ("google access token has no hosted domain (hd); only Workspace accounts are "
      ++ "admitted"))
  else .ok ()

/-- The tenant the allowed map gives a domain; without a map every domain is
allowed. -/
def mappedTenant (allowed : Option (List (String × Option String))) (domain : String) :
    Except TritonError (Option String) :=
  match allowed with
  | none => .ok none
  | some allowed =>
    match allowed.lookup domain with
    | some mapped => .ok mapped
    | none => .error (.auth "google access token is outside the allowed domain")

def liveExpiry (parseF64 : String → Option UInt64) (info : GoogleTokenInfo) (now : Int) :
    Except TritonError Int :=
  match jsonAsI64 parseF64 info.exp with
  | none => .error (.auth "google access token has no exp")
  | some exp =>
    if exp ≤ now then .error (.auth "google access token is expired") else .ok exp

def validateGoogleTokeninfoWith (parseF64 : String → Option UInt64) (info : GoogleTokenInfo)
    (audiences : List String) (allowed : Option (List (String × Option String)))
    (requireHd : Bool) (nowUnix : Int) : Except TritonError GoogleIdentity := do
  checkAudience info audiences
  let email ← verifiedEmail info
  checkHosted info requireHd
  let tenant ← mappedTenant allowed (admittedDomain info email)
  let exp ← liveExpiry parseF64 info nowUnix
  return {
    sub := email
    scopes := Text.splitWhitespace (info.scope.getD "")
    exp
    domain := (info.hd.map fun h => Text.toAsciiLowercase (Text.trim h)).filter (!·.isEmpty)
    tenant }

variable {info : GoogleTokenInfo}

/-- What a validated answer says. -/
theorem validateGoogleTokeninfoWith_eq_ok {parseF64 : String → Option UInt64}
    {audiences : List String} {allowed : Option (List (String × Option String))} {requireHd : Bool}
    {now : Int} {id : GoogleIdentity}
    (valid : validateGoogleTokeninfoWith parseF64 info audiences allowed requireHd now = .ok id) :
    (∃ aud ∈ audiences, info.aud = some aud) ∧ verifiedEmail info = .ok id.sub ∧
      checkHosted info requireHd = .ok () ∧
      mappedTenant allowed (admittedDomain info id.sub) = .ok id.tenant ∧
      liveExpiry parseF64 info now = .ok id.exp := by
  simp only [validateGoogleTokeninfoWith, bind_eq_ok_iff] at valid
  obtain ⟨_, audience, email, verified, _, hosted, tenant, mapped, exp, live, built⟩ := valid
  cases built
  refine ⟨?_, verified, hosted, mapped, live⟩
  unfold checkAudience at audience
  split at audience
  case isFalse => cases audience
  case isTrue listed =>
    rw [Option.any_eq_true] at listed
    obtain ⟨aud, given, member⟩ := listed
    exact ⟨aud, by simpa using member, given⟩

theorem scopes_of_validate {parseF64 : String → Option UInt64} {audiences : List String}
    {allowed : Option (List (String × Option String))} {requireHd : Bool} {now : Int}
    {id : GoogleIdentity}
    (valid : validateGoogleTokeninfoWith parseF64 info audiences allowed requireHd now = .ok id) :
    id.scopes = Text.splitWhitespace (info.scope.getD "") ∧
      id.domain = (namedHd info.hd).map Text.toAsciiLowercase := by
  simp only [validateGoogleTokeninfoWith, bind_eq_ok_iff] at valid
  obtain ⟨_, _, _, _, _, _, _, _, _, _, built⟩ := valid
  cases built
  refine ⟨rfl, ?_⟩
  rw [namedHd]
  cases info.hd with
  | none => rfl
  | some h =>
    cases blank : (Text.trim h).isEmpty <;>
      simp [Option.filter, Text.isEmpty_toAsciiLowercase, blank]

theorem namedHd_of_checkHosted (hosted : checkHosted info true = .ok ()) :
    ∃ h, namedHd info.hd = some h := by
  cases named : namedHd info.hd with
  | none => simp [checkHosted, named] at hosted
  | some h => exact ⟨h, rfl⟩

theorem verifiedEmail_eq_ok {email : String} (verified : verifiedEmail info = .ok email) :
    info.email = some email ∧ email.isEmpty = false ∧ jsonIsTrue info.emailVerified = true := by
  unfold verifiedEmail at verified
  cases given : info.email.filter (!·.isEmpty) with
  | none => simp [given] at verified
  | some address =>
    obtain ⟨present, nonempty⟩ := Option.filter_eq_some_iff.mp given
    by_cases holds : jsonIsTrue info.emailVerified = true
    · simp only [given, holds, if_true, Except.ok.injEq] at verified
      subst verified
      exact ⟨present, by simpa using nonempty, holds⟩
    · simp [given, holds] at verified

end Triton.Identity
