/-
# Access tokens of Google past their expiry

The system clock and the monotonic clock advance together, by any amount before
each turn of a call and each answer of an endpoint. The system clock is read
once in a call, in whole seconds and when tokeninfo has answered. The expiry is
compared with that reading again after userinfo has answered, and the lifetime
of the cached identity is counted from it but begins at the write.

So a principal can come back after the expiry that Google reported, both from
the call itself, when the time passes between the reading and the write, and
from the cache, when the identity is written later than the reading says. Runs
in which every write ends in time are exactly the ones without it.
-/

import Triton.Identity.GoogleRuns
import Triton.Lib.Positions

namespace Triton.Identity

open Triton.Lib
open Triton.Core

/-- Nanoseconds since the epoch, `boot` of them when the monotonic clock began. -/
def wallClock (boot : Nat) (instant : Instant) : Nat := boot + instant

def nowUnix (boot : Nat) (instant : Instant) : Int :=
  ((wallClock boot instant / 1000000000 : Nat) : Int)

def Expired (boot : Nat) (instant : Instant) (exp : Int) : Prop :=
  exp * 1000000000 ≤ (wallClock boot instant : Int)

instance (boot : Nat) (instant : Instant) (exp : Int) : Decidable (Expired boot instant exp) :=
  inferInstanceAs (Decidable (_ ≤ _))

/-- What happens to the calls, without its time. -/
inductive Action where
  | call (token : String)
  | turn (index : Nat) (traceId : String)
  | tokeninfo (index : Nat) (answer : Answer GoogleTokenInfo)
  | userinfo (index : Nat) (answer : Answer GoogleUserInfo)

structure Tick where
  wait : Nat
  action : Action

structure Clocked (Hash : Type) where
  world : World Hash
  clock : Instant

/-- Both clocks are read when the action happens. -/
def Action.stamped (boot : Nat) (clock : Instant) : Action → Event
  | .call token => .call token
  | .turn index traceId => .turn index clock traceId
  | .tokeninfo index answer => .tokeninfo index answer (nowUnix boot clock)
  | .userinfo index answer => .userinfo index answer

/-- Whether an identity is still kept when the expired ones are gone. -/
def HasRoom (cache : List (String × GoogleCacheEntry)) (now : Instant) : Prop :=
  (cache.filter fun (_, e) => now < e.expires).length < googleCacheCap

/-- Whatever the cache serves from now on, it serves before its expiry. -/
def ServesInTime (boot : Nat) (cache : List (String × GoogleCacheEntry)) (now : Instant) : Prop :=
  ∀ token instant id, now ≤ instant → cacheGet cache instant token = some id →
    ¬ Expired boot instant id.exp

/-! ## The cache of identities -/

section Cache

variable {cache : List (String × GoogleCacheEntry)} {now instant : Instant} {token : String}
  {id : GoogleIdentity} {ttl : Nat} {boot : Nat}

def DistinctKeys (cache : List (String × GoogleCacheEntry)) : Prop := (cache.map (·.1)).Nodup

theorem DistinctKeys.filter (distinct : DistinctKeys cache) (p : String × GoogleCacheEntry → Bool) :
    DistinctKeys (cache.filter p) :=
  (List.filter_sublist.map _).nodup distinct

theorem cacheGet_eq_some_iff (distinct : DistinctKeys cache) :
    cacheGet cache instant token = some id ↔
      ∃ entry, (token, entry) ∈ cache ∧ instant < entry.expires ∧ entry.id = id := by
  constructor
  · intro hit
    obtain ⟨entry, live, same⟩ := Option.map_eq_some_iff.mp hit
    obtain ⟨found, before⟩ := Option.filter_eq_some_iff.mp live
    exact ⟨entry, mem_of_lookup found, by simpa using before, same⟩
  · rintro ⟨entry, member, before, rfl⟩
    simp [cacheGet, lookup_of_mem distinct member, before]

theorem DistinctKeys.cachePut (distinct : DistinctKeys cache) :
    DistinctKeys (cachePut cache now token id ttl) := by
  unfold Identity.cachePut
  split
  case isTrue => exact distinct
  case isFalse =>
    simp only
    split
    case isTrue => exact distinct.filter _
    case isFalse =>
      refine List.nodup_cons.mpr ⟨?_, (distinct.filter _).filter _⟩
      simp

/-- What is in the cache after a write: what was live, and the identity if there was
room. -/
theorem mem_cachePut_iff (some_ttl : ttl ≠ 0) (key : String) (entry : GoogleCacheEntry) :
    (key, entry) ∈ cachePut cache now token id ttl ↔
      (HasRoom cache now ∧ key = token ∧ entry = ⟨id, now + seconds ttl⟩) ∨
        ((HasRoom cache now → key ≠ token) ∧ (key, entry) ∈ cache ∧ now < entry.expires) := by
  unfold cachePut HasRoom
  rw [if_neg some_ttl]
  simp only
  split
  case isTrue full => simp [Nat.not_lt.mpr full]
  case isFalse room =>
    have room := Nat.not_le.mp room
    simp only [room, List.mem_cons, Prod.mk.injEq, List.mem_filter, decide_eq_true_eq, true_and,
      forall_const, ne_eq]
    tauto

/-- The new identity is served until the end of its lifetime and not longer. -/
theorem servesInTime_cachePut_iff (distinct : DistinctKeys cache) (some_ttl : ttl ≠ 0)
    (before : ServesInTime boot cache now) :
    ServesInTime boot (cachePut cache now token id ttl) now ↔
      (HasRoom cache now →
        (wallClock boot (now + seconds ttl) : Int) ≤ id.exp * 1000000000) := by
  have distinct_put : DistinctKeys (cachePut cache now token id ttl) := distinct.cachePut
  constructor
  · intro served room
    have lived : 0 < seconds ttl := Nat.mul_pos (Nat.pos_of_ne_zero some_ttl) (by decide)
    -- the last instant at which the new entry is served
    obtain ⟨rest, split⟩ : ∃ rest, seconds ttl = rest + 1 := Nat.exists_eq_add_one.mpr lived
    have member := (mem_cachePut_iff some_ttl token ⟨id, now + seconds ttl⟩).mpr
      (.inl ⟨room, rfl, rfl⟩)
    have live : now + rest < now + seconds ttl := split ▸ Nat.lt_add_one (now + rest)
    have early := served token (now + rest) id (Nat.le_add_right now rest)
      ((cacheGet_eq_some_iff distinct_put).mpr ⟨_, member, live, rfl⟩)
    rw [Expired, wallClock, Int.not_le] at early
    rw [wallClock, split]
    omega
  · intro ends key instant found later hit
    obtain ⟨entry, member, live, rfl⟩ := (cacheGet_eq_some_iff distinct_put).mp hit
    rcases (mem_cachePut_iff some_ttl _ _).mp member with ⟨room, rfl, rfl⟩ | ⟨_, old, _⟩
    · have live : wallClock boot instant < wallClock boot (now + seconds ttl) :=
        Nat.add_lt_add_left live boot
      have ends := ends room
      show ¬ id.exp * 1000000000 ≤ (wallClock boot instant : Int)
      omega
    · exact before key instant entry.id later
        ((cacheGet_eq_some_iff distinct).mpr ⟨entry, old, live, rfl⟩)

end Cache

/-! ## What a call read -/

/-- Google reported this expiry for the token. -/
def Reported {Hash : Type} (ext : Externals Hash) (answers : Answers) (token : String)
    (exp : Int) : Prop :=
  ∃ info, (token, info) ∈ answers.infos ∧ jsonAsI64 ext.parseF64 info.exp = some exp

namespace GoogleAccessTokenVerifier

variable {Hash : Type} {v : GoogleAccessTokenVerifier} {ext : Externals Hash}

theorem reported_of_genuine {answers : Answers} {token : String} {id : GoogleIdentity}
    (genuine : v.Genuine ext answers token id) : Reported ext answers token id.exp := by
  cases genuine with
  | @direct info now given valid => exact ⟨info, given, (exp_of_valid valid).1⟩
  | @looked info now hd given _ _ _ valid =>
    refine ⟨info, given, ?_⟩
    have reported := (exp_of_valid valid).1
    cases hd <;> exact reported

/-! A check or an answer returns no principal: it refuses, or an identity is left to
write. -/

theorem settle_ne_ok (info : GoogleTokenInfo) (now : Int) (p : Principal) :
    v.settle ext info now ≠ .returned (.ok p) := by
  unfold settle
  split <;> nofun

theorem onTokeninfo_ne_ok (answer : Answer GoogleTokenInfo) (now : Int) (p : Principal) :
    v.onTokeninfo ext answer now ≠ .returned (.ok p) := by
  cases answer with
  | unreachable | refused | undecodable => rintro ⟨⟩
  | ok info =>
    simp only [onTokeninfo, afterTokeninfo]
    split
    case isFalse => exact settle_ne_ok info now p
    case isTrue => split <;> rintro ⟨⟩

theorem onUserinfo_ne_ok (info : GoogleTokenInfo) (exp now : Int) (answer : Answer GoogleUserInfo)
    (p : Principal) : onUserinfo info exp now answer ≠ .returned (.ok p) := by
  cases answer with
  | unreachable | refused | undecodable => rintro ⟨⟩
  | ok ui =>
    simp only [onUserinfo]
    split <;> rintro ⟨⟩

/-- The call that was moved is where it was, and every other one as it was. -/
theorem getElem?_moveTo {w : World Hash} {index other : Nat} {call : VerifyCall} {phase : Phase}
    (found : w.calls[index]? = some call) :
    (moveTo w index call phase).calls[other]? =
      if index = other then some { call with phase } else w.calls[other]? :=
  getElem?_set_of_getElem? found _ other

end GoogleAccessTokenVerifier

/-! ## Returning and writing -/

namespace Clocked

open GoogleAccessTokenVerifier

variable {Hash : Type} [DecidableEq Hash] (v : GoogleAccessTokenVerifier) (ext : Externals Hash)
  (boot : Nat)

def step (s : Clocked Hash) (tick : Tick) : Clocked Hash where
  world := v.step ext s.world (tick.action.stamped boot (s.clock + tick.wait))
  clock := s.clock + tick.wait

/-- The identity whose principal a call returns when it takes its turn. -/
def identityServed (w : World Hash) (instant : Instant) (index : Nat) : Option GoogleIdentity :=
  match w.calls[index]? with
  | some ⟨token, .arrived⟩ => cacheGet w.cache instant token
  | some ⟨_, .writing id _⟩ => some id
  | _ => none

/-- A call that has not returned before returns a principal. -/
def Returns (before after : World Hash) (index : Nat) (token : String) (p : Principal) : Prop :=
  (∃ phase, before.calls[index]? = some ⟨token, phase⟩ ∧ ∀ result, phase ≠ .returned result) ∧
    after.calls[index]? = some ⟨token, .returned (.ok p)⟩

/-- No principal comes back at or after the expiry that Google reported, neither now
nor out of the cache as it is now. -/
structure RefusesExpired (s : Clocked Hash) (tick : Tick) : Prop where
  returned : ∀ index token p, Returns s.world (s.step v ext boot tick).world index token p →
    ∃ id traceId, identityServed s.world (s.clock + tick.wait) index = some id ∧
      p = principal id token traceId ∧ Reported ext s.world.answers token id.exp ∧
      ¬ Expired boot (s.clock + tick.wait) id.exp
  cached : ServesInTime boot (s.step v ext boot tick).world.cache (s.clock + tick.wait)

/-- A call takes its turn to write an identity, validated at a reading of the clock. -/
def Writes (s : Clocked Hash) (tick : Tick) (token : String) (id : GoogleIdentity) (now : Int) :
    Prop :=
  ∃ index traceId, tick.action = .turn index traceId ∧
    s.world.calls[index]? = some ⟨token, .writing id now⟩

/-- An identity is written before it expires, and its lifetime in the cache ends by
then. -/
def WritesInTime (s : Clocked Hash) (tick : Tick) : Prop :=
  ∀ token id now, s.Writes tick token id now →
    ¬ Expired boot (s.clock + tick.wait) id.exp ∧
      (HasRoom s.world.cache (s.clock + tick.wait) →
        (wallClock boot (s.clock + tick.wait + seconds (min (id.exp - now).toNat 300)) : Int) ≤
          id.exp * 1000000000)

/-- The cache with the identity written to it. -/
def cacheWritten (s : Clocked Hash) (tick : Tick) (token : String) (id : GoogleIdentity)
    (now : Int) : List (String × GoogleCacheEntry) :=
  cachePut s.world.cache (s.clock + tick.wait) token id (min (id.exp - now).toNat 300)

variable {v ext boot} {s : Clocked Hash} {tick : Tick}

omit [DecidableEq Hash] in
/-- An answer moves its call to a phase without a principal, and no other call. -/
theorem not_returned_moveTo {w : World Hash} {index other : Nat} {call : VerifyCall}
    {next : Phase} {token : String} {p : Principal} (found : w.calls[other]? = some call)
    (unserved : next ≠ .returned (.ok p))
    (before : w.calls[index]? ≠ some ⟨token, .returned (.ok p)⟩) :
    (moveTo w other call next).calls[index]? ≠ some ⟨token, .returned (.ok p)⟩ := by
  rw [getElem?_moveTo found]
  split
  case isTrue =>
    intro moved
    cases moved
    exact unserved rfl
  case isFalse => exact before

/-- Only a turn of the call itself returns its principal. -/
theorem turn_of_returns {index : Nat} {token : String} {p : Principal}
    (returns : Returns s.world (s.step v ext boot tick).world index token p) :
    ∃ traceId phase, tick.action = .turn index traceId ∧
      s.world.calls[index]? = some ⟨token, phase⟩ ∧ (∀ result, phase ≠ .returned result) ∧
      (v.turn ext s.world ⟨token, phase⟩ (s.clock + tick.wait) traceId).2 = .returned (.ok p) := by
  obtain ⟨⟨phase, stood, unreturned⟩, after⟩ := returns
  have changed : s.world.calls[index]? ≠ some ⟨token, .returned (.ok p)⟩ := by
    rw [stood]
    intro same
    cases same
    exact unreturned _ rfl
  obtain ⟨wait, action⟩ := tick
  cases action with
  | call other =>
    refine absurd ?_ changed
    obtain ⟨bound, _⟩ := List.getElem?_eq_some_iff.mp stood
    rw [← after]
    exact (List.getElem?_append_left bound).symm
  | turn other traceId =>
    simp only [step, Action.stamped, GoogleAccessTokenVerifier.step] at after
    split at after
    case h_1 => exact absurd after changed
    case h_2 call found =>
      have kept : (v.turn ext s.world call (s.clock + wait) traceId).1.calls = s.world.calls := by
        unfold turn
        split
        case h_1 => split <;> rfl
        case h_2 => simp only; split <;> rfl
        all_goals rfl
      rw [getElem?_moveTo (by rw [kept]; exact found), kept] at after
      split at after
      case isFalse => exact absurd after changed
      case isTrue same =>
        subst same
        rw [stood] at found
        cases found
        refine ⟨traceId, phase, rfl, stood, unreturned, ?_⟩
        injection after with after
        injection after
  | tokeninfo other answer =>
    simp only [step, Action.stamped, GoogleAccessTokenVerifier.step] at after
    split at after
    case h_1 found =>
      exact absurd after (not_returned_moveTo found (onTokeninfo_ne_ok _ _ p) changed)
    case h_2 => exact absurd after changed
  | userinfo other answer =>
    simp only [step, Action.stamped, GoogleAccessTokenVerifier.step] at after
    split at after
    case h_1 found =>
      exact absurd after (not_returned_moveTo found (onUserinfo_ne_ok _ _ _ _ p) changed)
    case h_2 => exact absurd after changed

/-- It is returned out of the cache, or after a write. -/
theorem returns_cases {index : Nat} {token : String} {p : Principal}
    (returns : Returns s.world (s.step v ext boot tick).world index token p) :
    ∃ id traceId, p = principal id token traceId ∧
      identityServed s.world (s.clock + tick.wait) index = some id ∧
      (cacheGet s.world.cache (s.clock + tick.wait) token = some id ∨
        ∃ now, s.world.calls[index]? = some ⟨token, .writing id now⟩ ∧
          s.Writes tick token id now) := by
  obtain ⟨traceId, phase, acts, stood, unreturned, ends⟩ := turn_of_returns returns
  cases phase with
  | arrived =>
    simp only [turn] at ends
    split at ends
    case h_2 => cases ends
    case h_1 id hit =>
      cases ends
      exact ⟨id, traceId, rfl, by rw [identityServed, stood]; exact hit, .inl hit⟩
  | readingHd info exp now =>
    simp only [turn] at ends
    split at ends
    case h_2 => cases ends
    case h_1 hd hit =>
      have ends : v.settle ext (info.withHd hd) now = .returned (.ok p) := ends
      exact absurd ends (settle_ne_ok _ now p)
  | writingHd info exp now hd =>
    exact absurd ends (settle_ne_ok _ now p)
  | writing id now =>
    simp only [turn] at ends
    cases ends
    exact ⟨id, traceId, rfl, by rw [identityServed, stood],
      .inr ⟨now, stood, index, traceId, acts, stood⟩⟩
  | askingTokeninfo | askingUserinfo => cases ends
  | returned result => exact absurd rfl (unreturned result)

theorem step_of_writing {index : Nat} {traceId token : String} {id : GoogleIdentity} {now : Int}
    (acts : tick.action = .turn index traceId)
    (found : s.world.calls[index]? = some ⟨token, .writing id now⟩) :
    (s.step v ext boot tick).world =
      moveTo { s.world with cache := s.cacheWritten tick token id now } index
        ⟨token, .writing id now⟩ (.returned (.ok (principal id token traceId))) := by
  simp only [step, acts, Action.stamped, GoogleAccessTokenVerifier.step, found, turn,
    cacheWritten]

theorem cache_step_of_not_writes (idle : ∀ token id now, ¬ s.Writes tick token id now) :
    (s.step v ext boot tick).world.cache = s.world.cache := by
  obtain ⟨wait, action⟩ := tick
  cases action with
  | call => rfl
  | turn index traceId =>
    simp only [step, Action.stamped, GoogleAccessTokenVerifier.step]
    split
    case h_1 => rfl
    case h_2 call found =>
      obtain ⟨token, phase⟩ := call
      cases phase with
      | writing id now => exact absurd ⟨index, traceId, rfl, found⟩ (idle token id now)
      | arrived | readingHd => simp only [turn]; split <;> rfl
      | writingHd | askingTokeninfo | askingUserinfo | returned => rfl
  | tokeninfo | userinfo =>
    simp only [step, Action.stamped, GoogleAccessTokenVerifier.step]
    split <;> rfl

/-! ## Runs -/

variable (v ext boot) in
structure Invariant (s : Clocked Hash) : Prop where
  sound : v.Sound ext (fun _ => True) s.world
  distinct : DistinctKeys s.world.cache
  serves : ServesInTime boot s.world.cache s.clock

omit [DecidableEq Hash] in
theorem Invariant.servesLater (invariant : s.Invariant v ext boot) (tick : Tick) :
    ServesInTime boot s.world.cache (s.clock + tick.wait) := by
  intro token instant id later hit
  exact invariant.serves token instant id (Nat.le_trans (Nat.le_add_right _ _) later) hit

omit [DecidableEq Hash] in
/-- The lifetime of a written identity is not zero. -/
theorem Invariant.lifetime {token : String} {id : GoogleIdentity} {now : Int} {index : Nat}
    (invariant : s.Invariant v ext boot)
    (found : s.world.calls[index]? = some ⟨token, .writing id now⟩) :
    min (id.exp - now).toNat 300 ≠ 0 := by
  have early : now < id.exp := (invariant.sound.calls _ (List.mem_of_getElem? found)).2.2
  omega

theorem writesInTime_of_refusesExpired (invariant : s.Invariant v ext boot)
    (refuses : s.RefusesExpired v ext boot tick) : s.WritesInTime boot tick := by
  rintro token id now ⟨index, traceId, acts, found⟩
  constructor
  · have returns : Returns s.world (s.step v ext boot tick).world index token
        (principal id token traceId) := by
      refine ⟨⟨_, found, by simp⟩, ?_⟩
      rw [step_of_writing acts found]
      exact (getElem?_moveTo found).trans (if_pos rfl)
    obtain ⟨served, _, serves, _, _, early⟩ := refuses.returned index token _ returns
    rw [identityServed, found] at serves
    cases serves
    exact early
  · have cached := refuses.cached
    rw [step_of_writing acts found] at cached
    exact (servesInTime_cachePut_iff invariant.distinct (invariant.lifetime found)
      (invariant.servesLater tick)).mp cached

theorem refusesExpired_of_writesInTime (invariant : s.Invariant v ext boot)
    (inTime : s.WritesInTime boot tick) : s.RefusesExpired v ext boot tick where
  returned := by
    intro index token p returns
    obtain ⟨id, traceId, built, served, source⟩ := returns_cases returns
    refine ⟨id, traceId, served, built, ?_⟩
    rcases source with hit | ⟨now, found, writes⟩
    · obtain ⟨entry, member, rfl⟩ := mem_of_cacheGet hit
      exact ⟨reported_of_genuine (invariant.sound.cache _ member),
        invariant.servesLater tick token _ _ (Nat.le_refl _) hit⟩
    · exact ⟨reported_of_genuine (invariant.sound.calls _ (List.mem_of_getElem? found)).2.1,
        (inTime token id now writes).1⟩
  cached := by
    by_cases writes : ∃ token id now, s.Writes tick token id now
    · obtain ⟨token, id, now, index, traceId, acts, found⟩ := writes
      rw [step_of_writing acts found]
      exact (servesInTime_cachePut_iff invariant.distinct (invariant.lifetime found)
        (invariant.servesLater tick)).mpr (inTime token id now ⟨index, traceId, acts, found⟩).2
    · rw [cache_step_of_not_writes fun token id now here => writes ⟨token, id, now, here⟩]
      exact invariant.servesLater tick

theorem invariant_step (s : Clocked Hash) (tick : Tick) (invariant : s.Invariant v ext boot)
    (refuses : s.RefusesExpired v ext boot tick) :
    (s.step v ext boot tick).Invariant v ext boot where
  sound := sound_step s.world _ invariant.sound fun _ _ => trivial
  serves := refuses.cached
  distinct := by
    by_cases writes : ∃ token id now, s.Writes tick token id now
    · obtain ⟨token, id, now, index, traceId, acts, found⟩ := writes
      rw [step_of_writing acts found]
      exact invariant.distinct.cachePut
    · rw [cache_step_of_not_writes fun token id now here => writes ⟨token, id, now, here⟩]
      exact invariant.distinct

/-- No principal comes back at or after the reported expiry, fresh or cached, in
exactly the runs that write every identity early enough. -/
theorem expired_refused_iff {Hash : Type} [DecidableEq Hash] (v : GoogleAccessTokenVerifier)
    (ext : Externals Hash) (boot : Nat) (clock : Instant) (ticks : List Tick) :
    EveryStep (step v ext boot) (RefusesExpired v ext boot) ⟨{}, clock⟩ ticks ↔
      EveryStep (step v ext boot) (WritesInTime boot) ⟨{}, clock⟩ ticks := by
  have start : Invariant v ext boot (⟨{}, clock⟩ : Clocked Hash) := by
    refine ⟨⟨by simp, by simp, by simp, by simp⟩, List.nodup_nil, ?_⟩
    intro token instant id _ hit
    cases hit
  refine everyStep_congr_of_invariant invariant_step ?_ start
  intro s tick invariant
  exact ⟨writesInTime_of_refusesExpired invariant, refusesExpired_of_writesInTime invariant⟩

/-! Half a second before the hour. -/

def anyDomain : GoogleAccessTokenVerifier := ⟨["client"], none, false⟩

def halfPast : Nat := 3599500000000

/-- Introspected in no time, the identity is kept for one second. -/
def keptTooLong : List Tick := [
  ⟨0, .call "t"⟩, ⟨0, .turn 0 "a"⟩, ⟨0, .tokeninfo 0 (.ok (infoOf "alice@acme"))⟩,
  ⟨0, .turn 0 "a"⟩, ⟨700000000, .call "t"⟩]

/-- Userinfo takes two seconds. -/
def slowUserinfo : List Tick := [
  ⟨0, .call "t"⟩, ⟨0, .turn 0 "a"⟩, ⟨0, .tokeninfo 0 (.ok (infoOf "alice@acme"))⟩,
  ⟨0, .turn 0 "a"⟩, ⟨seconds 2, .userinfo 0 (.ok aliceUserinfo)⟩, ⟨0, .turn 0 "a"⟩]

/-- The call returns a principal when every expiry that was reported for its token is
past. -/
def Overdue (v : GoogleAccessTokenVerifier) (ext : Externals Hash) (boot : Nat)
    (s : Clocked Hash) (tick : Tick) (index : Nat) (token : String) : Prop :=
  (∃ p, Returns s.world (s.step v ext boot tick).world index token p) ∧
    ∀ exp, Reported ext s.world.answers token exp → Expired boot (s.clock + tick.wait) exp

theorem reported_alice {users : List (String × GoogleUserInfo)} {exp : Int}
    (reported : Reported plainHash ⟨[("t", infoOf "alice@acme")], users⟩ "t" exp) :
    exp = 3600 := by
  obtain ⟨info, given, read⟩ := reported
  rw [List.mem_singleton] at given
  cases given
  have read : some (3600 : Int) = some exp := read
  exact (Option.some.inj read).symm

/-- An identity is served from the cache after its expiry, and a fresh one is
returned after it. -/
theorem expired_token_admitted :
    Overdue anyDomain plainHash halfPast
        (run (step anyDomain plainHash halfPast) ⟨{}, 0⟩ keptTooLong) ⟨0, .turn 1 "b"⟩ 1 "t" ∧
      Overdue workspaceOnly plainHash halfPast
        (run (step workspaceOnly plainHash halfPast) ⟨{}, 0⟩ slowUserinfo) ⟨0, .turn 0 "a"⟩ 0
        "t" := by
  refine ⟨⟨⟨_, ⟨.arrived, rfl, by simp⟩, rfl⟩, ?_⟩, ⟨_, ⟨.writing _ 3599, rfl, by simp⟩, rfl⟩, ?_⟩
  · intro exp reported
    obtain rfl := reported_alice reported
    decide
  · intro exp reported
    obtain rfl := reported_alice reported
    decide

end Clocked

end Triton.Identity
