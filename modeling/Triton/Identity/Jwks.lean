/-
# Refreshing the signing keys

A verifier keeps the keys of the JWKS document it installed last, by key id. A
lookup that misses reads the key table and the time of the last attempt for its
key id, queues for one lock, reads both again, records the attempt and fetches
the document: the discovery document first, unless the address is configured.
Lookups for any key ids interleave between these turns, the documents change and
fail as they like, and a lookup may be dropped wherever it waits.

The world logs what was done. Fetches never overlap, attempts for one key id
keep their distance, and a key comes from the document that was installed last
when it was read.
-/

import Triton.Identity.Google
import Triton.Identity.Oidc
import Triton.Lib.Positions
import Triton.Lib.History
import Triton.Lib.Run
import Triton.Lib.Table

namespace Triton.Identity

open Triton.Lib
open Triton.Core

/-- A verifier's configuration with its part about keys. -/
structure JwksConfig extends OidcConfig where
  jwksUrl : Option String := none
  refreshInterval : Nat := seconds 30

/-- What the JWT library reads in an entry of a JWKS document. -/
structure KeyLibrary (Jwk Key : Type) where
  keyId : Jwk → Option String
  fromJwk : Jwk → Option Key

/-- What comes back for a request, with the error texts of the HTTP client. -/
inductive Reply (α : Type) where
  | failed (error : String)
  | undecodable (error : String)
  | ok (body : α)

structure DiscoveryDoc where
  issuer : String
  jwksUri : String

/-! ## The documents -/

section Documents

def discoveryUrl (cfg : JwksConfig) : String :=
  Text.trimEndMatches '/' cfg.issuer ++ "/.well-known/openid-configuration"

/-- Where the JWKS document is, from a discovery document of the configured issuer. -/
def onDiscovery (cfg : JwksConfig) : Reply DiscoveryDoc → Except TritonError String
  | .failed e => .error (.provider s!"OIDC discovery {discoveryUrl cfg}: {e}")
  | .undecodable e => .error (.provider s!"OIDC discovery decode: {e}")
  | .ok doc =>
    let docIss := Text.trimEndMatches '/' doc.issuer
    let cfgIss := Text.trimEndMatches '/' cfg.issuer
    if docIss ≠ cfgIss then
      .error (.provider s!"OIDC discovery issuer {docIss} != configured {cfgIss}")
    else .ok doc.jwksUri

def fetchJwks {Jwk : Type} (url : String) : Reply (List Jwk) → Except TritonError (List Jwk)
  | .failed e => .error (.provider s!"JWKS fetch {url}: {e}")
  | .undecodable e => .error (.provider s!"JWKS decode: {e}")
  | .ok jwks => .ok jwks

variable {Jwk Key : Type} (lib : KeyLibrary Jwk Key)

/-- An entry without a key id, or one that does not decode, is skipped. -/
def installKey (next : Table String Key) (jwk : Jwk) : Table String Key :=
  match lib.keyId jwk with
  | none => next
  | some kid =>
    match lib.fromJwk jwk with
    | none => next
    | some key => next.insert kid key

def installKeys (jwks : List Jwk) : Table String Key := jwks.foldl (installKey lib) ∅

/-- The table of the document installed last, if there is one. -/
def keysInstalled (last : Option (List Jwk)) : Table String Key :=
  (last.map (installKeys lib)).getD ∅

/-- The document has the key under this key id. -/
def Belongs (jwks : List Jwk) (kid : String) (key : Key) : Prop :=
  ∃ jwk ∈ jwks, lib.keyId jwk = some kid ∧ lib.fromJwk jwk = some key

variable {lib}

theorem lookup_installKey {next : Table String Key} {jwk : Jwk} {kid : String} {key : Key}
    (found : (installKey lib next jwk).lookup kid = some key) :
    next.lookup kid = some key ∨ (lib.keyId jwk = some kid ∧ lib.fromJwk jwk = some key) := by
  unfold installKey at found
  split at found
  case h_1 => exact .inl found
  case h_2 named =>
    split at found
    case h_1 => exact .inl found
    case h_2 decoded =>
      rw [Table.lookup_insert_eq] at found
      split at found
      case isTrue same =>
        cases found
        exact .inr ⟨same ▸ named, decoded⟩
      case isFalse => exact .inl found

theorem belongs_of_lookup {jwks : List Jwk} {kid : String} {key : Key}
    (found : (installKeys lib jwks).lookup kid = some key) : Belongs lib jwks kid key := by
  induction jwks using List.reverseRecOn with
  | nil => simp [installKeys] at found
  | append_singleton jwks jwk ih =>
    rw [installKeys, List.foldl_concat] at found
    rcases lookup_installKey found with earlier | ⟨named, decoded⟩
    · obtain ⟨other, member, rest⟩ := ih earlier
      exact ⟨other, List.mem_append_left _ member, rest⟩
    · exact ⟨jwk, by simp, named, decoded⟩

end Documents

/-! ## Lookups -/

/-- Where a lookup stands: what it does at its next turn, or what it waits for. -/
inductive LookupPhase (Jwk Key : Type) where
  | arrived
  | limiting
  | queueing
  | rereading
  | relimiting
  | recording
  | starting
  | discovering
  | fetching (url : String)
  | installing (jwks : List Jwk)
  | rechecking
  | returned (result : Except TritonError Key)
  | cancelled

structure KeyLookup (Jwk Key : Type) where
  kid : String
  phase : LookupPhase Jwk Key

/-- What a lookup has done. A fetch is one refresh, with the request for the
discovery document where there is one. -/
inductive LookupDeed (Jwk Key : Type) where
  | called
  | recorded (instant : Instant)
  | fetched
  | installed (jwks : List Jwk)
  | returned (result : Except TritonError Key)

/-- One line of the log. -/
structure LogLine (Jwk Key : Type) where
  index : Nat
  kid : String
  deed : LookupDeed Jwk Key

structure JwksWorld (Jwk Key : Type) where
  clock : Instant
  keys : Table String Key := ∅
  lastRefreshPerKid : Table String Instant := ∅
  refreshLock : Option Nat := none
  lookups : List (KeyLookup Jwk Key) := []
  log : List (LogLine Jwk Key) := []

inductive JwksMove (Jwk : Type) where
  | tick (passed : Nat)
  | call (kid : String)
  | turn (index : Nat)
  | discovery (index : Nat) (reply : Reply DiscoveryDoc)
  | jwks (index : Nat) (reply : Reply (List Jwk))
  | cancel (index : Nat)

def unknownKey : TritonError := .auth "unknown signing key"

namespace JwksWorld

variable {Jwk Key : Type} (lib : KeyLibrary Jwk Key) (cfg : JwksConfig) (s : JwksWorld Jwk Key)

/-- A lookup moves on, perhaps with a deed. -/
def act (index : Nat) (kid : String) (next : LookupPhase Jwk Key)
    (deed : Option (LookupDeed Jwk Key)) : JwksWorld Jwk Key :=
  { s with
    lookups := s.lookups.set index ⟨kid, next⟩
    log := s.log ++ deed.toList.map (LogLine.mk index kid) }

/-- The guard goes with its lookup. -/
def unlock (index : Nat) : JwksWorld Jwk Key :=
  { s with refreshLock := if s.refreshLock = some index then none else s.refreshLock }

def finish (index : Nat) (kid : String) (result : Except TritonError Key) : JwksWorld Jwk Key :=
  (s.unlock index).act index kid (.returned result) (some (.returned result))

def readKeys (index : Nat) (kid : String) (next : LookupPhase Jwk Key) : JwksWorld Jwk Key :=
  match s.keys.lookup kid with
  | some key => s.finish index kid (.ok key)
  | none => s.act index kid next none

def limited (kid : String) : Bool :=
  match s.lastRefreshPerKid.lookup kid with
  | some last => s.clock - last < cfg.refreshInterval
  | none => false

def checkLimit (index : Nat) (kid : String) (next : LookupPhase Jwk Key) : JwksWorld Jwk Key :=
  if s.limited cfg kid then s.finish index kid (.error unknownKey)
  else s.act index kid next none

/-- A turn of a lookup that waits for nothing but a lock. -/
def turn (index : Nat) (kid : String) : LookupPhase Jwk Key → JwksWorld Jwk Key
  | .arrived => s.readKeys index kid .limiting
  | .limiting => s.checkLimit cfg index kid .queueing
  | .queueing =>
    if s.refreshLock.isNone then
      ({ s with refreshLock := some index } : JwksWorld Jwk Key).act index kid .rereading none
    else s
  | .rereading => s.readKeys index kid .relimiting
  | .relimiting => s.checkLimit cfg index kid .recording
  | .recording =>
    let lastRefreshPerKid := s.lastRefreshPerKid.insert kid s.clock
    ({ s with lastRefreshPerKid } : JwksWorld Jwk Key).act index kid .starting
      (some (.recorded s.clock))
  | .starting =>
    let next :=
      match cfg.jwksUrl with
      | some url => .fetching url
      | none => .discovering
    s.act index kid next (some .fetched)
  | .installing jwks =>
    ({ s with keys := installKeys lib jwks } : JwksWorld Jwk Key).act index kid .rechecking
      (some (.installed jwks))
  | .rechecking =>
    match s.keys.lookup kid with
    | some key => s.finish index kid (.ok key)
    | none => s.finish index kid (.error unknownKey)
  | _ => s

def step : JwksMove Jwk → JwksWorld Jwk Key
  | .tick passed => { s with clock := s.clock + passed }
  | .call kid =>
    { s with
      lookups := s.lookups ++ [⟨kid, .arrived⟩]
      log := s.log ++ [⟨s.lookups.length, kid, .called⟩] }
  | .turn index =>
    match s.lookups[index]? with
    | some lookup => s.turn lib cfg index lookup.kid lookup.phase
    | none => s
  | .discovery index reply =>
    match s.lookups[index]? with
    | some ⟨kid, .discovering⟩ =>
      match onDiscovery cfg reply with
      | .ok url => s.act index kid (.fetching url) none
      | .error e => s.finish index kid (.error e)
    | _ => s
  | .jwks index reply =>
    match s.lookups[index]? with
    | some ⟨kid, .fetching url⟩ =>
      match fetchJwks url reply with
      | .ok jwks => s.act index kid (.installing jwks) none
      | .error e => s.finish index kid (.error e)
    | _ => s
  | .cancel index =>
    match s.lookups[index]? with
    | some ⟨_, .returned _⟩ | none => s
    | some ⟨kid, _⟩ => (s.unlock index).act index kid .cancelled none

end JwksWorld

/-! ## The discipline of the log -/

/-- The document installed last. -/
def lastInstalled {Jwk Key : Type} (log : List (LogLine Jwk Key)) : Option (List Jwk) :=
  (log.filterMap fun line =>
    match line.deed with
    | .installed jwks => some jwks
    | _ => none).getLast?

/-- What a line of the log needs before it. -/
def Disciplined {Jwk Key : Type} (lib : KeyLibrary Jwk Key) (refreshInterval : Nat)
    (before : List (LogLine Jwk Key)) (line : LogLine Jwk Key) : Prop :=
  match line.deed with
  | .called => True
  | .recorded instant =>
    ⟨line.index, line.kid, .called⟩ ∈ before ∧
      (∀ earlier, ⟨line.index, line.kid, .recorded earlier⟩ ∉ before) ∧
      ∀ other earlier, ⟨other, line.kid, .recorded earlier⟩ ∈ before →
        earlier + refreshInterval ≤ instant
  | .fetched =>
    (∃ recorded, ⟨line.index, line.kid, .recorded recorded⟩ ∈ before) ∧
      ⟨line.index, line.kid, .fetched⟩ ∉ before
  | .installed _ => ⟨line.index, line.kid, .fetched⟩ ∈ before
  | .returned result =>
    ⟨line.index, line.kid, .called⟩ ∈ before ∧
      (∀ other, ⟨line.index, line.kid, .returned other⟩ ∉ before) ∧
      ∀ key, result = .ok key →
        ∃ jwks, lastInstalled before = some jwks ∧ Belongs lib jwks line.kid key

/-! ## What every run keeps -/

section Order

variable {Jwk Key : Type}

/-- Does the lookup have the lock? -/
def LookupPhase.isInside : LookupPhase Jwk Key → Bool
  | .rereading | .relimiting | .recording | .starting | .discovering | .fetching _ | .installing _
  | .rechecking => true
  | .arrived | .limiting | .queueing | .returned _ | .cancelled => false

/-- Is a request of the lookup under way? -/
def LookupPhase.isFetching : LookupPhase Jwk Key → Bool
  | .discovering | .fetching _ => true
  | _ => false

/-- A lookup does its deeds in one order, each at most once. -/
def LookupDeed.order : LookupDeed Jwk Key → Nat
  | .called => 0
  | .recorded _ => 1
  | .fetched => 2
  | .installed _ => 3
  | .returned _ => 4

/-- The deeds of a lower order are behind the lookup. -/
def LookupPhase.order : LookupPhase Jwk Key → Nat
  | .arrived | .limiting | .queueing | .rereading | .relimiting | .recording => 1
  | .starting => 2
  | .discovering | .fetching _ | .installing _ => 3
  | .rechecking => 4
  | .returned _ | .cancelled => 5

theorem LookupPhase.order_le (phase : LookupPhase Jwk Key) : phase.order ≤ 5 := by
  cases phase <;> simp [LookupPhase.order]

/-- A deed that leaves the two tables alone. -/
def LookupDeed.isQuiet : LookupDeed Jwk Key → Bool
  | .recorded _ | .installed _ => false
  | .called | .fetched | .returned _ => true

theorem lastInstalled_concat (log : List (LogLine Jwk Key)) (line : LogLine Jwk Key) :
    lastInstalled (log ++ [line]) =
      match line.deed with
      | .installed jwks => some jwks
      | _ => lastInstalled log := by
  unfold lastInstalled
  rw [List.filterMap_append]
  cases deed : line.deed <;> simp [deed]

end Order

namespace JwksWorld

variable {Jwk Key : Type} (lib : KeyLibrary Jwk Key) (cfg : JwksConfig)

/-- What the log knows of a lookup by the phase it is in. -/
def PhaseSound (s : JwksWorld Jwk Key) (index : Nat) (kid : String) :
    LookupPhase Jwk Key → Prop
  | .recording =>
    ∀ other earlier, ⟨other, kid, .recorded earlier⟩ ∈ s.log →
      earlier + cfg.refreshInterval ≤ s.clock
  | .starting => ∃ instant, ⟨index, kid, .recorded instant⟩ ∈ s.log
  | .discovering | .fetching _ | .installing _ => ⟨index, kid, .fetched⟩ ∈ s.log
  | .returned result => ⟨index, kid, .returned result⟩ ∈ s.log
  | _ => True

structure LookupSound (s : JwksWorld Jwk Key) (index : Nat) (lookup : KeyLookup Jwk Key) :
    Prop where
  called : ⟨index, lookup.kid, .called⟩ ∈ s.log
  lock : lookup.phase.isInside = true → s.refreshLock = some index
  phase : s.PhaseSound cfg index lookup.kid lookup.phase

structure Invariant (s : JwksWorld Jwk Key) : Prop where
  obeys : Obeys (Disciplined lib cfg.refreshInterval) s.log
  keys : s.keys = keysInstalled lib (lastInstalled s.log)
  noted : ∀ index kid instant, ⟨index, kid, .recorded instant⟩ ∈ s.log →
    ∃ last, s.lastRefreshPerKid.lookup kid = some last ∧ instant ≤ last ∧ last ≤ s.clock
  behind : ∀ line ∈ s.log, ∃ lookup, s.lookups[line.index]? = some lookup ∧
    line.kid = lookup.kid ∧ line.deed.order < lookup.phase.order
  sound : ∀ (index : Nat) lookup, s.lookups[index]? = some lookup → s.LookupSound cfg index lookup

variable {lib cfg} {s after : JwksWorld Jwk Key} {index : Nat} {kid : String}
  {old new : LookupPhase Jwk Key}

theorem getElem?_act (found : s.lookups[index]? = some ⟨kid, old⟩)
    (deed : Option (LookupDeed Jwk Key)) (other : Nat) :
    (s.act index kid new deed).lookups[other]? =
      if index = other then some ⟨kid, new⟩ else s.lookups[other]? :=
  getElem?_set_of_getElem? found _ other

variable {phase : LookupPhase Jwk Key}

/-- What is known of a lookup stays known while the log grows and the clock runs, if
no attempt is added for one that is about to record its own. -/
theorem PhaseSound.mono (sound : s.PhaseSound cfg index kid phase) (grows : s.log ⊆ after.log)
    (later : s.clock ≤ after.clock)
    (quiet : phase = .recording → ∀ other earlier, ⟨other, kid, .recorded earlier⟩ ∈ after.log →
      ⟨other, kid, .recorded earlier⟩ ∈ s.log) : after.PhaseSound cfg index kid phase := by
  cases phase with
  | recording =>
    intro other earlier member
    exact Nat.le_trans (sound other earlier (quiet rfl other earlier member)) later
  | starting =>
    obtain ⟨instant, member⟩ := sound
    exact ⟨instant, grows member⟩
  | discovering | fetching | installing | returned => exact grows sound
  | _ => trivial

/-- The shared parts may differ, the lookups, the log and the clock do not. -/
structure SameLookups (s base : JwksWorld Jwk Key) : Prop where
  lookups : base.lookups = s.lookups
  log : base.log = s.log
  clock : base.clock = s.clock

theorem log_act (deed : Option (LookupDeed Jwk Key)) :
    (s.act index kid new deed).log = s.log ++ deed.toList.map (LogLine.mk index kid) := rfl

section Act

variable {base : JwksWorld Jwk Key} {deed : Option (LookupDeed Jwk Key)}

theorem mem_log_act (same : SameLookups s base) {line : LogLine Jwk Key} :
    line ∈ (base.act index kid new deed).log ↔
      line ∈ s.log ∨ ∃ d, deed = some d ∧ line = ⟨index, kid, d⟩ := by
  rw [log_act, same.log, List.mem_append, List.mem_map]
  simp [eq_comm]

/-- A lookup is the one that moved, or another one as it was. -/
theorem lookup_act (found : s.lookups[index]? = some ⟨kid, old⟩) (same : SameLookups s base)
    {other : Nat} {lookup : KeyLookup Jwk Key}
    (there : (base.act index kid new deed).lookups[other]? = some lookup) :
    (index = other ∧ lookup = ⟨kid, new⟩) ∨
      (index ≠ other ∧ s.lookups[other]? = some lookup) := by
  rw [getElem?_act (by rw [same.lookups, found]), same.lookups] at there
  split at there
  case isTrue here => exact .inl ⟨here, (Option.some.inj there).symm⟩
  case isFalse elsewhere => exact .inr ⟨elsewhere, there⟩

/-- Whoever records has the lock, so no attempt is added for another lookup that is about
to record its own. -/
theorem Invariant.quiet_act (invariant : Invariant lib cfg s) (same : SameLookups s base)
    (recorder : ∀ instant, deed = some (.recorded instant) → s.refreshLock = some index)
    {other : Nat} {lookup : KeyLookup Jwk Key} (elsewhere : index ≠ other)
    (there : s.lookups[other]? = some lookup) (recording : lookup.phase = .recording)
    (another : Nat) (earlier : Instant)
    (member : ⟨another, lookup.kid, .recorded earlier⟩ ∈ (base.act index kid new deed).log) :
    ⟨another, lookup.kid, .recorded earlier⟩ ∈ s.log := by
  rcases (mem_log_act same).mp member with older | ⟨d, given, line⟩
  · exact older
  · cases line
    have held := (invariant.sound other lookup there).lock (by rw [recording]; rfl)
    rw [recorder earlier given] at held
    exact absurd (Option.some.inj held) elsewhere

variable (invariant : Invariant lib cfg s) (found : s.lookups[index]? = some ⟨kid, old⟩)
  (same : SameLookups s base)

include invariant found same

/-- A lookup moves on with a deed that it may do. -/
theorem Invariant.act (order : old.order ≤ new.order)
    (allowed : ∀ d, deed = some d → d.order < new.order ∧
      Disciplined lib cfg.refreshInterval s.log ⟨index, kid, d⟩)
    (keys : base.keys = keysInstalled lib (lastInstalled (base.act index kid new deed).log))
    (noted : ∀ other kid' instant,
      ⟨other, kid', .recorded instant⟩ ∈ (base.act index kid new deed).log →
        ∃ last, base.lastRefreshPerKid.lookup kid' = some last ∧ instant ≤ last ∧ last ≤ s.clock)
    (recorder : ∀ instant, deed = some (.recorded instant) → s.refreshLock = some index)
    (entered : new.isInside = true → base.refreshLock = some index)
    (others : ∀ other, index ≠ other → s.refreshLock = some other →
      base.refreshLock = some other)
    (sound : (base.act index kid new deed).PhaseSound cfg index kid new) :
    Invariant lib cfg (base.act index kid new deed) := by
  have grows : s.log ⊆ (base.act index kid new deed).log := by
    intro line older
    exact (mem_log_act same).mpr (.inl older)
  constructor
  case obeys =>
    rw [log_act, same.log]
    cases deed with
    | none => simpa using invariant.obeys
    | some d => exact Obeys.concat_iff.mpr ⟨invariant.obeys, (allowed d rfl).2⟩
  case keys => exact keys
  case noted =>
    intro other kid' instant member
    show ∃ last, base.lastRefreshPerKid.lookup kid' = some last ∧ instant ≤ last ∧
      last ≤ base.clock
    rw [same.clock]
    exact noted other kid' instant member
  case behind =>
    intro line member
    rw [getElem?_act (by rw [same.lookups, found]), same.lookups]
    rcases (mem_log_act same).mp member with older | ⟨d, given, rfl⟩
    · obtain ⟨lookup, there, named, behind⟩ := invariant.behind line older
      split
      case isFalse => exact ⟨lookup, there, named, behind⟩
      case isTrue here =>
        rw [← here, found] at there
        cases there
        exact ⟨_, rfl, named, Nat.lt_of_lt_of_le behind order⟩
    · exact ⟨_, if_pos rfl, rfl, (allowed d given).1⟩
  case sound =>
    intro other lookup there
    rcases lookup_act found same there with ⟨rfl, rfl⟩ | ⟨elsewhere, before⟩
    · exact ⟨grows (invariant.sound index _ found).called, entered, sound⟩
    · have known := invariant.sound other lookup before
      refine ⟨grows known.called, fun inside => others other elsewhere (known.lock inside), ?_⟩
      exact known.phase.mono grows (Nat.le_of_eq same.clock.symm)
        (invariant.quiet_act same recorder elsewhere before)

/-- A lookup moves on, and the tables stay as they are. -/
theorem Invariant.quiet (keys : base.keys = s.keys)
    (attempts : base.lastRefreshPerKid = s.lastRefreshPerKid) (order : old.order ≤ new.order)
    (allowed : ∀ d, deed = some d → d.isQuiet = true ∧ d.order < new.order ∧
      Disciplined lib cfg.refreshInterval s.log ⟨index, kid, d⟩)
    (entered : new.isInside = true → base.refreshLock = some index)
    (others : ∀ other, index ≠ other → s.refreshLock = some other →
      base.refreshLock = some other)
    (sound : (base.act index kid new deed).PhaseSound cfg index kid new) :
    Invariant lib cfg (base.act index kid new deed) := by
  refine invariant.act found same order (fun d given => (allowed d given).2) ?keys ?noted
    ?recorder entered others sound
  case keys =>
    rw [keys, invariant.keys, log_act, same.log]
    cases deed with
    | none => simp
    | some d =>
      have last := lastInstalled_concat s.log ⟨index, kid, d⟩
      have quiet := (allowed d rfl).1
      cases d with
      | installed => cases quiet
      | _ => exact congrArg (keysInstalled lib) last.symm
  case noted =>
    intro other kid' instant member
    rw [attempts]
    rcases (mem_log_act same).mp member with older | ⟨d, given, line⟩
    · exact invariant.noted other kid' instant older
    · cases line
      cases (allowed _ given).1
  case recorder =>
    intro instant recorded
    cases (allowed _ recorded).1

end Act

theorem refreshLock_unlock {other : Nat} (elsewhere : index ≠ other)
    (held : s.refreshLock = some other) : (s.unlock index).refreshLock = some other := by
  simp [unlock, held, Ne.symm elsewhere]

section Turns

variable (invariant : Invariant lib cfg s)

include invariant

/-- A key in the table belongs to the document installed last. -/
theorem Invariant.belongs {key : Key} (found : s.keys.lookup kid = some key) :
    ∃ jwks, lastInstalled s.log = some jwks ∧ Belongs lib jwks kid key := by
  rw [invariant.keys] at found
  cases last : lastInstalled s.log with
  | none => simp [last, keysInstalled] at found
  | some jwks =>
    rw [last] at found
    exact ⟨jwks, rfl, belongs_of_lookup found⟩

/-- Whoever passes the limit comes long enough after every attempt for its key id. -/
theorem Invariant.distance (free : s.limited cfg kid = false)
    {other : Nat} {earlier : Instant} (member : ⟨other, kid, .recorded earlier⟩ ∈ s.log) :
    earlier + cfg.refreshInterval ≤ s.clock := by
  obtain ⟨last, noted, before, past⟩ := invariant.noted other kid earlier member
  rw [limited, noted] at free
  have apart : cfg.refreshInterval ≤ s.clock - last := by simpa using free
  calc earlier + cfg.refreshInterval ≤ last + (s.clock - last) := Nat.add_le_add before apart
    _ = s.clock := Nat.add_sub_cancel' past

section

variable (found : s.lookups[index]? = some ⟨kid, old⟩)

include found

/-- A deed that is still ahead of a lookup is not in the log. -/
theorem Invariant.not_done {deed : LookupDeed Jwk Key} (ahead : old.order ≤ deed.order) :
    ⟨index, kid, deed⟩ ∉ s.log := by
  intro member
  obtain ⟨lookup, there, _, behind⟩ := invariant.behind _ member
  rw [found] at there
  cases there
  exact absurd behind (Nat.not_lt.mpr ahead)

/-- A lookup moves on without a deed. -/
theorem Invariant.move (order : old.order ≤ new.order)
    (stays : new.isInside = true → old.isInside = true)
    (sound : s.PhaseSound cfg index kid new) :
    Invariant lib cfg (s.act index kid new none) := by
  refine invariant.quiet found ⟨rfl, rfl, rfl⟩ rfl rfl order nofun ?entered ?others ?sound
  case entered => exact fun inside => (invariant.sound index _ found).lock (stays inside)
  case others => exact fun _ _ => id
  case sound =>
    refine sound.mono (fun _ => List.mem_append_left _) (Nat.le_refl _) ?_
    intro _ other earlier member
    simpa [log_act] using member

/-- A lookup returns, with a key of the table if it returns one. -/
theorem Invariant.finish {result : Except TritonError Key} (running : old.order ≤ 4)
    (sourced : ∀ key, result = .ok key → s.keys.lookup kid = some key) :
    Invariant lib cfg (s.finish index kid result) := by
  refine invariant.quiet found ⟨rfl, rfl, rfl⟩ rfl rfl (Nat.le_succ_of_le running) ?allowed nofun
    ?others ?sound
  case allowed =>
    rintro d ⟨⟩
    refine ⟨rfl, Nat.lt_succ_self 4, (invariant.sound index _ found).called, ?_, ?_⟩
    · exact fun other => invariant.not_done found running
    · exact fun key returned => invariant.belongs (sourced key returned)
  case others => exact fun other elsewhere => refreshLock_unlock elsewhere
  case sound => simp [PhaseSound, log_act]

theorem Invariant.readKeys (early : old.order = 1) (next : new.order = 1)
    (stays : new.isInside = true → old.isInside = true)
    (sound : s.PhaseSound cfg index kid new) :
    Invariant lib cfg (s.readKeys index kid new) := by
  unfold JwksWorld.readKeys
  split
  case h_1 key hit =>
    apply invariant.finish found (by omega)
    rintro _ ⟨⟩
    exact hit
  case h_2 => exact invariant.move found (by omega) stays sound

theorem Invariant.checkLimit (early : old.order = 1) (next : new.order = 1)
    (stays : new.isInside = true → old.isInside = true)
    (sound : s.limited cfg kid = false → s.PhaseSound cfg index kid new) :
    Invariant lib cfg (s.checkLimit cfg index kid new) := by
  unfold JwksWorld.checkLimit
  split
  case isTrue =>
    apply invariant.finish found (by omega)
    rintro _ ⟨⟩
  case isFalse free => exact invariant.move found (by omega) stays (sound (by simpa using free))

theorem Invariant.cancel :
    Invariant lib cfg ((s.unlock index).act index kid .cancelled none) := by
  refine invariant.quiet found ⟨rfl, rfl, rfl⟩ rfl rfl old.order_le nofun nofun ?_ trivial
  exact fun other elsewhere => refreshLock_unlock elsewhere

end

/-! ## The turns with the lock -/

theorem Invariant.enter (found : s.lookups[index]? = some ⟨kid, .queueing⟩)
    (free : s.refreshLock.isNone = true) :
    Invariant lib cfg (({ s with refreshLock := some index } : JwksWorld Jwk Key).act index kid
      .rereading none) := by
  refine invariant.quiet found ⟨rfl, rfl, rfl⟩ rfl rfl (Nat.le_refl 1) nofun (fun _ => rfl) ?_
    trivial
  intro other _ held
  rw [held] at free
  cases free

theorem Invariant.record (found : s.lookups[index]? = some ⟨kid, .recording⟩) :
    Invariant lib cfg (s.turn lib cfg index kid .recording) := by
  have known := invariant.sound index _ found
  have mine := known.lock rfl
  refine invariant.act found ⟨rfl, rfl, rfl⟩ (Nat.le_succ 1) ?allowed ?keys ?noted ?recorder
    ?entered ?others ?sound
  case allowed =>
    rintro d ⟨⟩
    refine ⟨Nat.lt_succ_self 1, known.called, ?_, known.phase⟩
    exact fun earlier => invariant.not_done found (Nat.le_refl 1)
  case keys =>
    have last := lastInstalled_concat s.log ⟨index, kid, .recorded s.clock⟩
    refine invariant.keys.trans ?_
    exact congrArg (keysInstalled lib) last.symm
  case noted =>
    intro other kid' instant member
    rw [Table.lookup_insert_eq]
    rcases List.mem_append.mp member with older | new
    · obtain ⟨last, noted, before, past⟩ := invariant.noted other kid' instant older
      split
      case isTrue => exact ⟨s.clock, rfl, Nat.le_trans before past, Nat.le_refl _⟩
      case isFalse => exact ⟨last, noted, before, past⟩
    · cases List.mem_singleton.mp new
      rw [if_pos rfl]
      exact ⟨s.clock, rfl, Nat.le_refl _, Nat.le_refl _⟩
  case recorder => exact fun _ _ => mine
  case entered => exact fun _ => mine
  case others => exact fun _ _ => id
  case sound => exact ⟨s.clock, by simp [log_act]⟩

theorem Invariant.fetch (found : s.lookups[index]? = some ⟨kid, .starting⟩) :
    Invariant lib cfg (s.turn lib cfg index kid .starting) := by
  have known := invariant.sound index _ found
  have mine := known.lock rfl
  have allowed : Disciplined lib cfg.refreshInterval s.log ⟨index, kid, .fetched⟩ :=
    ⟨known.phase, invariant.not_done found (Nat.le_refl 2)⟩
  simp only [turn]
  split
  all_goals
    refine invariant.quiet found ⟨rfl, rfl, rfl⟩ rfl rfl (Nat.le_succ 2) ?allowed (fun _ => mine)
      (fun _ _ => id) ?sound
    case allowed =>
      rintro d ⟨⟩
      exact ⟨rfl, Nat.lt_succ_self 2, allowed⟩
    case sound => simp [PhaseSound, log_act]

theorem Invariant.install {jwks : List Jwk}
    (found : s.lookups[index]? = some ⟨kid, .installing jwks⟩) :
    Invariant lib cfg (s.turn lib cfg index kid (.installing jwks)) := by
  have known := invariant.sound index _ found
  have mine := known.lock rfl
  refine invariant.act found ⟨rfl, rfl, rfl⟩ (Nat.le_succ 3) ?allowed ?keys ?noted ?recorder
    ?entered ?others ?sound
  case allowed =>
    rintro d ⟨⟩
    exact ⟨Nat.lt_succ_self 3, known.phase⟩
  case keys =>
    have last := lastInstalled_concat s.log ⟨index, kid, .installed jwks⟩
    exact congrArg (keysInstalled lib) last.symm
  case noted =>
    intro other kid' instant member
    rcases List.mem_append.mp member with older | new
    · exact invariant.noted other kid' instant older
    · cases List.mem_singleton.mp new
  case recorder => rintro instant ⟨⟩
  case entered => exact fun _ => mine
  case others => exact fun _ _ => id
  case sound => trivial

theorem Invariant.turn (found : s.lookups[index]? = some ⟨kid, phase⟩) :
    Invariant lib cfg (s.turn lib cfg index kid phase) := by
  cases phase with
  | arrived => exact invariant.readKeys found rfl rfl nofun trivial
  | limiting => exact invariant.checkLimit found rfl rfl nofun fun _ => trivial
  | queueing =>
    simp only [JwksWorld.turn]
    split
    case isTrue free => exact invariant.enter found free
    case isFalse => exact invariant
  | rereading => exact invariant.readKeys found rfl rfl (fun _ => rfl) trivial
  | relimiting =>
    apply invariant.checkLimit found rfl rfl (fun _ => rfl)
    intro free other earlier member
    exact invariant.distance free member
  | recording => exact invariant.record found
  | starting => exact invariant.fetch found
  | installing jwks => exact invariant.install found
  | rechecking =>
    simp only [JwksWorld.turn]
    split
    case h_1 key hit =>
      apply invariant.finish found (Nat.le_refl 4)
      rintro _ ⟨⟩
      exact hit
    case h_2 =>
      apply invariant.finish found (Nat.le_refl 4)
      rintro _ ⟨⟩
  | discovering | fetching | returned | cancelled => exact invariant

theorem Invariant.call (kid : String) :
    Invariant lib cfg (s.step lib cfg (.call kid)) := by
  have last := lastInstalled_concat s.log ⟨s.lookups.length, kid, .called⟩
  have attempts : ∀ other kid' earlier,
      ⟨other, kid', .recorded earlier⟩ ∈ (s.step lib cfg (.call kid)).log →
        ⟨other, kid', .recorded earlier⟩ ∈ s.log := by
    intro other kid' earlier member
    rcases List.mem_append.mp member with older | new
    · exact older
    · cases List.mem_singleton.mp new
  constructor
  case obeys => exact Obeys.concat_iff.mpr ⟨invariant.obeys, trivial⟩
  case keys => exact invariant.keys.trans (congrArg (keysInstalled lib) last.symm)
  case noted =>
    intro other kid' instant member
    exact invariant.noted other kid' instant (attempts other kid' instant member)
  case behind =>
    intro line member
    rcases List.mem_append.mp member with older | new
    · obtain ⟨lookup, there, rest⟩ := invariant.behind line older
      have bound := (List.getElem?_eq_some_iff.mp there).1
      exact ⟨lookup, by rw [step, List.getElem?_append_left bound, there], rest⟩
    · cases List.mem_singleton.mp new
      exact ⟨⟨kid, .arrived⟩, List.getElem?_concat_length, rfl, Nat.zero_lt_one⟩
  case sound =>
    intro other lookup there
    rcases getElem?_concat_cases there with older | ⟨rfl, rfl⟩
    · have known := invariant.sound other lookup older
      refine ⟨List.mem_append_left _ known.called, known.lock, ?_⟩
      exact known.phase.mono (fun _ => List.mem_append_left _) (Nat.le_refl _)
        fun _ another earlier => attempts another lookup.kid earlier
    · exact ⟨List.mem_append_right _ (List.mem_singleton.mpr rfl), nofun, trivial⟩

theorem Invariant.tick (passed : Nat) :
    Invariant lib cfg (s.step lib cfg (.tick passed)) where
  obeys := invariant.obeys
  keys := invariant.keys
  noted index kid instant member := by
    obtain ⟨last, noted, before, past⟩ := invariant.noted index kid instant member
    exact ⟨last, noted, before, Nat.le_trans past (Nat.le_add_right _ _)⟩
  behind := invariant.behind
  sound index lookup there := by
    have known := invariant.sound index lookup there
    refine ⟨known.called, known.lock, ?_⟩
    exact known.phase.mono (fun _ => id) (Nat.le_add_right _ _) fun _ _ _ => id

end Turns

theorem invariant_step (s : JwksWorld Jwk Key) (move : JwksMove Jwk)
    (invariant : Invariant lib cfg s) : Invariant lib cfg (s.step lib cfg move) := by
  cases move with
  | tick passed => exact invariant.tick passed
  | call kid => exact invariant.call kid
  | turn index =>
    simp only [step]
    split
    case h_1 found => exact invariant.turn found
    case h_2 => exact invariant
  | discovery index reply =>
    simp only [step]
    split
    case h_2 => exact invariant
    case h_1 kid found =>
      split
      case h_1 =>
        exact invariant.move found (Nat.le_refl 3) (fun _ => rfl)
          (invariant.sound index _ found).phase
      case h_2 => exact invariant.finish found (Nat.le_succ 3) nofun
  | jwks index reply =>
    simp only [step]
    split
    case h_2 => exact invariant
    case h_1 kid url found =>
      split
      case h_1 =>
        exact invariant.move found (Nat.le_refl 3) (fun _ => rfl)
          (invariant.sound index _ found).phase
      case h_2 => exact invariant.finish found (Nat.le_succ 3) nofun
  | cancel index =>
    simp only [step]
    split
    case h_1 | h_2 => exact invariant
    case h_3 found => exact invariant.cancel found

/-- A request of the lookup is under way. -/
def Fetching (s : JwksWorld Jwk Key) (index : Nat) : Prop :=
  ∃ lookup, s.lookups[index]? = some lookup ∧ lookup.phase.isFetching = true

/-- One fetch at a time, with everything that was done in the log and in order. -/
structure SingleFlight (lib : KeyLibrary Jwk Key) (cfg : JwksConfig) (s : JwksWorld Jwk Key) :
    Prop where
  alone : ∀ one other, s.Fetching one → s.Fetching other → one = other
  fetched : ∀ (index : Nat) lookup, s.lookups[index]? = some lookup →
    lookup.phase.isFetching = true → ⟨index, lookup.kid, .fetched⟩ ∈ s.log
  returned : ∀ (index : Nat) kid result, s.lookups[index]? = some ⟨kid, .returned result⟩ →
    ⟨index, kid, .returned result⟩ ∈ s.log
  disciplined : Obeys (Disciplined lib cfg.refreshInterval) s.log

theorem LookupPhase.isInside_of_isFetching (fetching : phase.isFetching = true) :
    phase.isInside = true := by
  cases phase <;> first | rfl | cases fetching

theorem Invariant.singleFlight (invariant : Invariant lib cfg s) : SingleFlight lib cfg s where
  alone := by
    rintro one other ⟨first, there, fetching⟩ ⟨second, elsewhere, too⟩
    have held := (invariant.sound one first there).lock
      (LookupPhase.isInside_of_isFetching fetching)
    rw [(invariant.sound other second elsewhere).lock (LookupPhase.isInside_of_isFetching too)]
      at held
    exact (Option.some.inj held).symm
  fetched := by
    rintro index ⟨kid, phase⟩ there fetching
    have sound := (invariant.sound index _ there).phase
    cases phase with
    | discovering | fetching => exact sound
    | _ => cases fetching
  returned index kid result there := (invariant.sound index _ there).phase
  disciplined := invariant.obeys

/-- Refreshing is single-flight and rate-limited, and a key that is returned belongs
to the document installed last, in every interleaving of lookups. -/
theorem jwks_refresh_single_flight {Jwk Key : Type} (lib : KeyLibrary Jwk Key) (cfg : JwksConfig)
    (clock : Instant) (moves : List (JwksMove Jwk)) :
    SingleFlight lib cfg (run (step lib cfg) { clock } moves) := by
  have start : Invariant lib cfg ({ clock } : JwksWorld Jwk Key) :=
    ⟨.nil, rfl, nofun, nofun, nofun⟩
  exact (run_keeps invariant_step start moves).singleFlight

end JwksWorld

end Triton.Identity
