/-
# Callback tokens

A token carries a tool call through a chat platform and back: the call as JSON,
a full stop, and a tag over the JSON, both parts in URL-safe Base64. A bound token
is tagged under a key derived from the platform, the tenant and the sender it is
for, and may carry an expiry in hours. A deployment verifies against a ring of
keys so that the signing key can be rotated.

The keyed hash and the JSON form of a body are parameters. Clock readings are
inputs: `none` is a clock that stands before the epoch.
-/

import Triton.Lib.Base64

namespace Triton.Correlation

open Triton.Lib

/-- Bytes of a tag kept on the wire. -/
def hmacLen : ℕ := 8

def platformMaxCallbackData : ℕ := 64

/-- A keyed hash, by key and message: the full tag, and the one put on the wire. -/
structure Mac where
  full : Bytes → Bytes → Bytes
  truncated : Bytes → Bytes → Bytes

/-- A hash with tags of 32 bytes, cut to their head on the wire. -/
def Mac.ofHmac (hmac : Bytes → Bytes → Vector UInt8 32) : Mac where
  full key message := (hmac key message).toList
  truncated key message := (hmac key message).toList.take hmacLen

/-- What a token says: the tool, its arguments, and an expiry in hours since the
epoch. -/
structure CompactBody where
  t : String
  a : Value
  x : Option UInt64

/-- The JSON form of a body, and its reader. -/
structure BodyCodec where
  toText : CompactBody → Except String String
  fromSlice : Bytes → Except String CompactBody

inductive EncodeError where
  | emptyTool
  | oversizedToken (len cap : ℕ)
  | serialise (message : String)
  deriving DecidableEq, Repr

inductive DecodeError where
  | malformed
  | badSignature
  | body (message : String)
  deriving DecidableEq, Repr

/-- Who a bound token is for. -/
structure Binding where
  platform : String
  tenant : String
  sender : String
  deriving DecidableEq, Repr

section Arithmetic

def saturatingAdd (a b : UInt64) : UInt64 :=
  UInt64.ofNat (min (a.toNat + b.toNat) (UInt64.size - 1))

def saturatingMul (a b : UInt64) : UInt64 :=
  UInt64.ofNat (min (a.toNat * b.toNat) (UInt64.size - 1))

def divCeil (a b : UInt64) : UInt64 := UInt64.ofNat ((a.toNat + b.toNat - 1) / b.toNat)

theorem toNat_saturatingAdd (a b : UInt64) :
    (saturatingAdd a b).toNat = min (a.toNat + b.toNat) (UInt64.size - 1) := by
  apply UInt64.toNat_ofNat_of_lt'
  exact Nat.lt_of_le_of_lt (Nat.min_le_right _ _) (by decide)

theorem le_saturatingAdd {now a b : UInt64} (le : now.toNat ≤ a.toNat + b.toNat) :
    now ≤ saturatingAdd a b := by
  have bound : now.toNat < UInt64.size := now.toNat_lt
  rw [UInt64.le_iff_toNat_le, toNat_saturatingAdd]
  omega

/-- A time in seconds, rounded up to a whole hour. -/
def roundedUp (seconds : ℕ) : ℕ := (seconds + 3599) / 3600 * 3600

/-- It is the first whole hour that is not before the time. -/
theorem roundedUp_spec (seconds : ℕ) :
    3600 ∣ roundedUp seconds ∧ seconds ≤ roundedUp seconds ∧
      roundedUp seconds < seconds + 3600 := by
  refine ⟨Nat.dvd_mul_left _ _, ?_, ?_⟩
  all_goals
    unfold roundedUp
    omega

/-- An expiry in hours, back in seconds, is the whole hour, or the last second
that can be told when the hour is past it. -/
theorem toNat_hours (exp : UInt64) :
    (saturatingMul (divCeil exp 3600) 3600).toNat =
      min (roundedUp exp.toNat) (UInt64.size - 1) := by
  have bound : exp.toNat < UInt64.size := exp.toNat_lt
  have hours : (divCeil exp 3600).toNat = (exp.toNat + 3599) / 3600 := by
    apply UInt64.toNat_ofNat_of_lt'
    show (exp.toNat + 3600 - 1) / 3600 < _
    simp only [UInt64.size] at bound ⊢
    omega
  rw [roundedUp, ← hours]
  apply UInt64.toNat_ofNat_of_lt'
  exact Nat.lt_of_le_of_lt (Nat.min_le_right _ _) (by decide)

/-- An expiry rounded up to hours is not before the one asked for. -/
theorem le_hours (exp : UInt64) : exp ≤ saturatingMul (divCeil exp 3600) 3600 := by
  have bound : exp.toNat < UInt64.size := exp.toNat_lt
  have later := (roundedUp_spec exp.toNat).2.1
  rw [UInt64.le_iff_toNat_le, toNat_hours]
  omega

/-- No reading of the clock is lost at the top: it is past the expiry exactly when
it is past the whole hour. -/
theorem hours_lt_iff (exp now : UInt64) :
    saturatingMul (divCeil exp 3600) 3600 < now ↔ roundedUp exp.toNat < now.toNat := by
  have bound : now.toNat < UInt64.size := now.toNat_lt
  rw [UInt64.lt_iff_toNat_lt, toNat_hours]
  omega

end Arithmetic

/-- Prefix of every message a key is derived from. -/
def derivationLabel : Bytes := Utf8.encode "triton/correlation/tenant-key/v3"

/-- The message the key of a binding is derived from. -/
def derivationInput (b : Binding) : Bytes :=
  derivationLabel ++ 0 :: (Utf8.encode b.platform ++ 0 :: (Utf8.encode b.tenant ++
    0 :: Utf8.encode b.sender))

/-- Does the presented tag match? The padded comparison keeps the work the same
when the lengths differ. -/
def tagMatches (presented expected : Bytes) : Bool :=
  let lengthsMatch := presented.length == expected.length
  let contentEq :=
    if lengthsMatch then presented == expected
    else
      let n := min presented.length hmacLen
      presented.take n ++ List.replicate (hmacLen - n) 0 == expected
  contentEq && lengthsMatch

theorem tagMatches_iff {presented expected : Bytes} :
    tagMatches presented expected = true ↔ presented = expected := by
  by_cases lengths : presented.length = expected.length
  · simp [tagMatches, lengths]
  · have differ : presented ≠ expected := fun same => lengths (congrArg List.length same)
    simp [tagMatches, lengths, differ]

section Model

variable (mac : Mac) (codec : BodyCodec)

/-- The key that tags the tokens of a binding. -/
def tenantKey (key : Bytes) (b : Binding) : Bytes := mac.full key (derivationInput b)

/-- The wire form of a body and a tag. -/
def tokenOf (body tag : Bytes) : String := Base64.encode body ++ "." ++ Base64.encode tag

/-- Serialise, sign and cap one body. -/
def finish (body : CompactBody) (key : Bytes) (cap : ℕ) : Except EncodeError String :=
  match codec.toText body with
  | .error message => .error (.serialise message)
  | .ok bodyJson =>
    let bytes := Utf8.encode bodyJson
    let token := tokenOf bytes (mac.truncated key bytes)
    if cap < Text.len token then .error (.oversizedToken (Text.len token) cap) else .ok token

def encodeWithCap (tool : String) (args : Value) (key : Bytes) (cap : ℕ) :
    Except EncodeError String :=
  if tool.isEmpty then .error .emptyTool else finish mac codec ⟨tool, args, none⟩ key cap

/-- Mint a bound token with an expiry in seconds since the epoch. -/
def encodeBoundAt (tool : String) (args : Value) (key : Bytes) (cap : ℕ) (b : Binding)
    (expUnixSecs : UInt64) : Except EncodeError String :=
  if tool.isEmpty then .error .emptyTool
  else finish mac codec ⟨tool, args, some (divCeil expUnixSecs 3600)⟩ (tenantKey mac key b) cap

/-- Mint a bound token that lives for some seconds, or without end. -/
def encodeBound (nowSecs : Option UInt64) (tool : String) (args : Value) (key : Bytes) (cap : ℕ)
    (b : Binding) (ttlSecs : Option UInt64) : Except EncodeError String :=
  if tool.isEmpty then .error .emptyTool
  else
    match ttlSecs, nowSecs with
    | some ttl, some now =>
      finish mac codec ⟨tool, args, some (divCeil (saturatingAdd now ttl) 3600)⟩
        (tenantKey mac key b) cap
    | some _, none => .error (.serialise "system clock before the epoch")
    | none, _ => finish mac codec ⟨tool, args, none⟩ (tenantKey mac key b) cap

/-- The body of a token whose tag verifies under the key. -/
def verifiedBody (token : String) (key : Bytes) (cap : ℕ) : Except DecodeError Bytes :=
  if cap < Text.len token then .error .malformed
  else
    match Text.splitOnce '.' token with
    | none => .error .malformed
    | some (bodyB64, macB64) =>
      match Base64.decode bodyB64, Base64.decode macB64 with
      | some body, some presentedMac =>
        if tagMatches presentedMac (mac.truncated key body) then .ok body
        else .error .badSignature
      | _, _ => .error .malformed

/-- Read a verified body. -/
def readBody (body : Bytes) : Except DecodeError CompactBody :=
  match codec.fromSlice body with
  | .error message => .error (.body message)
  | .ok parsed => if parsed.t.isEmpty then .error (.body "empty tool") else .ok parsed

def decodeParsed (token : String) (key : Bytes) (cap : ℕ) : Except DecodeError CompactBody :=
  (verifiedBody mac token key cap).bind (readBody codec)

def decodeWithCap (token : String) (key : Bytes) (cap : ℕ) : Except DecodeError (String × Value) :=
  (verifiedBody mac token key cap).bind fun body =>
    (readBody codec body).map fun parsed => (parsed.t, parsed.a)

/-- Has the expiry of a body passed? A clock before the epoch cannot tell. -/
def checkExpiry (nowSecs : Option UInt64) (parsed : CompactBody) :
    Except DecodeError (String × Value) :=
  match parsed.x, nowSecs with
  | some _, none => .error (.body "system clock before the epoch; cannot check expiry")
  | some expHours, some now =>
    if saturatingMul expHours 3600 < now then .error (.body "token expired")
    else .ok (parsed.t, parsed.a)
  | none, _ => .ok (parsed.t, parsed.a)

def decodeBound (nowSecs : Option UInt64) (token : String) (key : Bytes) (cap : ℕ) (b : Binding) :
    Except DecodeError (String × Value) :=
  (decodeParsed mac codec token (tenantKey mac key b) cap).bind (checkExpiry nowSecs)

end Model

/-- Shortest key a ring accepts, in bytes. -/
def minKeyLen : ℕ := 16

inductive KeyRingError where
  | empty
  | tooShort (len min : ℕ)
  deriving DecidableEq, Repr

/-- The keys a deployment accepts, newest first. -/
structure KeyRing where
  keys : List Bytes
  nonempty : keys ≠ []
  long : ∀ key ∈ keys, minKeyLen ≤ key.length

namespace KeyRing

/-- The keys of an operator's list: separated by commas, trimmed, none empty. -/
def keysOf (spec : String) : List Bytes :=
  (((Text.split ',' spec).map Text.trim).filter fun key => !key.isEmpty).map Utf8.encode

def parse (spec : String) : Except KeyRingError KeyRing :=
  if empty : keysOf spec = [] then .error .empty
  else
    match short : (keysOf spec).find? fun key => key.length < minKeyLen with
    | some key => .error (.tooShort key.length minKeyLen)
    | none =>
      .ok ⟨keysOf spec, empty, by
        intro key mem
        have := List.find?_eq_none.mp short key mem
        simpa using this⟩

/-- The key new tokens are signed with. -/
def signing (ring : KeyRing) : Bytes := ring.keys.head ring.nonempty

end KeyRing

/-- The loop over the keys of a ring. It keeps the first error, and stops at a
success or at an error of the body, which no other key can do better on. -/
def tryKeys {α : Type} (verify : Bytes → Except DecodeError α) :
    List Bytes → Option DecodeError → Except DecodeError α
  | [], firstError => .error (firstError.getD .badSignature)
  | key :: keys, firstError =>
    match verify key with
    | .ok v => .ok v
    | .error (.body message) => .error (.body message)
    | .error e => tryKeys verify keys (firstError.or (some e))

def tryRing {α : Type} (ring : KeyRing) (verify : Bytes → Except DecodeError α) :
    Except DecodeError α :=
  tryKeys verify ring.keys none

section Ring

variable (mac : Mac) (codec : BodyCodec)

def decodeBoundAny (nowSecs : Option UInt64) (token : String) (ring : KeyRing) (cap : ℕ)
    (b : Binding) : Except DecodeError (String × Value) :=
  tryRing ring fun key => decodeBound mac codec nowSecs token key cap b

def decodeWithCapAny (token : String) (ring : KeyRing) (cap : ℕ) :
    Except DecodeError (String × Value) :=
  tryRing ring fun key => decodeWithCap mac codec token key cap

end Ring

/-- What a token costs on the wire. -/
theorem len_tokenOf (body tag : Bytes) :
    Text.len (tokenOf body tag) = (4 * body.length + 2) / 3 + 1 + (4 * tag.length + 2) / 3 := by
  rw [tokenOf, Utf8.len_append, Utf8.len_append, Base64.len_encode, Base64.len_encode]
  rfl

theorem length_truncated (hmac : Bytes → Bytes → Vector UInt8 32) (key message : Bytes) :
    ((Mac.ofHmac hmac).truncated key message).length = hmacLen := by
  simp [Mac.ofHmac, hmacLen]

theorem splitOnce_tokenOf (body tag : Bytes) :
    Text.splitOnce '.' (tokenOf body tag) = some (Base64.encode body, Base64.encode tag) := by
  have text : tokenOf body tag =
      String.ofList ((Base64.encode body).toList ++ '.' :: (Base64.encode tag).toList) := by
    apply String.toList_inj.mp
    simp [tokenOf]
  rw [text, Text.splitOnce_ofList (Base64.dot_notMem_encode body), String.ofList_toList,
    String.ofList_toList]

section Laws

variable {mac : Mac} {codec : BodyCodec}

variable {key : Bytes} {cap : ℕ}

theorem verifiedBody_tokenOf {body tag : Bytes} (fits : Text.len (tokenOf body tag) ≤ cap) :
    verifiedBody mac (tokenOf body tag) key cap =
      if tag = mac.truncated key body then .ok body else .error .badSignature := by
  rw [verifiedBody, if_neg (Nat.not_lt_of_le fits), splitOnce_tokenOf]
  simp only [Base64.decode_encode, tagMatches_iff]

/-- A token that was minted is the wire form of its body and the tag of its key,
and keeps to the cap. -/
theorem finish_eq_ok {body : CompactBody} {token : String}
    (minted : finish mac codec body key cap = .ok token) :
    ∃ text, codec.toText body = .ok text ∧
      token = tokenOf (Utf8.encode text) (mac.truncated key (Utf8.encode text)) ∧
      Text.len token ≤ cap := by
  rw [finish] at minted
  cases written : codec.toText body with
  | error message => simp [written] at minted
  | ok text =>
    simp only [written] at minted
    split at minted
    · cases minted
    · rename_i fits
      cases minted
      exact ⟨text, rfl, rfl, Nat.le_of_not_lt fits⟩

theorem finish_of_fits {body : CompactBody} {text : String} (written : codec.toText body = .ok text)
    (fits : Text.len (tokenOf (Utf8.encode text) (mac.truncated key (Utf8.encode text))) ≤ cap) :
    finish mac codec body key cap =
      .ok (tokenOf (Utf8.encode text) (mac.truncated key (Utf8.encode text))) := by
  rw [finish, written]
  exact if_neg (Nat.not_lt_of_le fits)

theorem len_le_of_finish {body : CompactBody} {token : String}
    (minted : finish mac codec body key cap = .ok token) : Text.len token ≤ cap := by
  obtain ⟨_, _, _, fits⟩ := finish_eq_ok minted
  exact fits

/-- The unbound decoder reads what the bound one does and drops the expiry. -/
theorem decodeWithCap_eq (mac : Mac) (codec : BodyCodec) (token : String) (key : Bytes) (cap : ℕ) :
    decodeWithCap mac codec token key cap =
      (decodeParsed mac codec token key cap).bind fun parsed => .ok (parsed.t, parsed.a) := by
  rw [decodeWithCap, decodeParsed]
  cases verifiedBody mac token key cap with
  | error e => rfl
  | ok body =>
    show (readBody codec body).map _ = (readBody codec body).bind _
    cases readBody codec body <;> rfl

section Mint

variable {tool : String} {args : Value} {key : Bytes} {cap : ℕ} {b : Binding} {token : String}

theorem encodeWithCap_eq_ok (minted : encodeWithCap mac codec tool args key cap = .ok token) :
    tool.isEmpty = false ∧ finish mac codec ⟨tool, args, none⟩ key cap = .ok token := by
  rw [encodeWithCap] at minted
  split at minted
  · cases minted
  · exact ⟨by simp_all, minted⟩

theorem encodeBoundAt_eq_ok {exp : UInt64}
    (minted : encodeBoundAt mac codec tool args key cap b exp = .ok token) :
    tool.isEmpty = false ∧
      finish mac codec ⟨tool, args, some (divCeil exp 3600)⟩ (tenantKey mac key b) cap =
        .ok token := by
  rw [encodeBoundAt] at minted
  split at minted
  · cases minted
  · exact ⟨by simp_all, minted⟩

/-- A bound token has the expiry asked for, or none was asked for. -/
theorem encodeBound_eq_ok {nowSecs ttlSecs : Option UInt64}
    (minted : encodeBound mac codec nowSecs tool args key cap b ttlSecs = .ok token) :
    tool.isEmpty = false ∧ ∃ x,
      finish mac codec ⟨tool, args, x⟩ (tenantKey mac key b) cap = .ok token ∧
        (ttlSecs = none ∧ x = none ∨ ∃ ttl now, ttlSecs = some ttl ∧ nowSecs = some now ∧
          x = some (divCeil (saturatingAdd now ttl) 3600)) := by
  rw [encodeBound.eq_def] at minted
  split at minted
  · cases minted
  · rename_i named
    refine ⟨by simp_all, ?_⟩
    cases ttlSecs with
    | none => exact ⟨none, minted, .inl ⟨rfl, rfl⟩⟩
    | some ttl =>
      cases nowSecs with
      | none => cases minted
      | some now => exact ⟨_, minted, .inr ⟨ttl, now, rfl, rfl, rfl⟩⟩

end Mint

section Ring

variable {α : Type} {verify : Bytes → Except DecodeError α} {answer : Except DecodeError α}
  {e : DecodeError}

/-- A refusal that is not about the body leaves the decision to the other keys. -/
theorem tryKeys_cons_of_early (early : e = .malformed ∨ e = .badSignature) {key : Bytes}
    (refused : verify key = .error e) (keys : List Bytes) (firstError : Option DecodeError) :
    tryKeys verify (key :: keys) firstError = tryKeys verify keys (firstError.or (some e)) := by
  rcases early with rfl | rfl <;> rw [tryKeys, refused]

theorem tryKeys_of_agree (final : ∀ e, answer = .error e → ∃ message, e = .body message)
    (early : e = .malformed ∨ e = .badSignature) {keys : List Bytes}
    (answers : ∀ key ∈ keys, verify key = answer ∨ verify key = .error e)
    (good : ∃ key ∈ keys, verify key = answer) (firstError : Option DecodeError) :
    tryKeys verify keys firstError = answer := by
  induction keys generalizing firstError with
  | nil =>
    obtain ⟨key, listed, _⟩ := good
    cases listed
  | cons key keys ih =>
    rcases answers key List.mem_cons_self with answered | refused
    · rw [tryKeys, answered]
      cases answer with
      | ok v => rfl
      | error e =>
        obtain ⟨message, rfl⟩ := final e rfl
        rfl
    · rw [tryKeys_cons_of_early early refused]
      apply ih (fun other listed => answers other (List.mem_cons_of_mem _ listed))
      obtain ⟨other, listed, answered⟩ := good
      rcases List.mem_cons.mp listed with rfl | listed
      · -- the refusing key is no answer, as that would be about the body
        obtain ⟨message, rfl⟩ := final e (answered.symm.trans refused)
        rcases early with early | early <;> cases early
      · exact ⟨other, listed, answered⟩

/-- Keys that answer alike, or refuse alike before the body, give the ring's answer
as soon as one of them answers. An answer is a success or an error of the body. -/
theorem tryRing_of_agree {ring : KeyRing}
    (final : ∀ e, answer = .error e → ∃ message, e = .body message)
    (early : e = .malformed ∨ e = .badSignature)
    (answers : ∀ key ∈ ring.keys, verify key = answer ∨ verify key = .error e)
    (good : ∃ key ∈ ring.keys, verify key = answer) : tryRing ring verify = answer :=
  tryKeys_of_agree final early answers good none

/-- A refusal all keys share, other than one about the body, is the ring's. -/
theorem tryRing_of_refused {ring : KeyRing} (early : e = .malformed ∨ e = .badSignature)
    (answers : ∀ key ∈ ring.keys, verify key = .error e) : tryRing ring verify = .error e := by
  have later : ∀ keys : List Bytes, (∀ key ∈ keys, verify key = .error e) →
      tryKeys verify keys (some e) = .error e := by
    intro keys
    induction keys with
    | nil => intro _; rfl
    | cons key keys ih =>
      intro answers
      rw [tryKeys_cons_of_early early (answers key List.mem_cons_self)]
      exact ih fun other listed => answers other (List.mem_cons_of_mem _ listed)
  obtain ⟨key, keys, listed⟩ := List.exists_cons_of_ne_nil ring.nonempty
  rw [listed] at answers
  rw [tryRing, listed, tryKeys_cons_of_early early (answers key List.mem_cons_self)]
  exact later keys fun other member => answers other (List.mem_cons_of_mem _ member)

end Ring

end Laws

section Sample

def sampleText : String := "\x7b\"t\":\"narrate\",\"a\":null\x7d"

def sampleTextExpiring : String := "\x7b\"t\":\"narrate\",\"a\":null,\"x\":1\x7d"

/-- The JSON texts of one call, without an expiry and with one. -/
def sampleCodec : BodyCodec where
  toText
    | ⟨"narrate", .null, none⟩ => .ok sampleText
    | ⟨"narrate", .null, some hours⟩ =>
      if hours = 1 then .ok sampleTextExpiring else .error "not a sample"
    | _ => .error "not a sample"
  fromSlice bytes :=
    if bytes = Utf8.encode sampleText then .ok ⟨"narrate", .null, none⟩
    else if bytes = Utf8.encode sampleTextExpiring then .ok ⟨"narrate", .null, some 1⟩
    else .error "not a sample"

def sampleNewKey : Bytes := Utf8.encode "a-new-correlation-key-32-bytes!!"

def sampleOldKey : Bytes := Utf8.encode "an-old-correlation-key-32-bytes!"

/-- A ring in the middle of a rotation. -/
def sampleRing : KeyRing where
  keys := [sampleNewKey, sampleOldKey]
  nonempty := List.cons_ne_nil _ _
  long := by decide +kernel

def sampleBinding : Binding := ⟨"telegram", "acme", "alice"⟩

/-- The JSON text of a single body. -/
def loneCodec (text : String) (body : CompactBody) : BodyCodec where
  toText other := if other.x = body.x then .ok text else .error "another body"
  fromSlice _ := .ok body

end Sample

end Triton.Correlation
