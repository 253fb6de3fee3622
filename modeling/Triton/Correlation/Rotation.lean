/-
# Tokens survive a key rotation

A token minted under any key that is still on the ring is redeemed for the call it
was minted for, wherever on the ring the key stands. Another key may verify the
same token when truncated tags collide; it then reads the same body.
-/

import Triton.Correlation.Token

namespace Triton.Correlation

open Triton.Lib

/-- The reader inverts the writer on the bodies of one call. -/
def BodyCodec.Inverts (codec : BodyCodec) (tool : String) (args : Value) : Prop :=
  ∀ x text, codec.toText ⟨tool, args, x⟩ = .ok text →
    codec.fromSlice (Utf8.encode text) = .ok ⟨tool, args, x⟩

/-- The reader finds the tool and the expiry of one call again, and `back` for its
arguments. -/
def BodyCodec.Rereads (codec : BodyCodec) (tool : String) (args back : Value) : Prop :=
  ∀ x text, codec.toText ⟨tool, args, x⟩ = .ok text →
    codec.fromSlice (Utf8.encode text) = .ok ⟨tool, back, x⟩

section Rotation

variable {mac : Mac} {codec : BodyCodec} {tool : String} {args back : Value} {x : Option UInt64}
  {key : Bytes} {cap : ℕ} {token : String}

/-- Under its own cap, a minted token reads back under every key whose tag agrees,
and fails the signature under every other. -/
theorem decodeParsed_minted (rereads : codec.Rereads tool args back) (named : tool.isEmpty = false)
    (minted : finish mac codec ⟨tool, args, x⟩ key cap = .ok token) (other : Bytes) :
    decodeParsed mac codec token other cap = .ok ⟨tool, back, x⟩ ∨
      decodeParsed mac codec token other cap = .error .badSignature ∧ other ≠ key := by
  obtain ⟨text, written, rfl, fits⟩ := finish_eq_ok minted
  have read : readBody codec (Utf8.encode text) = .ok ⟨tool, back, x⟩ := by
    rw [readBody, rereads x text written]
    simp [named]
  rw [decodeParsed, verifiedBody_tokenOf fits]
  split
  · left
    exact read
  · rename_i differ
    right
    constructor
    · rfl
    · intro same
      exact differ (same ▸ rfl)

/-- The ring answers for a minted token what reading its body answers, whichever of
its keys minted it and however the keys are derived from those on the ring. -/
theorem tryRing_minted {ring : KeyRing} (derive : Bytes → Bytes)
    (read : CompactBody → Except DecodeError (String × Value))
    (final : ∀ e, read ⟨tool, args, x⟩ = .error e → ∃ message, e = .body message)
    (inverts : codec.Inverts tool args) (named : tool.isEmpty = false)
    (minted : finish mac codec ⟨tool, args, x⟩ (derive key) cap = .ok token)
    (listed : key ∈ ring.keys) :
    tryRing ring (fun other => (decodeParsed mac codec token (derive other) cap).bind read) =
      read ⟨tool, args, x⟩ := by
  have answer : ∀ other,
      (decodeParsed mac codec token (derive other) cap).bind read = read ⟨tool, args, x⟩ ∨
        (decodeParsed mac codec token (derive other) cap).bind read = .error .badSignature ∧
          derive other ≠ derive key := by
    intro other
    rcases decodeParsed_minted inverts named minted (derive other) with accepted | refused
    · left
      rw [accepted]
      rfl
    · right
      rw [refused.1]
      exact ⟨rfl, refused.2⟩
  apply tryRing_of_agree final (.inr rfl)
  · intro other _
    exact (answer other).imp_right And.left
  · exact ⟨key, listed, (answer key).resolve_right fun refused => refused.2 rfl⟩

theorem checkExpiry_final {clock : Option UInt64} {parsed : CompactBody} {e : DecodeError}
    (refused : checkExpiry clock parsed = .error e) : ∃ message, e = .body message := by
  rw [checkExpiry.eq_def] at refused
  split at refused
  · cases refused
    exact ⟨_, rfl⟩
  · split at refused
    · cases refused
      exact ⟨_, rfl⟩
    · cases refused
  · cases refused

/-- Under its own binding, only the expiry decides about a minted token. -/
theorem decodeBoundAny_minted {ring : KeyRing} {b : Binding} (inverts : codec.Inverts tool args)
    (named : tool.isEmpty = false)
    (minted : finish mac codec ⟨tool, args, x⟩ (tenantKey mac key b) cap = .ok token)
    (listed : key ∈ ring.keys) (clock : Option UInt64) :
    decodeBoundAny mac codec clock token ring cap b = checkExpiry clock ⟨tool, args, x⟩ :=
  tryRing_minted (tenantKey mac · b) (checkExpiry clock) (fun _ => checkExpiry_final) inverts named
    minted listed

theorem decodeWithCapAny_minted {ring : KeyRing} (inverts : codec.Inverts tool args)
    (named : tool.isEmpty = false)
    (minted : finish mac codec ⟨tool, args, x⟩ key cap = .ok token) (listed : key ∈ ring.keys) :
    decodeWithCapAny mac codec token ring cap = .ok (tool, args) := by
  simp only [decodeWithCapAny, decodeWithCap_eq]
  apply tryRing_minted id (fun parsed => .ok (parsed.t, parsed.a)) _ inverts named minted listed
  intro e refused
  cases refused

theorem checkExpiry_of_le {now hours : UInt64} (inTime : now ≤ saturatingMul hours 3600) :
    checkExpiry (some now) ⟨tool, args, some hours⟩ = .ok (tool, args) :=
  if_neg (UInt64.not_lt.mpr inTime)

end Rotation

/-- What is minted keeps to the cap and is redeemed for exactly its call: at any
time from the epoch to the expiry asked for, and at any reading of the clock when
there is no expiry. -/
theorem minted_tokens_redeem (mac : Mac) (codec : BodyCodec) (tool : String) (args : Value)
    (inverts : codec.Inverts tool args) (ring : KeyRing) (key : Bytes) (listed : key ∈ ring.keys)
    (b : Binding) (cap : ℕ) (token : String) :
    (∀ exp, encodeBoundAt mac codec tool args key cap b exp = .ok token →
      Text.len token ≤ cap ∧ ∀ now ≤ exp,
        decodeBoundAny mac codec (some now) token ring cap b = .ok (tool, args)) ∧
    (∀ clock ttl, encodeBound mac codec clock tool args key cap b (some ttl) = .ok token →
      Text.len token ≤ cap ∧ ∃ minted, clock = some minted ∧
        ∀ now : UInt64, now.toNat ≤ minted.toNat + ttl.toNat →
          decodeBoundAny mac codec (some now) token ring cap b = .ok (tool, args)) ∧
    (∀ clock, encodeBound mac codec clock tool args key cap b none = .ok token →
      Text.len token ≤ cap ∧ ∀ later,
        decodeBoundAny mac codec later token ring cap b = .ok (tool, args)) ∧
    (encodeWithCap mac codec tool args key cap = .ok token →
      Text.len token ≤ cap ∧ decodeWithCapAny mac codec token ring cap = .ok (tool, args)) := by
  constructor
  · intro exp encoded
    obtain ⟨named, minted⟩ := encodeBoundAt_eq_ok encoded
    constructor
    · exact len_le_of_finish minted
    · intro now inTime
      rw [decodeBoundAny_minted inverts named minted listed]
      exact checkExpiry_of_le (UInt64.le_trans inTime (le_hours exp))
  constructor
  · intro clock ttl encoded
    obtain ⟨named, x, minted, ⟨unlimited, _⟩ | ⟨ttl', start, asked, reading, rfl⟩⟩ :=
      encodeBound_eq_ok encoded
    · cases unlimited
    · cases asked
      refine ⟨len_le_of_finish minted, start, reading, ?_⟩
      intro now inTime
      rw [decodeBoundAny_minted inverts named minted listed]
      exact checkExpiry_of_le (UInt64.le_trans (le_saturatingAdd inTime) (le_hours _))
  constructor
  · intro clock encoded
    obtain ⟨named, x, minted, ⟨_, rfl⟩ | ⟨ttl, start, asked, _⟩⟩ := encodeBound_eq_ok encoded
    · constructor
      · exact len_le_of_finish minted
      · intro later
        exact decodeBoundAny_minted inverts named minted listed later
    · cases asked
  · intro encoded
    obtain ⟨named, minted⟩ := encodeWithCap_eq_ok encoded
    exact ⟨len_le_of_finish minted, decodeWithCapAny_minted inverts named minted listed⟩

theorem sampleCodec_inverts : sampleCodec.Inverts "narrate" .null := by
  intro x text written
  have different : Utf8.encode sampleTextExpiring ≠ Utf8.encode sampleText := by decide +kernel
  cases x with
  | none =>
    cases written
    simp [sampleCodec]
  | some hours =>
    by_cases one : hours = 1
    · cases one
      cases written
      simp [sampleCodec, different]
    · exact absurd written (by simp [sampleCodec, one])

theorem loneCodec_inverts (text : String) (body : CompactBody) :
    (loneCodec text body).Inverts body.t body.a := by
  intro x other written
  by_cases same : x = body.x
  · subst same
    rfl
  · simp [loneCodec, same] at written

/-- The tag of the sample hash does not depend on the key, so every key verifies. -/
def sampleMac : Mac := .ofHmac fun _ _ => Vector.replicate 32 7

def sampleToken : String :=
  tokenOf (Utf8.encode sampleTextExpiring) (List.replicate 8 7)

theorem encodeBoundAt_sample :
    encodeBoundAt sampleMac sampleCodec "narrate" .null sampleOldKey 64 sampleBinding 3600 =
      .ok sampleToken := by
  have fits : Text.len sampleToken ≤ 64 := by
    rw [sampleToken, len_tokenOf]
    decide +kernel
  rw [encodeBoundAt, if_neg (by decide)]
  exact finish_of_fits rfl fits

theorem old_key_token_redeems :
    encodeBoundAt sampleMac sampleCodec "narrate" .null sampleOldKey 64 sampleBinding 3600 =
        .ok sampleToken ∧
      decodeBoundAny sampleMac sampleCodec (some 3600) sampleToken sampleRing 64 sampleBinding =
        .ok ("narrate", .null) := by
  have redeems := minted_tokens_redeem sampleMac sampleCodec "narrate" .null sampleCodec_inverts
    sampleRing sampleOldKey (by simp [sampleRing]) sampleBinding 64 sampleToken
  exact ⟨encodeBoundAt_sample,
    (redeems.1 3600 encodeBoundAt_sample).2 3600 (UInt64.le_refl _)⟩

/-- A clock that stands before the epoch redeems no token that has an expiry. -/
theorem clock_before_epoch_redeems_nothing :
    encodeBoundAt sampleMac sampleCodec "narrate" .null sampleOldKey 64 sampleBinding 3600 =
        .ok sampleToken ∧
      decodeBoundAny sampleMac sampleCodec none sampleToken sampleRing 64 sampleBinding =
        .error (.body "system clock before the epoch; cannot check expiry") := by
  obtain ⟨named, minted⟩ := encodeBoundAt_eq_ok encodeBoundAt_sample
  exact ⟨encodeBoundAt_sample, decodeBoundAny_minted sampleCodec_inverts named minted
    (by simp [sampleRing]) none⟩

end Triton.Correlation
