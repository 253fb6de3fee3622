/-
# Bound tokens stay with their binding

Under a keyed hash without collisions, the keys of two bindings differ, and so do
the tags they give one body. A token is then refused for its signature under any
binding but its own. An unbound token is refused under every binding, unless the
key it was minted under is itself a derived one: it then is the bound token.
-/

import Triton.Correlation.Rotation
import Triton.Lib.Regroup

namespace Triton.Correlation

open Triton.Lib

/-- Tags of different keys or messages differ, on the wire as well. -/
structure Mac.CollisionFree (mac : Mac) : Prop where
  full : ∀ {key message key' message'}, mac.full key message = mac.full key' message' →
    key = key' ∧ message = message'
  truncated : ∀ {key message key' message'},
    mac.truncated key message = mac.truncated key' message' → key = key' ∧ message = message'

/-- No component contains a zero byte. -/
structure Binding.NulFree (b : Binding) : Prop where
  platform : 0 ∉ Utf8.encode b.platform
  tenant : 0 ∉ Utf8.encode b.tenant
  sender : 0 ∉ Utf8.encode b.sender

/-- The separators tell the components of a binding apart. -/
theorem derivationInput_inj {b b' : Binding} (clean : b.NulFree) (clean' : b'.NulFree)
    (same : derivationInput b = derivationInput b') : b = b' := by
  have components := List.append_cancel_left same
  rw [List.cons.injEq, Regroup.append_sep_inj 0 clean.platform clean'.platform,
    Regroup.append_sep_inj 0 clean.tenant clean'.tenant, Utf8.encode_inj, Utf8.encode_inj,
    Utf8.encode_inj] at components
  obtain ⟨_, platform, tenant, sender⟩ := components
  cases b
  cases b'
  cases platform
  cases tenant
  cases sender
  rfl

/-- How a token is refused by a decoder none of whose keys made it. -/
def refusal (token : String) (cap : ℕ) : DecodeError :=
  if cap < Text.len token then .malformed else .badSignature

section Confined

variable {mac : Mac} {codec : BodyCodec} {body : CompactBody} {key : Bytes} {cap : ℕ}
  {token : String}

theorem decodeParsed_of_ne (free : mac.CollisionFree)
    (minted : finish mac codec body key cap = .ok token) {other : Bytes} (differ : other ≠ key)
    (cap' : ℕ) : decodeParsed mac codec token other cap' = .error (refusal token cap') := by
  obtain ⟨text, _, rfl, _⟩ := finish_eq_ok minted
  rw [decodeParsed, refusal]
  split
  · rename_i long
    rw [verifiedBody, if_pos long]
    rfl
  · rename_i fits
    have mismatch : mac.truncated key (Utf8.encode text) ≠
        mac.truncated other (Utf8.encode text) := by
      intro same
      exact differ (free.truncated same).1.symm
    rw [verifiedBody_tokenOf (Nat.le_of_not_lt fits), if_neg mismatch]
    rfl

/-- A ring refuses a token that was minted under none of the keys it derives for
the binding. -/
theorem decodeBoundAny_of_ne (free : mac.CollisionFree)
    (minted : finish mac codec body key cap = .ok token) {ring : KeyRing} {b : Binding}
    (differ : ∀ listed ∈ ring.keys, tenantKey mac listed b ≠ key) (clock : Option UInt64)
    (cap' : ℕ) :
    decodeBoundAny mac codec clock token ring cap' b = .error (refusal token cap') := by
  apply tryRing_of_refused
  · rw [refusal]
    split
    · left
      rfl
    · right
      rfl
  · intro listed mem
    rw [decodeBound, decodeParsed_of_ne free minted (differ listed mem)]
    rfl

end Confined

/-- A bound token is refused under any other binding, and an unbound one under every
binding for which its key is not derived from a key on the ring. The refusal is a
signature mismatch whenever the decoder's cap admits the token at all. -/
theorem tokens_confined_to_binding (mac : Mac) (free : mac.CollisionFree) (codec : BodyCodec)
    (ring : KeyRing) (key : Bytes) (tool : String) (args : Value) (cap cap' : ℕ)
    (clock : Option UInt64) (token : String) :
    (∀ b b' : Binding, b.NulFree → b'.NulFree → b ≠ b' →
      ((∃ exp, encodeBoundAt mac codec tool args key cap b exp = .ok token) ∨
        (∃ minted ttl, encodeBound mac codec minted tool args key cap b ttl = .ok token)) →
      decodeBoundAny mac codec clock token ring cap' b' = .error (refusal token cap')) ∧
    (∀ b, (∀ listed ∈ ring.keys, tenantKey mac listed b ≠ key) →
      encodeWithCap mac codec tool args key cap = .ok token →
      decodeBoundAny mac codec clock token ring cap' b = .error (refusal token cap')) := by
  constructor
  · intro b b' clean clean' differ encoded
    obtain ⟨body, minted⟩ : ∃ body,
        finish mac codec body (tenantKey mac key b) cap = .ok token := by
      rcases encoded with ⟨exp, encoded⟩ | ⟨start, ttl, encoded⟩
      · exact ⟨_, (encodeBoundAt_eq_ok encoded).2⟩
      · obtain ⟨_, x, minted, _⟩ := encodeBound_eq_ok encoded
        exact ⟨_, minted⟩
    apply decodeBoundAny_of_ne free minted
    intro listed _ same
    exact differ (derivationInput_inj clean clean' (free.full same).2.symm)
  · intro b underived encoded
    obtain ⟨_, minted⟩ := encodeWithCap_eq_ok encoded
    exact decodeBoundAny_of_ne free minted underived clock cap'

/-- A hash that keeps its key and its message: the key's length, a zero, and both. -/
def pairTag (key message : Bytes) : Bytes := List.replicate key.length 1 ++ 0 :: (key ++ message)

def pairMac : Mac := ⟨pairTag, pairTag⟩

theorem pairTag_inj {key message key' message' : Bytes}
    (same : pairTag key message = pairTag key' message') : key = key' ∧ message = message' := by
  have clean : ∀ n : ℕ, (0 : UInt8) ∉ List.replicate n 1 := by
    intro n mem
    cases List.eq_of_mem_replicate mem
  obtain ⟨lengths, parts⟩ := (Regroup.append_sep_inj 0 (clean _) (clean _)).mp same
  apply List.append_inj parts
  simpa using congrArg List.length lengths

theorem pairMac_collisionFree : pairMac.CollisionFree := ⟨pairTag_inj, pairTag_inj⟩

def sampleBoundToken : String :=
  tokenOf (Utf8.encode sampleTextExpiring)
    (pairTag (tenantKey pairMac sampleOldKey sampleBinding) (Utf8.encode sampleTextExpiring))

def otherSender : Binding := { sampleBinding with sender := "bob" }

theorem other_sender_refused :
    encodeBoundAt pairMac sampleCodec "narrate" .null sampleOldKey 1000 sampleBinding 3600 =
        .ok sampleBoundToken ∧
      decodeBoundAny pairMac sampleCodec (some 0) sampleBoundToken sampleRing 1000 otherSender =
        .error .badSignature := by
  have fits : Text.len sampleBoundToken ≤ 1000 := by
    rw [sampleBoundToken, len_tokenOf]
    decide +kernel
  have encoded : encodeBoundAt pairMac sampleCodec "narrate" .null sampleOldKey 1000
      sampleBinding 3600 = .ok sampleBoundToken := by
    rw [encodeBoundAt, if_neg (by decide)]
    exact finish_of_fits rfl fits
  have confined := (tokens_confined_to_binding pairMac pairMac_collisionFree sampleCodec sampleRing
    sampleOldKey "narrate" .null 1000 1000 (some 0) sampleBoundToken).1 sampleBinding otherSender
    ⟨by decide +kernel, by decide +kernel, by decide +kernel⟩
    ⟨by decide +kernel, by decide +kernel, by decide +kernel⟩ (by decide) (.inl ⟨3600, encoded⟩)
  rw [refusal, if_neg (Nat.not_lt_of_le fits)] at confined
  exact ⟨encoded, confined⟩

/-- A ring on which a derived key stands beside the key it is derived from. -/
def derivedRing : KeyRing where
  keys := [sampleNewKey, tenantKey pairMac sampleNewKey sampleBinding]
  nonempty := List.cons_ne_nil _ _
  long := by decide +kernel

def sampleUnboundToken : String :=
  tokenOf (Utf8.encode sampleText)
    (pairTag (tenantKey pairMac sampleNewKey sampleBinding) (Utf8.encode sampleText))

theorem derived_key_token_accepted :
    pairMac.CollisionFree ∧
      tenantKey pairMac sampleNewKey sampleBinding ∈ derivedRing.keys ∧
      encodeWithCap pairMac sampleCodec "narrate" .null
          (tenantKey pairMac sampleNewKey sampleBinding) 1000 = .ok sampleUnboundToken ∧
      decodeBoundAny pairMac sampleCodec none sampleUnboundToken derivedRing 1000 sampleBinding =
        .ok ("narrate", .null) := by
  have encoded : encodeWithCap pairMac sampleCodec "narrate" .null
      (tenantKey pairMac sampleNewKey sampleBinding) 1000 = .ok sampleUnboundToken := by
    have fits : Text.len sampleUnboundToken ≤ 1000 := by
      rw [sampleUnboundToken, len_tokenOf]
      decide +kernel
    rw [encodeWithCap, if_neg (by decide)]
    exact finish_of_fits rfl fits
  obtain ⟨named, minted⟩ := encodeWithCap_eq_ok encoded
  refine ⟨pairMac_collisionFree, by simp [derivedRing], encoded, ?_⟩
  exact decodeBoundAny_minted sampleCodec_inverts named minted (by simp [derivedRing]) none

end Triton.Correlation
