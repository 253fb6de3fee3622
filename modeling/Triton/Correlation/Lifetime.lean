/-
# How long a token lives

The expiry of a bound token is kept in whole hours, rounded up. The token is good
up to the second that was asked for, and at most to the end of that hour. Both
the rounding and the way back stop at the top of the clock's range instead of
wrapping around, so the verdict is the one that unbounded numbers would give.
-/

import Triton.Correlation.Rotation

namespace Triton.Correlation

open Triton.Lib

section Lifetime

variable {mac : Mac} {codec : BodyCodec} {tool : String} {args back : Value} {x : Option UInt64}
  {key : Bytes} {cap : ℕ} {b : Binding} {token : String}

/-- Under the key and the binding it was minted for, only the expiry decides about a
token. -/
theorem decodeBound_minted (rereads : codec.Rereads tool args back) (named : tool.isEmpty = false)
    (minted : finish mac codec ⟨tool, args, x⟩ (tenantKey mac key b) cap = .ok token)
    (clock : Option UInt64) :
    decodeBound mac codec clock token key cap b = checkExpiry clock ⟨tool, back, x⟩ := by
  have parsed : decodeParsed mac codec token (tenantKey mac key b) cap = .ok ⟨tool, back, x⟩ := by
    rcases decodeParsed_minted rereads named minted (tenantKey mac key b) with read | refused
    · exact read
    · exact absurd rfl refused.2
  rw [decodeBound, parsed]
  rfl

theorem checkExpiry_hours (exp now : UInt64) :
    checkExpiry (some now) ⟨tool, args, some (divCeil exp 3600)⟩ =
      if roundedUp exp.toNat < now.toNat then .error (.body "token expired")
      else .ok (tool, args) := by
  show (if saturatingMul (divCeil exp 3600) 3600 < now then _ else _) = _
  simp only [hours_lt_iff]

end Lifetime

/-- A call that a decoder gives back up to a second, and refuses as expired after the
whole hour that follows it. The last field leaves no reading of the clock out, and its
sums and products are those of the natural numbers. -/
structure LivesTo (decode : UInt64 → Except DecodeError (String × Value))
    (call : String × Value) (exp : ℕ) : Prop where
  accepted : ∀ now, now.toNat ≤ exp → decode now = .ok call
  expired : ∀ now, roundedUp exp < now.toNat → decode now = .error (.body "token expired")
  decided : ∀ now, decode now =
    if roundedUp exp < now.toNat then .error (.body "token expired") else .ok call

theorem LivesTo.of_decided {decode : UInt64 → Except DecodeError (String × Value)}
    {call : String × Value} {exp : ℕ}
    (decided : ∀ now, decode now =
      if roundedUp exp < now.toNat then .error (.body "token expired") else .ok call) :
    LivesTo decode call exp where
  accepted now inTime := by
    have later := (roundedUp_spec exp).2.1
    rw [decided, if_neg (by omega)]
  expired now late := by rw [decided, if_pos late]
  decided := decided

/-- A token with an expiry lives to the second that was asked for, absolute or from
now on, and not past the hour that second is in. Its arguments are what JSON gives back
for those that were signed, which differ in a double that is read inexactly. -/
theorem token_lives_to_the_hour (mac : Mac) (codec : BodyCodec) (tool : String)
    (args back : Value) (rereads : codec.Rereads tool args back) (key : Bytes) (b : Binding)
    (cap : ℕ) (token : String) :
    (∀ exp : UInt64, encodeBoundAt mac codec tool args key cap b exp = .ok token →
      LivesTo (fun now => decodeBound mac codec (some now) token key cap b) (tool, back)
        exp.toNat) ∧
    ∀ clock ttl, encodeBound mac codec clock tool args key cap b (some ttl) = .ok token →
      ∃ start, clock = some start ∧
        LivesTo (fun now => decodeBound mac codec (some now) token key cap b) (tool, back)
          (min (start.toNat + ttl.toNat) (UInt64.size - 1)) := by
  constructor
  · intro exp encoded
    obtain ⟨named, minted⟩ := encodeBoundAt_eq_ok encoded
    apply LivesTo.of_decided
    intro now
    rw [decodeBound_minted rereads named minted, checkExpiry_hours]
  · intro clock ttl encoded
    obtain ⟨named, x, minted, ⟨unlimited, _⟩ | ⟨ttl', start, asked, reading, rfl⟩⟩ :=
      encodeBound_eq_ok encoded
    · cases unlimited
    · cases asked
      refine ⟨start, reading, LivesTo.of_decided ?_⟩
      intro now
      rw [decodeBound_minted rereads named minted, checkExpiry_hours, toNat_saturatingAdd]

/-- A token for the end of the first hour is good at that second and expired a second
later. -/
theorem sample_token_lives_one_hour :
    encodeBoundAt sampleMac sampleCodec "narrate" .null sampleOldKey 64 sampleBinding 3600 =
        .ok sampleToken ∧
      decodeBound sampleMac sampleCodec (some 3600) sampleToken sampleOldKey 64 sampleBinding =
        .ok ("narrate", .null) ∧
      decodeBound sampleMac sampleCodec (some 3601) sampleToken sampleOldKey 64 sampleBinding =
        .error (.body "token expired") := by
  have lives := (token_lives_to_the_hour sampleMac sampleCodec "narrate" .null .null
    sampleCodec_inverts sampleOldKey sampleBinding 64 sampleToken).1 3600 encodeBoundAt_sample
  exact ⟨encodeBoundAt_sample, lives.accepted 3600 (by decide), lives.expired 3601 (by decide)⟩

end Triton.Correlation
