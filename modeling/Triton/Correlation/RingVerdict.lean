/-
# What a ring says about a token

A decoder first looks at the shape of a token, then at its tag, and only then at
its body. The shape and the body are the same for every key; the keys of a ring can
only differ in whether the tag passes. So the ring accepts what one of its keys
accepts, and otherwise its error is the one of a key that got furthest.
-/

import Triton.Correlation.Rotation

namespace Triton.Correlation

open Triton.Lib

/-- A token of the right form: within the cap, with two parts in Base64. -/
def WellShaped (token : String) (cap : ℕ) : Prop :=
  Text.len token ≤ cap ∧ ∃ body tag, Text.splitOnce '.' token = some (body, tag) ∧
    (Base64.decode body).isSome = true ∧ (Base64.decode tag).isSome = true

/-- The tag of the token is the one of this key. -/
def TagPasses (mac : Mac) (token : String) (key : Bytes) (cap : ℕ) : Prop :=
  ∃ body, verifiedBody mac token key cap = .ok body

/-- What a ring answers, against what its keys answer alone. `passes` are the keys
whose tag passes. -/
structure Informative {α : Type} (ring : KeyRing) (alone : Bytes → Except DecodeError α)
    (passes : Bytes → Prop) (shaped : Prop) (answer : Except DecodeError α) : Prop where
  passes_iff : ∀ key, passes key ↔
    (∃ call, alone key = .ok call) ∨ ∃ message, alone key = .error (.body message)
  accepted : ∀ call, answer = .ok call ↔ ∃ key ∈ ring.keys, alone key = .ok call
  body : (∀ key ∈ ring.keys, ∀ call, alone key ≠ .ok call) →
    ∀ key ∈ ring.keys, ∀ message, alone key = .error (.body message) →
      answer = .error (.body message)
  badSignature : (∀ key ∈ ring.keys, ¬ passes key) → shaped → answer = .error .badSignature
  malformed : (∀ key ∈ ring.keys, ¬ passes key) → ¬ shaped → answer = .error .malformed

section Verdict

variable {mac : Mac} {token : String} {cap : ℕ}

theorem verifiedBody_of_unshaped (unshaped : ¬ WellShaped token cap) (key : Bytes) :
    verifiedBody mac token key cap = .error .malformed := by
  unfold verifiedBody
  split
  case isTrue => rfl
  case isFalse fits =>
    split
    case h_1 => rfl
    case h_2 bodyPart tagPart cut =>
      split
      case h_1 body tag bodyBytes tagBytes =>
        exact absurd ⟨Nat.le_of_not_lt fits, bodyPart, tagPart, cut, by simp [bodyBytes],
          by simp [tagBytes]⟩ unshaped
      case h_2 => rfl

/-- How a token is refused before its body is read: by its shape, or by its tag. -/
inductive Early (shaped : Prop) : DecodeError → Prop
  | badSignature (holds : shaped) : Early shaped .badSignature
  | malformed (fails : ¬ shaped) : Early shaped .malformed

theorem Early.cases {shaped : Prop} {e : DecodeError} (early : Early shaped e) :
    e = .malformed ∨ e = .badSignature := by
  cases early with
  | badSignature => exact .inr rfl
  | malformed => exact .inl rfl

/-- The keys share the body, and they share the refusal. -/
theorem verifiedBody_agree (mac : Mac) (token : String) (cap : ℕ) :
    ∃ body e, Early (WellShaped token cap) e ∧
      ∀ key, verifiedBody mac token key cap = .ok body ∨
        verifiedBody mac token key cap = .error e := by
  by_cases shaped : WellShaped token cap
  · have ⟨fits, bodyPart, tagPart, cut, bodyRead, tagRead⟩ := shaped
    obtain ⟨body, bodyBytes⟩ := Option.isSome_iff_exists.mp bodyRead
    obtain ⟨tag, tagBytes⟩ := Option.isSome_iff_exists.mp tagRead
    refine ⟨body, .badSignature, .badSignature shaped, fun key => ?_⟩
    rw [verifiedBody, if_neg (Nat.not_lt_of_le fits), cut]
    simp only [bodyBytes, tagBytes]
    split
    · left
      rfl
    · right
      rfl
  · exact ⟨[], .malformed, .malformed shaped, fun key => .inr (verifiedBody_of_unshaped shaped key)⟩

end Verdict

section Ring

variable {α : Type} {ring : KeyRing} {alone : Bytes → Except DecodeError α}
  {passes : Bytes → Prop} {shaped : Prop} {common : Except DecodeError α} {e : DecodeError}

theorem passes_iff_of_agree (early : Early shaped e)
    (final : ∀ e, common = .error e → ∃ message, e = .body message)
    (passed : ∀ key, passes key → alone key = common)
    (failed : ∀ key, ¬ passes key → alone key = .error e) (key : Bytes) :
    passes key ↔
      (∃ call, alone key = .ok call) ∨ ∃ message, alone key = .error (.body message) := by
  constructor
  · intro here
    rw [passed key here]
    cases answer : common with
    | ok call => exact .inl ⟨call, rfl⟩
    | error e =>
      obtain ⟨message, rfl⟩ := final e answer
      exact .inr ⟨message, rfl⟩
  · intro got
    by_contra fails
    rw [failed key fails] at got
    cases early <;> simp at got

/-- A ring is informative when its keys share one answer and one early refusal. -/
theorem Informative.of_agree (early : Early shaped e)
    (final : ∀ e, common = .error e → ∃ message, e = .body message)
    (passed : ∀ key, passes key → alone key = common)
    (failed : ∀ key, ¬ passes key → alone key = .error e) :
    Informative ring alone passes shaped (tryRing ring alone) := by
  have passesIff := passes_iff_of_agree early final passed failed
  have refused : (∀ key ∈ ring.keys, ¬ passes key) → tryRing ring alone = .error e :=
    fun none => tryRing_of_refused early.cases fun key listed => failed key (none key listed)
  have answered : ∀ key ∈ ring.keys, passes key → tryRing ring alone = alone key := by
    intro key listed here
    rw [passed key here]
    apply tryRing_of_agree final early.cases
    · intro other _
      by_cases there : passes other
      · exact .inl (passed other there)
      · exact .inr (failed other there)
    · exact ⟨key, listed, passed key here⟩
  refine ⟨passesIff, fun call => ⟨fun got => ?_, ?_⟩, fun _ key listed message given => ?_,
    fun none holds => ?_, fun none fails => ?_⟩
  · by_contra nobody
    have none : ∀ key ∈ ring.keys, ¬ passes key := by
      intro key listed here
      exact nobody ⟨key, listed, (answered key listed here).symm.trans got⟩
    rw [refused none] at got
    cases got
  · rintro ⟨key, listed, got⟩
    rw [answered key listed ((passesIff key).mpr (.inl ⟨call, got⟩)), got]
  · rw [answered key listed ((passesIff key).mpr (.inr ⟨message, given⟩)), given]
  · rw [refused none]
    cases early with
    | badSignature => rfl
    | malformed unshaped => exact absurd holds unshaped
  · rw [refused none]
    cases early with
    | badSignature shaped => exact absurd shaped fails
    | malformed => rfl

end Ring

/-- A decoder that reads the body of a token whose tag passes gives a call, or an error
about the body. -/
theorem informative_tryRing {α : Type} (mac : Mac) (token : String) (cap : ℕ) (ring : KeyRing)
    (derive : Bytes → Bytes) (read : Bytes → Except DecodeError α)
    (final : ∀ body e, read body = .error e → ∃ message, e = .body message) :
    Informative ring (fun key => (verifiedBody mac token (derive key) cap).bind read)
      (fun key => TagPasses mac token (derive key) cap) (WellShaped token cap)
      (tryRing ring fun key => (verifiedBody mac token (derive key) cap).bind read) := by
  obtain ⟨body, e, early, agree⟩ := verifiedBody_agree mac token cap
  apply Informative.of_agree early (final body)
  · rintro key ⟨other, taken⟩
    rcases agree (derive key) with same | refused
    · rw [same]
      rfl
    · rw [taken] at refused
      cases refused
  · intro key fails
    rcases agree (derive key) with taken | refused
    · exact absurd ⟨body, taken⟩ fails
    · rw [refused]
      rfl

theorem readBody_final {codec : BodyCodec} {body : Bytes} {e : DecodeError}
    (refused : readBody codec body = .error e) : ∃ message, e = .body message := by
  unfold readBody at refused
  split at refused
  · cases refused
    exact ⟨_, rfl⟩
  · split at refused
    · cases refused
      exact ⟨_, rfl⟩
    · cases refused

/-- The ring accepts a token exactly when one of its keys alone does, and gives what that
key gives. Otherwise the error about the body is passed on, if a tag passed, and
the shape decides if none did. -/
theorem ring_reports_informative_error (mac : Mac) (codec : BodyCodec) (clock : Option UInt64)
    (token : String) (ring : KeyRing) (cap : ℕ) (b : Binding) :
    Informative ring (fun key => decodeBound mac codec clock token key cap b)
        (fun key => TagPasses mac token (tenantKey mac key b) cap) (WellShaped token cap)
        (decodeBoundAny mac codec clock token ring cap b) ∧
      Informative ring (fun key => decodeWithCap mac codec token key cap)
        (fun key => TagPasses mac token key cap) (WellShaped token cap)
        (decodeWithCapAny mac codec token ring cap) := by
  constructor
  · have whole : ∀ key, decodeBound mac codec clock token key cap b =
        (verifiedBody mac token (tenantKey mac key b) cap).bind fun body =>
          (readBody codec body).bind (checkExpiry clock) := by
      intro key
      rw [decodeBound, decodeParsed]
      cases verifiedBody mac token (tenantKey mac key b) cap <;> rfl
    simp only [decodeBoundAny, whole]
    apply informative_tryRing
    intro body e refused
    cases got : readBody codec body with
    | error _ =>
      rw [got] at refused
      cases refused
      exact readBody_final got
    | ok parsed =>
      rw [got] at refused
      exact checkExpiry_final refused
  · apply informative_tryRing mac token cap ring id
    intro body e refused
    cases got : readBody codec body with
    | error _ =>
      rw [got] at refused
      cases refused
      exact readBody_final got
    | ok parsed =>
      rw [got] at refused
      cases refused

end Triton.Correlation
