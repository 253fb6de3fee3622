/-
# Sealed conversation references

An adapter seals where a turn came from into a token of its own and hands it out
with the turn; a later proactive send brings it back. Both adapters seal with the
signing key of their ring. The Google Chat adapter opens a seal with any key of
the ring, the Teams adapter with the signing key alone: its references open after
a rotation only if the tag of the new signing key happens to agree.
-/

import Triton.Core.Error
import Triton.Correlation.Confined

namespace Triton.Chat

open Triton.Lib Triton.Core Triton.Correlation

def conversationRefMarker : String := "__conversation_ref"

def conversationRefCap : ℕ := 4096

section Seal

variable (mac : Mac) (codec : BodyCodec)

/-- Seal a payload for a channel. A payload too long for the cap leaves an empty
seal. -/
def sealReference (channel : String) (payload : Value) (ring : KeyRing) : Value :=
  let sealed :=
    match encodeWithCap mac codec conversationRefMarker payload ring.signing conversationRefCap with
    | .ok token => token
    | .error _ => ""
  .object [("channel", .string channel), ("ref", .string sealed)]

/-- Open the seal of a request's reference, with the three refusals of the
adapter: no seal, a seal that does not verify, a token that is no reference. -/
def openReference (decode : String → Except DecodeError (String × Value))
    (missing invalid unmarked : TritonError) (reference : Option Value) :
    Except TritonError Value :=
  match (reference.bind (·.get "ref")).bind Value.asStr with
  | none => .error missing
  | some sealed =>
    match decode sealed with
    | .error _ => .error invalid
    | .ok (marker, payload) =>
      if marker = conversationRefMarker then .ok payload else .error unmarked

end Seal

/-! ## Teams -/

/-- What an out-of-band send needs to reach a Teams conversation again. -/
structure TeamsConversationRef where
  serviceUrl : String
  conversationId : String
  botId : String
  userId : String
  tenantId : String
  deriving DecidableEq, Repr

namespace TeamsConversationRef

/-- What is sealed, in key order. -/
def payload (r : TeamsConversationRef) : Value :=
  .object
    [("bot_id", .string r.botId), ("conversation_id", .string r.conversationId),
      ("service_url", .string r.serviceUrl), ("tenant_id", .string r.tenantId),
      ("user_id", .string r.userId)]

/-- A member that may be missing but not be anything but a text. -/
def optionalText (v : Value) (key : String) : Option String :=
  match v.get key with
  | none => some ""
  | some member => member.asStr

/-- Read a payload; the ids of the bot and of the user may be missing. A record
may also be written as the sequence of its fields. -/
def ofValue : Value → Option TeamsConversationRef
  | .array [.string serviceUrl, .string conversationId, .string botId, .string userId,
      .string tenantId] => some ⟨serviceUrl, conversationId, botId, userId, tenantId⟩
  | .object members => do
      let v := Value.object members
      let serviceUrl ← (v.get "service_url").bind Value.asStr
      let conversationId ← (v.get "conversation_id").bind Value.asStr
      let botId ← optionalText v "bot_id"
      let userId ← optionalText v "user_id"
      let tenantId ← (v.get "tenant_id").bind Value.asStr
      return ⟨serviceUrl, conversationId, botId, userId, tenantId⟩
  | _ => none

theorem ofValue_payload (r : TeamsConversationRef) : ofValue r.payload = some r := by
  simp [payload, ofValue, optionalText, Value.get, Members.get, List.lookup_cons, Value.asStr]

end TeamsConversationRef

namespace Msteams

variable (mac : Mac) (codec : BodyCodec)

def conversationReferenceJson (r : TeamsConversationRef) (ring : KeyRing) : Value :=
  sealReference mac codec "msteams" r.payload ring

/-- Open a sealed reference under the signing key. `describe` words what is wrong
with a payload that cannot be read. -/
def openSealedReference (describe : Value → String) (ring : KeyRing) (reference : Option Value) :
    Except TritonError TeamsConversationRef := do
  let payload ← openReference
    (fun sealed => decodeWithCap mac codec sealed ring.signing conversationRefCap)
    (.validation ("msteams outbound requires a sealed `reference.ref` minted by this adapter on "
      ++ "the inbound turn"))
    (.forbidden "msteams conversationReference seal is invalid")
    (.forbidden "sealed token is not a conversationReference") reference
  match TeamsConversationRef.ofValue payload with
  | some r => .ok r
  | none => .error (.validation s!"malformed sealed reference: {describe payload}")

end Msteams

/-! ## Google Chat -/

structure GoogleChatConversationRef where
  space : String
  thread : String
  sender : String
  tenantId : String
  deriving DecidableEq, Repr

namespace GoogleChatConversationRef

def payload (r : GoogleChatConversationRef) : Value :=
  .object
    [("sender", .string r.sender), ("space", .string r.space), ("tenant_id", .string r.tenantId),
      ("thread", .string r.thread)]

def ofValue : Value → Option GoogleChatConversationRef
  | .array [.string space, .string thread, .string sender, .string tenantId] =>
    some ⟨space, thread, sender, tenantId⟩
  | .object members => do
      let v := Value.object members
      let space ← (v.get "space").bind Value.asStr
      let thread ← (v.get "thread").bind Value.asStr
      let sender ← (v.get "sender").bind Value.asStr
      let tenantId ← (v.get "tenant_id").bind Value.asStr
      return ⟨space, thread, sender, tenantId⟩
  | _ => none

theorem ofValue_payload (r : GoogleChatConversationRef) : ofValue r.payload = some r := by
  simp [payload, ofValue, Value.get, Members.get, List.lookup_cons, Value.asStr]

/-- The shape of a reference to a Google Chat space. -/
def wellShaped (r : GoogleChatConversationRef) : Bool :=
  Text.startsWith r.space "spaces/" &&
    (r.thread.isEmpty || Text.startsWith r.thread (r.space ++ "/threads/")) &&
    Text.startsWith r.sender "users/" && !r.tenantId.isEmpty

end GoogleChatConversationRef

namespace Googlechat

variable (mac : Mac) (codec : BodyCodec)

def conversationReferenceJson (r : GoogleChatConversationRef) (ring : KeyRing) : Value :=
  sealReference mac codec "googlechat" r.payload ring

/-- Open a sealed reference under any key of the ring. -/
def openSealedReference (ring : KeyRing) (reference : Option Value) :
    Except TritonError GoogleChatConversationRef := do
  let payload ← openReference
    (fun sealed => decodeWithCapAny mac codec sealed ring conversationRefCap)
    (.forbidden "googlechat outbound requires an inbound sealed reference")
    (.forbidden "googlechat conversation reference seal is invalid")
    (.forbidden "sealed token is not a conversation reference") reference
  match GoogleChatConversationRef.ofValue payload with
  | none => .error (.forbidden "malformed sealed reference")
  | some r =>
    if r.wellShaped then .ok r else .error (.forbidden "malformed sealed reference")

end Googlechat

/-! ## What opens after a rotation -/

/-- The sealing key and the other key put the same tag on the sealed payload. -/
def SameTag (mac : Mac) (codec : BodyCodec) (payload : Value) (key other : Bytes) : Prop :=
  ∀ text, codec.toText ⟨conversationRefMarker, payload, none⟩ = .ok text →
    mac.truncated key (Utf8.encode text) = mac.truncated other (Utf8.encode text)

section Reopen

variable {mac : Mac} {codec : BodyCodec} {payload : Value} {minting ring : KeyRing} {token : String}

theorem openReference_seal {decode : String → Except DecodeError (String × Value)}
    (minted : encodeWithCap mac codec conversationRefMarker payload minting.signing
      conversationRefCap = .ok token)
    (channel : String) (missing invalid unmarked : TritonError) :
    openReference decode missing invalid unmarked
        (some (sealReference mac codec channel payload minting)) =
      match decode token with
      | .error _ => .error invalid
      | .ok (marker, payload) =>
        if marker = conversationRefMarker then .ok payload else .error unmarked := by
  simp [openReference, sealReference, minted, Value.get, Members.get, List.lookup_cons, Value.asStr]

/-- A single key opens a seal exactly when its tag is the one on the seal. -/
theorem decodeWithCap_minted (inverts : codec.Inverts conversationRefMarker payload)
    (minted : encodeWithCap mac codec conversationRefMarker payload minting.signing
      conversationRefCap = .ok token) (key : Bytes) :
    (SameTag mac codec payload minting.signing key ∧
        decodeWithCap mac codec token key conversationRefCap =
          .ok (conversationRefMarker, payload)) ∨
      ¬ SameTag mac codec payload minting.signing key ∧
        decodeWithCap mac codec token key conversationRefCap = .error .badSignature := by
  obtain ⟨named, finished⟩ := encodeWithCap_eq_ok minted
  obtain ⟨text, written, rfl, fits⟩ := finish_eq_ok finished
  have read : readBody codec (Utf8.encode text) = .ok ⟨conversationRefMarker, payload, none⟩ := by
    rw [readBody, inverts none text written]
    simp [named]
  by_cases same : mac.truncated minting.signing (Utf8.encode text) =
      mac.truncated key (Utf8.encode text)
  · left
    refine ⟨fun other again => ?_, ?_⟩
    · rw [written] at again
      cases again
      exact same
    · rw [decodeWithCap, verifiedBody_tokenOf fits, if_pos same]
      show (readBody codec (Utf8.encode text)).map _ = _
      rw [read]
      rfl
  · right
    refine ⟨fun all => same (all text written), ?_⟩
    rw [decodeWithCap, verifiedBody_tokenOf fits, if_neg same]
    rfl

/-- The Teams adapter opens a seal of its own or finds it invalid. -/
theorem Msteams.openSealedReference_minted {r : TeamsConversationRef}
    (inverts : codec.Inverts conversationRefMarker r.payload)
    (minted : encodeWithCap mac codec conversationRefMarker r.payload minting.signing
      conversationRefCap = .ok token) (describe : Value → String) (ring : KeyRing) :
    (SameTag mac codec r.payload minting.signing ring.signing ∧
        Msteams.openSealedReference mac codec describe ring
          (some (Msteams.conversationReferenceJson mac codec r minting)) = .ok r) ∨
      ¬ SameTag mac codec r.payload minting.signing ring.signing ∧
        Msteams.openSealedReference mac codec describe ring
            (some (Msteams.conversationReferenceJson mac codec r minting)) =
          .error (.forbidden "msteams conversationReference seal is invalid") := by
  rw [Msteams.openSealedReference, Msteams.conversationReferenceJson, openReference_seal minted]
  rcases decodeWithCap_minted inverts minted ring.signing with ⟨same, opens⟩ | ⟨differs, refuses⟩
  · exact .inl ⟨same, by simp [opens, bind, Except.bind, TeamsConversationRef.ofValue_payload]⟩
  · exact .inr ⟨differs, by simp [refuses, bind, Except.bind]⟩

end Reopen

/-- A reference sealed under a key of the ring. The Teams adapter opens it to the
fields that were sealed exactly when the tag of the ring's signing key agrees with
that of the sealing key; the Google Chat adapter opens its own, in the shape it
asks for, whichever key of the ring sealed it. -/
theorem sealed_references_reopen (mac : Mac) (codec : BodyCodec) (describe : Value → String)
    (minting ring : KeyRing) (listed : minting.signing ∈ ring.keys) :
    (∀ (r : TeamsConversationRef) (token : String),
      codec.Inverts conversationRefMarker r.payload →
      encodeWithCap mac codec conversationRefMarker r.payload minting.signing
        conversationRefCap = .ok token →
      (Msteams.openSealedReference mac codec describe ring
          (some (Msteams.conversationReferenceJson mac codec r minting)) = .ok r ↔
        SameTag mac codec r.payload minting.signing ring.signing)) ∧
    (∀ (r : GoogleChatConversationRef) (token : String),
      codec.Inverts conversationRefMarker r.payload → r.wellShaped = true →
      encodeWithCap mac codec conversationRefMarker r.payload minting.signing
        conversationRefCap = .ok token →
      Googlechat.openSealedReference mac codec ring
          (some (Googlechat.conversationReferenceJson mac codec r minting)) = .ok r) := by
  constructor
  · intro r token inverts minted
    rcases Msteams.openSealedReference_minted inverts minted describe ring with
      ⟨same, opens⟩ | ⟨differs, refuses⟩
    · exact iff_of_true opens same
    · refine iff_of_false ?_ differs
      rw [refuses]
      exact fun opened => by cases opened
  · intro r token inverts shaped minted
    obtain ⟨named, finished⟩ := encodeWithCap_eq_ok minted
    rw [Googlechat.openSealedReference, Googlechat.conversationReferenceJson,
      openReference_seal minted, decodeWithCapAny_minted inverts named finished listed]
    simp [bind, Except.bind, GoogleChatConversationRef.ofValue_payload, shaped]

/-! ### A rotation -/

/-- The ring before the rotation that leads to `sampleRing`. -/
def oldRing : KeyRing where
  keys := [sampleOldKey]
  nonempty := List.cons_ne_nil _ _
  long := by decide +kernel

def sampleConversation : TeamsConversationRef where
  serviceUrl := "https://smba/"
  conversationId := "a:1"
  botId := "28:b"
  userId := "29:u"
  tenantId := "acme"

def sampleSealedText : String :=
  "\x7b\"t\":\"__conversation_ref\",\"a\":\x7b\"bot_id\":\"28:b\",\"conversation_id\":\"a:1\"," ++
    "\"service_url\":\"https://smba/\",\"tenant_id\":\"acme\",\"user_id\":\"29:u\"\x7d\x7d"

def referenceCodec : BodyCodec :=
  loneCodec sampleSealedText ⟨conversationRefMarker, sampleConversation.payload, none⟩

theorem referenceCodec_inverts :
    referenceCodec.Inverts conversationRefMarker sampleConversation.payload :=
  loneCodec_inverts _ _

def sampleSeal : String :=
  tokenOf (Utf8.encode sampleSealedText)
    (pairMac.truncated oldRing.signing (Utf8.encode sampleSealedText))

theorem encodeWithCap_sampleSeal :
    encodeWithCap pairMac referenceCodec conversationRefMarker sampleConversation.payload
      oldRing.signing conversationRefCap = .ok sampleSeal := by
  have short : (Utf8.encode sampleSealedText).length ≤ 300 := by
    rw [Utf8.length_encode]
    decide +kernel
  rw [encodeWithCap, if_neg (by decide)]
  refine finish_of_fits rfl ?_
  have usual : oldRing.signing.length = 32 := by decide +kernel
  rw [len_tokenOf, conversationRefCap]
  simp only [pairMac, pairTag, List.length_append, List.length_replicate, List.length_cons, usual]
  omega

/-- Before the rotation the Teams adapter opens its own seal. -/
theorem unrotated_reference_reopens :
    oldRing.signing ∈ oldRing.keys ∧
      Msteams.openSealedReference pairMac referenceCodec (fun _ => "") oldRing
          (some (Msteams.conversationReferenceJson pairMac referenceCodec sampleConversation
            oldRing)) = .ok sampleConversation := by
  have listed : oldRing.signing ∈ oldRing.keys := List.head_mem _
  exact ⟨listed, ((sealed_references_reopen pairMac referenceCodec (fun _ => "") oldRing oldRing
    listed).1 sampleConversation sampleSeal referenceCodec_inverts encodeWithCap_sampleSeal).mpr
      fun _ _ => rfl⟩

/-- After it the sealing key is still on the ring, and the reference is refused. -/
theorem rotated_reference_refused :
    pairMac.CollisionFree ∧ oldRing.signing ∈ sampleRing.keys ∧
      encodeWithCap pairMac referenceCodec conversationRefMarker sampleConversation.payload
        oldRing.signing conversationRefCap = .ok sampleSeal ∧
      Msteams.openSealedReference pairMac referenceCodec (fun _ => "") sampleRing
          (some (Msteams.conversationReferenceJson pairMac referenceCodec sampleConversation
            oldRing)) = .error (.forbidden "msteams conversationReference seal is invalid") := by
  refine ⟨pairMac_collisionFree, List.mem_cons_of_mem _ List.mem_cons_self,
    encodeWithCap_sampleSeal, ?_⟩
  refine ((Msteams.openSealedReference_minted referenceCodec_inverts encodeWithCap_sampleSeal
    (fun _ => "") sampleRing).resolve_left ?_).2
  rintro ⟨same, _⟩
  have keys : sampleOldKey ≠ sampleNewKey := by decide +kernel
  exact keys (pairTag_inj (same sampleSealedText rfl)).1

end Triton.Chat
