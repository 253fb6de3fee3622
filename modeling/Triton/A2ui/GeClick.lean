/-
# What a click on a card says

A click sends back the id of its component, and the id holds the signed request. The
buttons that send a message stand on the card in the order of the controls they were
made from, so each of them can be compared with its control. A message that is blank
is signed like any other, but a click on its button opens to nothing.
-/

import Triton.A2ui.GeTree
import Triton.Correlation.Rotation

namespace Triton.A2ui.Ge

open Triton.Lib Triton.Correlation
open Triton.Lib.Record (str)
open ActionSigner (actionId)

/-! ## Opening an id -/

/-- What a click leads to. -/
inductive GeAction where
  | message (text : String)
  | incomplete (labels : List String)
  | openDoc (label skill id url : String)
  deriving DecidableEq, Repr

/-- The value a click gives to an input. -/
def contextInput (numberText : Number → String) : Value → Option String
  | .string s => some s
  | .array items => items.head?.bind Value.asStr
  | .number n => some (numberText n)
  | _ => none

/-- What a verified request asks for. What is missing is named by its label. -/
def requestedAction (numberText : Number → String) (tool : String) (args context : Value) :
    Option GeAction :=
  if tool = openDocTool then
    let field (key : String) := (textOf args key).getD ""
    some (.openDoc (field "l") (field "s") (field "i") (field "u"))
  else if tool ≠ Message.sendMessageTool then none
  else
    match Message.resolve args fun key => (context.get key).bind (contextInput numberText) with
    | .ok m => some (.message m)
    | .error (.missing names) =>
      some (.incomplete (names.map fun name =>
        (((args.get "labels").bind (·.get name)).bind Value.asStr).getD name))
    | .error .empty => none

/-- Open the id of a clicked component. -/
def ActionSigner.openActionWith (signer : ActionSigner) (numberText : Number → String)
    (componentId : String) (context : Value) : Option GeAction :=
  (Text.stripHead componentId "a").bind fun rest =>
    (Text.splitOnce '-' rest).bind fun (n, token) =>
      if n.isEmpty || !n.toList.all Char.isDigit then none
      else
        match decodeBoundAny signer.mac signer.codec signer.clock token signer.ring geActionCap
          ActionSigner.binding with
        | .error _ => none
        | .ok (tool, args) => requestedAction numberText tool args context

/-- The send buttons of a card carry the messages of the result's controls. -/
theorem buttons_builtCard (env : Env) (result : Value) :
    Buttons env (messagesOf env result) (builtCard env result).flat :=
  (trades_placeAll (componentsOf result) ⟨[], 0, 0⟩ [] 0 (.start env)).buttons

/-! ## Opening a send button -/

theorem openActionWith_actionId (signer : ActionSigner) (numberText : Number → String) (n : ℕ)
    (token : String) (context : Value) :
    signer.openActionWith numberText (actionId n token) context =
      match decodeBoundAny signer.mac signer.codec signer.clock token signer.ring geActionCap
        ActionSigner.binding with
      | .error _ => none
      | .ok (tool, args) => requestedAction numberText tool args context := by
  have stripped : Text.stripHead (actionId n token) "a" = some (toString n ++ "-" ++ token) := by
    rw [actionId, String.append_assoc, String.append_assoc, Text.stripHead_append,
      String.append_assoc]
  have whole : toString n ++ "-" ++ token =
      String.ofList ((toString n).toList ++ '-' :: token.toList) := by
    apply String.toList_inj.mp
    simp
  have first : '-' ∉ (toString n).toList := by
    intro member
    cases Text.isDigit_of_mem_toString member
  have number : ((toString n).isEmpty || !(toString n).toList.all Char.isDigit) = false := by
    have digits : (toString n).toList.all Char.isDigit = true :=
      List.all_eq_true.mpr fun c member => Text.isDigit_of_mem_toString member
    have some_digit : (toString n).isEmpty = false := by
      simp [← String.toList_eq_nil_iff, Nat.toDigits_ne_nil]
    rw [digits, some_digit]
    rfl
  rw [ActionSigner.openActionWith, stripped, Option.bind_some, whole, Text.splitOnce_ofList first,
    Option.bind_some]
  simp only [String.ofList_toList, number]
  rfl

theorem resolve_textArgs (message : String) (input : String → Option String) :
    Message.resolve (Message.textArgs message) input = Message.complete message := rfl

/-- The ring holds the key a card was signed with, and its tokens live. -/
structure ActionSigner.Redeems (signer : ActionSigner) (ring : KeyRing) (now : UInt64) : Prop where
  listed : signer.ring.signing ∈ ring.keys
  lives : ∀ minted, signer.clock = some minted →
    now.toNat ≤ minted.toNat + geActionTtlSecs.toNat

/-- Another replica, with a ring and a clock of its own. -/
def ActionSigner.replica (signer : ActionSigner) (ring : KeyRing) (now : UInt64) : ActionSigner :=
  { signer with ring := ring, clock := some now }

theorem encoded_of_token {signer : ActionSigner} {tool token : String} {args : Value} {ttl : UInt64}
    (signed : signer.token tool args ttl = some token) :
    encodeBound signer.mac signer.codec signer.clock tool args signer.ring.signing geActionCap
      ActionSigner.binding (some ttl) = .ok token := by
  rw [ActionSigner.token] at signed
  revert signed
  cases encodeBound signer.mac signer.codec signer.clock tool args signer.ring.signing geActionCap
      ActionSigner.binding (some ttl) with
  | error e =>
    intro none
    cases none
  | ok other =>
    intro same
    cases same
    rfl

/-- The token of a message opens to the message, unless that is blank. -/
theorem openActionWith_sign {signer : ActionSigner} {ring : KeyRing} {now : UInt64}
    (redeems : signer.Redeems ring now) {message token : String}
    (inverts : signer.codec.Inverts Message.sendMessageTool (Message.textArgs message))
    (signed : signer.sign message = some token) (numberText : Number → String) (n : ℕ)
    (context : Value) :
    (signer.replica ring now).openActionWith numberText (actionId n token) context =
      if (Text.trim message).isEmpty then none else some (.message (Text.trim message)) := by
  have decoded : decodeBoundAny signer.mac signer.codec (some now) token ring geActionCap
      ActionSigner.binding = .ok (Message.sendMessageTool, Message.textArgs message) := by
    obtain ⟨named, x, minted, ⟨unlimited, _⟩ | ⟨ttl, start, asked, reading, rfl⟩⟩ :=
      encodeBound_eq_ok (encoded_of_token signed)
    · cases unlimited
    · cases asked
      rw [decodeBoundAny_minted inverts named minted redeems.listed]
      exact checkExpiry_of_le
        (UInt64.le_trans (le_saturatingAdd (redeems.lives start reading)) (le_hours _))
  rw [openActionWith_actionId]
  simp only [ActionSigner.replica, decoded]
  rw [requestedAction, if_neg (by decide), if_neg (not_not.mpr rfl), resolve_textArgs]
  by_cases blank : (Text.trim message).isEmpty = true
  · simp [Message.complete, blank]
  · simp [Message.complete, blank]

theorem redeems_own_ring (signer : ActionSigner) :
    signer.Redeems signer.ring (signer.clock.getD 0) where
  listed := List.head_mem _
  lives := by
    intro minted reading
    rw [reading, Option.getD_some]
    exact Nat.le_add_right _ _

/-- The component opens to the message, trimmed. -/
def OpensTo (opener : ActionSigner) (numberText : Number → String) (context : Value)
    (message : String) (comp : Value) : Prop :=
  ((idOf comp).bind fun id => opener.openActionWith numberText id context) =
    some (.message (Text.trim message))

/-- Along paired lists, a relation that only depends on the first member of a pair. -/
theorem forall₂_iff_forall_mem {α β : Type} {R S : α → β → Prop} {p : α → Prop} {l : List α}
    {m : List β} (paired : List.Forall₂ R l m)
    (same : ∀ a ∈ l, ∀ b, R a b → (S a b ↔ p a)) : List.Forall₂ S l m ↔ ∀ a ∈ l, p a := by
  induction paired with
  | nil => simp
  | cons here _ ih =>
    rw [List.forall₂_cons, List.forall_mem_cons, same _ List.mem_cons_self _ here,
      ih fun a member => same a (List.mem_cons_of_mem _ member)]

/-- Every send button of a card opens to the message of its control, wherever the key
is held and as long as the token lives, exactly when no message that can be signed is
blank. -/
theorem clicks_open_to_messages_iff (env : Env) (numberText : Number → String) (result : Value)
    (inverts : ∀ message ∈ messagesOf env result,
      env.signer.codec.Inverts Message.sendMessageTool (Message.textArgs message)) :
    (∀ ring now, env.signer.Redeems ring now → ∀ context,
      List.Forall₂ (OpensTo (env.signer.replica ring now) numberText context)
        (signable env (messagesOf env result))
        ((builtCard env result).flat.filter isSendButton)) ↔
      ∀ message ∈ messagesOf env result, (env.signer.sign message).isSome →
        (Text.trim message).isEmpty = false := by
  have opened : ∀ ring now, env.signer.Redeems ring now → ∀ context,
      (List.Forall₂ (OpensTo (env.signer.replica ring now) numberText context)
        (signable env (messagesOf env result))
        ((builtCard env result).flat.filter isSendButton) ↔
      ∀ message ∈ signable env (messagesOf env result), (Text.trim message).isEmpty = false) := by
    intro ring now redeems context
    refine forall₂_iff_forall_mem (buttons_builtCard env result) ?_
    intro message member comp carries
    obtain ⟨n, token, signed, named⟩ := carries
    rw [OpensTo, named, Option.bind_some,
      openActionWith_sign redeems (inverts message (List.mem_of_mem_filter member)) signed]
    cases (Text.trim message).isEmpty <;> simp
  have listed : (∀ message ∈ signable env (messagesOf env result),
      (Text.trim message).isEmpty = false) ↔
        ∀ message ∈ messagesOf env result, (env.signer.sign message).isSome →
          (Text.trim message).isEmpty = false := by
    simp only [signable, List.mem_filter, and_imp]
  rw [← listed]
  constructor
  · intro everywhere
    have own := redeems_own_ring env.signer
    exact (opened _ _ own .null).mp (everywhere _ _ own .null)
  · intro spoken ring now redeems context
    exact (opened ring now redeems context).mpr spoken

/-! ### One chip -/

def chipResult (message : String) : Value :=
  Record.object [("surface", some (Record.object [("components", some (.array [
    Record.object [("kind", str "chips"), ("chips", some (.array [
      Record.object [("label", str "Next"), ("message", str message)]]))]]))]))]

/-- A replica that signs this one message, thirty days before the token ends. -/
def chipEnv (message : String) : Env where
  signer := ⟨sampleMac, loneCodec
    ("\x7b\"t\":\"__send_message\",\"a\":\x7b\"m\":\"" ++ message ++ "\"\x7d,\"x\":720\x7d")
    ⟨Message.sendMessageTool, Message.textArgs message, some 720⟩, some 0, sampleRing⟩
  opts := ⟨false, false, true⟩
  codec := ⟨fun _ => .error "unused", fun _ _ => .null, fun _ => true⟩
  fromValue := Component.fromValue
  docCanvas := false

/-- A chip with a message opens to it. -/
theorem chip_opens_to_its_message :
    messagesOf (chipEnv " Hi ") (chipResult " Hi ") = [" Hi "] ∧
      List.Forall₂ (OpensTo ((chipEnv " Hi ").signer.replica sampleRing 0) (fun _ => "") .null)
        (signable (chipEnv " Hi ") (messagesOf (chipEnv " Hi ") (chipResult " Hi ")))
        ((builtCard (chipEnv " Hi ") (chipResult " Hi ")).flat.filter isSendButton) := by
  have listed : messagesOf (chipEnv " Hi ") (chipResult " Hi ") = [" Hi "] := by decide +kernel
  have spoken : (Text.trim " Hi ").isEmpty = false := by decide +kernel
  refine ⟨listed, (clicks_open_to_messages_iff _ _ _ ?_).mpr ?_ sampleRing 0
    (redeems_own_ring _) .null⟩
  · intro message member
    rw [listed] at member
    cases List.mem_singleton.mp member
    exact loneCodec_inverts _ _
  · intro message member _
    rw [listed] at member
    cases List.mem_singleton.mp member
    exact spoken

/-- A chip with a blank message has a button too, and the button opens to nothing. -/
theorem blank_chip_opens_to_nothing :
    (chipEnv " ").signer.Redeems sampleRing 0 ∧
      ((builtCard (chipEnv " ") (chipResult " ")).flat.filter isSendButton).map
        (fun comp => (idOf comp).map fun id =>
          ((chipEnv " ").signer.replica sampleRing 0).openActionWith (fun _ => "") id .null) =
        [some none] := by
  refine ⟨redeems_own_ring _, ?_⟩
  decide +kernel

end Triton.A2ui.Ge
