/-
# The controls of a card

The messages of a result are those its controls send, in order. A card has one
button for each of them that can be signed. Its id holds the signed message.
-/

import Triton.A2ui.Ge

namespace Triton.A2ui.Ge

open Triton.Lib
open Triton.Lib.Record (str)
open ActionSigner (actionId)

/-! ## The messages of a result -/

def actionMessages : Option Action → List String
  | some (.sendMessage message) => [message]
  | _ => []

def chipMessages (chips : List Chip) : List String := chips.map Chip.message

def optionMessages (options : List SelectionOption) (template key : String) : List String :=
  (optionRequests options template key).map Prod.snd

mutual

/-- A leaf that marks a gap has no control. -/
def nodeMessages : TreeNode → List String
  | .mk _ _ gap _ chips action _ children =>
    if children.isEmpty && chips.isEmpty then actionMessages (if gap then none else action)
    else chipMessages chips ++ (actionMessages action ++ nodesMessages children)

def nodesMessages : List TreeNode → List String
  | [] => []
  | node :: rest => nodeMessages node ++ nodesMessages rest

end

section Messages

variable (env : Env)

def templateMessages (fields : List FormField) (template : String) : List String :=
  match onlySelect fields template with
  | some f => optionMessages f.options template f.name
  | none => []

/-- A form with inputs has one submit, and no button with a fixed message. -/
def formMessages (fields : List FormField) (template : String) : List String :=
  if env.opts.formFields &&
      (env.signer.signTemplate template (fields.map fun f => (f.name, f.label))).isSome then []
  else templateMessages fields template

/-- The messages of the controls of a component, in order. -/
def componentMessages : Component → List String
  | .list _ items => items.flatMap fun it => actionMessages it.action
  | .chips _ chips => chipMessages chips
  | .tree _ nodes _ => nodesMessages nodes
  | .selection _ options _ argsKey _ (some submit) =>
    optionMessages options submit.template argsKey
  | .form _ fields _ _ (some template) _ => formMessages env fields template
  | .formGroups _ groups _ _ => groups.flatMap fun g => formMessages env g.fields g.sendTemplate
  | .button _ _ _ action _ _ => actionMessages action
  | .embed _ _ _ fallback => componentMessages fallback
  | _ => []

def parsedMessages (c : Value) : List String := ((parse env c).map (componentMessages env)).getD []

/-- A page that may be shown has no controls. -/
def embedMessages (c : Value) : List String :=
  match parse env c with
  | some (.embed url _ _ _) => if env.codec.isAllowedLink url then [] else parsedMessages env c
  | _ => parsedMessages env c

/-- A button without an action of its own asks the question of its tool again. -/
def buttonMessages (c : Value) : List String :=
  if (c.get "action").any Value.isObject then parsedMessages env c
  else (reask c ((textOf c "tool").getD "")).toList

/-- The messages of the controls of one item of a result. -/
def placedMessages (c : Value) : List String :=
  let kind := (textOf c "kind").getD ""
  if kind = "text" || kind = "narration" then []
  else if kind = "report" then []
  else if kind = "button" then buttonMessages env c
  else if kind = "sources" then []
  else if kind = "embed" && env.opts.embed then embedMessages env c
  else parsedMessages env c

def componentsOf (result : Value) : List Value :=
  (((result.get "surface").bind (·.get "components")).bind Value.asArray).getD []

/-- The messages of the controls of a result, in order. -/
def messagesOf (result : Value) : List String := (componentsOf result).flatMap (placedMessages env)

/-- The card of a result. -/
def builtCard (result : Value) : Card := (placeAll env (componentsOf result) ⟨[], 0, 0⟩).2

end Messages

/-! ## Buttons -/

def idOf (comp : Value) : Option String := textOf comp "id"

/-- A button that sends a message: its id is that of an action, and so is its event. -/
def isSendButton (comp : Value) : Bool :=
  (idOf comp).any (Text.startsWith · "a") &&
    (((comp.get "action").bind (·.get "event")).bind (textOf · "name")) == some "send_message"

theorem idOf_object (id : String) (comp : List (String × Option Value)) :
    idOf (Record.object (("id", str id) :: comp)) = some id := by
  simp [idOf, textOf, str]

theorem isSendButton_event (label variant name : String) (context : Members) (n : ℕ)
    (token : String) :
    isSendButton (Record.object (("id", str (actionId n token)) ::
      button label variant (eventAction name context))) = (name == "send_message") := by
  have signed : Text.startsWith (actionId n token) "a" = true := by
    simp [Text.startsWith, actionId]
  rw [isSendButton, idOf_object, Option.any_some, signed, Bool.true_and]
  simp [button, eventAction, textOf, str]

section Buttons

variable (env : Env)

/-- The id of the component is the signed message. -/
def CarriesMessage (message : String) (comp : Value) : Prop :=
  ∃ n token, env.signer.sign message = some token ∧ idOf comp = some (actionId n token)

/-- The messages that can be signed. -/
def signable (messages : List String) : List String :=
  messages.filter fun message => (env.signer.sign message).isSome

/-- The send buttons carry the messages, less those that cannot be signed, in the
same order. -/
def Buttons (messages : List String) (comps : List Value) : Prop :=
  List.Forall₂ (CarriesMessage env) (signable env messages) (comps.filter isSendButton)

variable {env} {messages more : List String} {comps others : List Value}

theorem Buttons.append (here : Buttons env messages comps) (there : Buttons env more others) :
    Buttons env (messages ++ more) (comps ++ others) := by
  rw [Buttons, signable, List.filter_append, List.filter_append]
  exact List.rel_append here there

theorem buttons_other {comp : Value} (other : isSendButton comp = false) :
    Buttons env [] [comp] := by
  rw [Buttons, List.filter_cons_of_neg (by simp [other]), List.filter_nil]
  exact .nil

theorem buttons_unsigned {message : String} (unsigned : env.signer.sign message = none) :
    Buttons env [message] [] := by
  rw [Buttons, signable, List.filter_cons_of_neg (by simp [unsigned])]
  exact .nil

theorem buttons_signed {message token : String} (signed : env.signer.sign message = some token)
    (label variant : String) (n : ℕ) :
    Buttons env [message] [Record.object (("id", str (actionId n token)) ::
      button label variant (eventAction "send_message" []))] := by
  have kept : signable env [message] = [message] := by simp [signable, signed]
  rw [Buttons, kept, List.filter_cons_of_pos (isSendButton_event _ _ _ _ _ _), List.filter_nil]
  exact .cons ⟨n, token, signed, idOf_object _ _⟩ .nil

end Buttons

end Triton.A2ui.Ge
