/-
# The agent chooser

When several agents could take a message, the sender is shown a card with a
button for each. A button's token has the agent and the whole message in it, so
that a tap replays the message. A token over the cap is not minted, and its
button is left out of the card without a word. A long message therefore leaves a
card that asks for a choice and offers none.
-/

import Triton.Chat.CardClick
import Triton.Lib.Compact
import Triton.Routing.Resolve

namespace Triton.Chat

open Triton.Lib Triton.Correlation Triton.Routing
open Triton.Lib.Record (str)

/-- Seven days. -/
def cardTokenTtlSecs : UInt64 := 604800

/-- The call a pick makes: the agent, and the message it is to get. -/
def pickArgs (id msg : String) : Value := .object [("id", .string id), ("msg", .string msg)]

/-- The token of a pick, for seven days. -/
def pickToken (mac : Mac) (codec : BodyCodec) (clock : Option UInt64) (ring : KeyRing) (cap : ℕ)
    (b : Binding) (id msg : String) : Except EncodeError String :=
  encodeBound mac codec clock useAgentTool (pickArgs id msg) ring.signing cap b
    (some cardTokenTtlSecs)

/-- The labels and tokens of the candidates. A candidate whose token cannot be
minted is dropped. -/
def signedButtons (mac : Mac) (codec : BodyCodec) (clock : Option UInt64) (ring : KeyRing)
    (cap : ℕ) (b : Binding) (candidates : List AgentDescriptor) (pendingText : String) :
    List (String × String) :=
  candidates.filterMap fun a =>
    (pickToken mac codec clock ring cap b a.id pendingText).toOption.map (a.display, ·)

def chooserPrompt : String :=
  "Which agent should handle this? Pick one below, or type `/use <name>` any time " ++
    "(`/agents` to list, `/whoami` to check)."

inductive LogoStyle where
  | avatar
  | banner
  deriving DecidableEq, Repr

/-- A member that holds an array; anything else holds nothing. -/
def itemsOf (value : Option Value) : List Value := (value.bind Value.asArray).getD []

/-! ## Teams -/

namespace Msteams

def adaptiveCardSchema : String := "http://adaptivecards.io/schemas/adaptive-card.json"

def adaptiveCardVersion : String := "1.4"

structure CardChrome where
  title : Option String
  logoUrl : Option String
  logoStyle : LogoStyle

def titleBlock (t : String) : Value :=
  Record.object [("type", str "TextBlock"), ("text", str t), ("weight", str "Bolder"),
    ("size", str "Medium"), ("wrap", some (.bool true))]

def headerItems (theme : CardChrome) : Option (List Value) :=
  match theme.logoStyle, theme.logoUrl, theme.title with
  | .banner, some l, t =>
    some (Record.object [("type", str "Image"), ("url", str l), ("size", str "Stretch"),
      ("altText", str (t.getD "logo"))] :: (t.map titleBlock).toList)
  | .avatar, some l, some t =>
    some [Record.object [("type", str "ColumnSet"), ("columns", some (.array [
      Record.object [("type", str "Column"), ("width", str "auto"), ("items", some (.array [
        Record.object [("type", str "Image"), ("url", str l), ("size", str "Small"),
          ("style", str "Person"), ("altText", str t)]]))],
      Record.object [("type", str "Column"), ("width", str "stretch"),
        ("verticalContentAlignment", str "Center"),
        ("items", some (.array [titleBlock t]))]]))]]
  | .avatar, some l, none =>
    some [Record.object [("type", str "Image"), ("url", str l), ("size", str "Small"),
      ("style", str "Person"), ("altText", str "logo")]]
  | _, none, some t => some [titleBlock t]
  | _, none, none => none

/-- The branded header of a card, if there is a name or a logo. -/
def headerContainer (theme : CardChrome) : Option Value :=
  (headerItems theme).map fun items =>
    Record.object [("type", str "Container"), ("style", str "emphasis"),
      ("bleed", some (.bool true)), ("items", some (.array items))]

def executeAction (title token : String) : Value :=
  Record.object [("type", str "Action.Execute"), ("verb", str actionVerb),
    ("title", str title), ("data", some (Record.object [(tokenDataKey, str token)]))]

def buildAgentChooser (prompt : String) (buttons : List (String × String)) (chrome : CardChrome) :
    Value :=
  let promptBlock := Record.object [("type", str "TextBlock"), ("text", str prompt),
    ("wrap", some (.bool true))]
  let body := (headerContainer chrome).toList ++ (if prompt.isEmpty then [] else [promptBlock])
  let actions := buttons.map fun (title, token) => executeAction title token
  Record.object [("type", str "AdaptiveCard"), ("$schema", str adaptiveCardSchema),
    ("version", str adaptiveCardVersion), ("body", some (.array body)),
    ("actions", Record.omitIf actions.isEmpty (.array actions))]

/-- The chooser that answers a message. -/
def chooser (mac : Mac) (codec : BodyCodec) (clock : Option UInt64) (ring : KeyRing)
    (tenant sender : String) (chrome : CardChrome) (candidates : List AgentDescriptor)
    (pendingText : String) : Value :=
  buildAgentChooser chooserPrompt
    (signedButtons mac codec clock ring correlationCap ⟨"msteams", tenant, sender⟩ candidates
      pendingText) chrome

/-- What an action shows, and the token a tap on it sends. -/
def buttonOf (action : Value) : Option (String × String) := do
  let title ← (action.get "title").bind Value.asStr
  let token ← ((action.get "data").bind (·.get tokenDataKey)).bind Value.asStr
  return (title, token)

/-- The buttons of a card. -/
def buttonsOf (card : Value) : List (String × String) :=
  (itemsOf (card.get "actions")).filterMap buttonOf

theorem buttonsOf_buildAgentChooser (prompt : String) (buttons : List (String × String))
    (chrome : CardChrome) : buttonsOf (buildAgentChooser prompt buttons chrome) = buttons := by
  have shown : itemsOf ((buildAgentChooser prompt buttons chrome).get "actions") =
      buttons.map fun (title, token) => executeAction title token := by
    cases buttons <;> simp [buildAgentChooser, itemsOf, Record.omitIf, Value.asArray]
  rw [buttonsOf, shown, List.filterMap_map]
  simp [Function.comp_def, buttonOf, executeAction, str, tokenDataKey]

end Msteams

/-! ## Google Chat -/

namespace Googlechat

def buttonActionFunction : String := "agent_action"

def buttonTokenParam : String := "ct"

def buttonLabelParam : String := "lbl"

/-- The theme of a card. The brand colour is the one the theme's text stands
for, if it reads as one. -/
structure CardChrome where
  title : Option String
  logoUrl : Option String
  brandColor : Option Value
  logoStyle : LogoStyle

def cardHeader (theme : CardChrome) : Option Value :=
  let title := theme.title.filter (!·.isEmpty)
  let logo :=
    if theme.logoStyle = .avatar then theme.logoUrl.filter (!·.isEmpty) else none
  if title.isNone && logo.isNone then none
  else
    some (Record.object [("title", title.map .string), ("imageUrl", logo.map .string),
      ("imageType", logo.map fun _ => .string "CIRCLE")])

def logoBannerSection (theme : CardChrome) : Option Value :=
  if theme.logoStyle = .banner then
    (theme.logoUrl.filter (!·.isEmpty)).map fun logo =>
      Record.object [("widgets", some (.array [Record.object [("image", some (Record.object [
        ("imageUrl", str logo), ("altText", str (theme.title.getD "logo"))]))]]))]
  else none

def parameter (key value : String) : Value :=
  Record.object [("key", str key), ("value", str value)]

def actionButton (label token : String) (theme : CardChrome) (clickFunction : String) : Value :=
  Record.object [("text", str label),
    ("type", str (if theme.brandColor.isSome then "FILLED" else "FILLED_TONAL")),
    ("onClick", some (Record.object [("action", some (Record.object [
      ("function", str clickFunction),
      ("parameters", some (.array [parameter buttonTokenParam token,
        parameter buttonLabelParam label]))]))])),
    ("color", theme.brandColor)]

/-- A message, or the action of a Workspace add-on that creates it. -/
def wrapMessage (message : Value) (workspaceAddon : Bool) : Value :=
  if workspaceAddon then
    Record.object [("hostAppDataAction", some (Record.object [("chatDataAction",
      some (Record.object [("createMessageAction",
        some (Record.object [("message", some message)]))]))]))]
  else message

def buildAgentChooser (prompt : String) (buttons : List (String × String)) (workspaceAddon : Bool)
    (theme : CardChrome) (clickEndpoint : Option String) : Value :=
  let clickFunction := clickEndpoint.getD buttonActionFunction
  let btns := buttons.map fun (label, token) => actionButton label token theme clickFunction
  let sections := (logoBannerSection theme).toList ++ [Record.object [("widgets", some (.array [
    Record.object [("buttonList", some (Record.object [("buttons", some (.array btns))]))]]))]]
  let card := Record.object [("sections", some (.array sections)), ("header", cardHeader theme)]
  wrapMessage (Record.object [
    ("cardsV2", some (.array [Record.object [("cardId", str "agent-chooser"),
      ("card", some card)]])),
    ("text", Record.omitIf prompt.isEmpty (.string prompt))]) workspaceAddon

/-- The chooser that answers a message. -/
def chooser (mac : Mac) (codec : BodyCodec) (clock : Option UInt64) (ring : KeyRing)
    (tenant sender : String) (workspaceAddon : Bool) (theme : CardChrome)
    (clickEndpoint : Option String) (candidates : List AgentDescriptor) (pendingText : String) :
    Value :=
  buildAgentChooser chooserPrompt
    (signedButtons mac codec clock ring cardCorrelationCap ⟨"google_chat", tenant, sender⟩
      candidates pendingText) workspaceAddon theme clickEndpoint

/-- The message of an answer. -/
def unwrapMessage (body : Value) (workspaceAddon : Bool) : Option Value :=
  if workspaceAddon then
    (body.get "hostAppDataAction").bind fun action =>
      (action.get "chatDataAction").bind fun data =>
        (data.get "createMessageAction").bind (·.get "message")
  else some body

def parameterOf (key : String) (action : Value) : Option String :=
  ((itemsOf (action.get "parameters")).find? fun p =>
    (p.get "key").bind Value.asStr == some key).bind fun p => (p.get "value").bind Value.asStr

/-- What a button shows, and the token a tap on it sends. -/
def buttonOf (button : Value) : Option (String × String) := do
  let label ← (button.get "text").bind Value.asStr
  let action ← (button.get "onClick").bind (·.get "action")
  let token ← parameterOf buttonTokenParam action
  return (label, token)

/-- The buttons of a section. -/
def buttonsIn (part : Value) : List (String × String) :=
  (itemsOf (part.get "widgets")).flatMap fun widget =>
    (itemsOf ((widget.get "buttonList").bind (·.get "buttons"))).filterMap buttonOf

/-- The buttons of all cards of an answer. -/
def buttonsOf (body : Value) (workspaceAddon : Bool) : List (String × String) :=
  (itemsOf ((unwrapMessage body workspaceAddon).bind (·.get "cardsV2"))).flatMap fun card =>
    (itemsOf ((card.get "card").bind (·.get "sections"))).flatMap buttonsIn

theorem buttonsIn_logoBannerSection (theme : CardChrome) :
    (logoBannerSection theme).toList.flatMap buttonsIn = [] := by
  unfold logoBannerSection
  split
  case isFalse => rfl
  case isTrue =>
    cases theme.logoUrl.filter (!·.isEmpty) with
    | none => rfl
    | some logo => simp [buttonsIn, itemsOf, Value.asArray]

theorem buttonsOf_buildAgentChooser (prompt : String) (buttons : List (String × String))
    (workspaceAddon : Bool) (theme : CardChrome) (clickEndpoint : Option String) :
    buttonsOf (buildAgentChooser prompt buttons workspaceAddon theme clickEndpoint)
      workspaceAddon = buttons := by
  have shown (label token : String) :
      buttonOf (actionButton label token theme (clickEndpoint.getD buttonActionFunction)) =
        some (label, token) := by
    simp [buttonOf, actionButton, parameterOf, parameter, itemsOf, str, Value.asArray]
  have banner := buttonsIn_logoBannerSection theme
  have offered (items : List Value) : buttonsIn (Record.object [("widgets", some (.array [
      Record.object [("buttonList", some (Record.object [("buttons", some (.array items))]))]]))]) =
        items.filterMap buttonOf := by
    simp [buttonsIn, itemsOf, Value.asArray]
  cases workspaceAddon <;>
    simp [buttonsOf, buildAgentChooser, unwrapMessage, wrapMessage, itemsOf, Value.asArray, banner,
      offered, List.filterMap_map, shown]

end Googlechat

/-! ## What the tokens hold -/

/-- The hour a token of the chooser expires at. -/
def expiryHours (minted : UInt64) : UInt64 := divCeil (saturatingAdd minted cardTokenTtlSecs) 3600

/-- The JSON of a pick. The expiry is the only number in it. -/
def pickText (id msg : String) (hours : UInt64) : String :=
  (Value.object [("t", .string useAgentTool), ("a", pickArgs id msg),
    ("x", .number (.posInt hours.toNat))]).compact fun _ => toString hours.toNat

/-- The JSON library writes a pick in its compact form, and reads back what it
writes. -/
structure Carries (codec : BodyCodec) (id msg : String) (hours : UInt64) : Prop where
  writes : codec.toText ⟨useAgentTool, pickArgs id msg, some hours⟩ = .ok (pickText id msg hours)
  reads : codec.Inverts useAgentTool (pickArgs id msg)

/-- The bytes of a text inside a JSON string. -/
def escapedLen (s : String) : ℕ := String.utf8Len (escape s.toList)

/-- The agent and the message leave room for each other. Of the 1536 bytes of a
token 12 go to the tag, and of the 1143 bytes of JSON that the others stand for
47 go to the frame. -/
def Fits (id msg : String) (hours : UInt64) : Prop :=
  escapedLen id + escapedLen msg + Text.len (toString hours.toNat) ≤ 1096

/-- A token that gives the agent and the message back, under every ring the
signing key is on and for as long as the token lives. -/
def Replays (mac : Mac) (codec : BodyCodec) (clock : Option UInt64) (ring : KeyRing) (cap : ℕ)
    (b : Binding) (id msg token : String) : Prop :=
  ∀ minted, clock = some minted → ∀ later : KeyRing, ring.signing ∈ later.keys →
    ∀ now : UInt64, now.toNat ≤ minted.toNat + cardTokenTtlSecs.toNat →
      decodeBoundAny mac codec (some now) token later cap b = .ok (useAgentTool, pickArgs id msg)

/-- One button for each candidate, in their order: it shows the candidate and
replays the message to it. -/
def Offers (mac : Mac) (codec : BodyCodec) (clock : Option UInt64) (ring : KeyRing) (cap : ℕ)
    (b : Binding) (candidates : List AgentDescriptor) (pendingText : String)
    (buttons : List (String × String)) : Prop :=
  List.Forall₂ (fun a button => button.1 = a.display ∧
    Replays mac codec clock ring cap b a.id pendingText button.2) candidates buttons

theorem utf8Len_quote (s : String) : String.utf8Len (quote s) = escapedLen s + 2 := by
  have size : Char.utf8Size '"' = 1 := rfl
  simp [quote, escapedLen, size]

theorem len_pickText (id msg : String) (hours : UInt64) :
    Text.len (pickText id msg hours) =
      47 + escapedLen id + escapedLen msg + Text.len (toString hours.toNat) := by
  have tool : escapedLen useAgentTool = 11 := by decide +kernel
  have keys : escapedLen "t" = 1 ∧ escapedLen "a" = 1 ∧ escapedLen "x" = 1 ∧
      escapedLen "id" = 2 ∧ escapedLen "msg" = 3 := by
    decide +kernel
  have marks : Char.utf8Size '{' = 1 ∧ Char.utf8Size '}' = 1 ∧ Char.utf8Size ':' = 1 ∧
      Char.utf8Size ',' = 1 :=
    ⟨rfl, rfl, rfl, rfl⟩
  rw [len_eq_utf8Len, len_eq_utf8Len (toString _), pickText, Value.compact, String.toList_ofList]
  simp only [pickArgs, Value.compactChars, Value.compactMembers, commas, List.intercalate,
    List.intersperse, List.flatten_cons, List.flatten_nil, String.utf8Len_append,
    String.utf8Len_cons, String.utf8Len_nil, utf8Len_quote, tool, keys, marks]
  omega

section Minted

variable {hmac : Bytes → Bytes → Vector UInt8 32} {codec : BodyCodec} {clock : Option UInt64}
  {ring : KeyRing} {b : Binding} {id msg token : String}

/-- The cap leaves 1143 bytes to a body. -/
theorem len_tokenOf_le_iff (body key : Bytes) :
    Text.len (tokenOf body ((Mac.ofHmac hmac).truncated key body)) ≤ 1536 ↔ body.length ≤ 1143 := by
  rw [len_tokenOf, length_truncated, hmacLen]
  omega

theorem len_pickText_le_iff (id msg : String) (hours : UInt64) :
    (Utf8.encode (pickText id msg hours)).length ≤ 1143 ↔ Fits id msg hours := by
  rw [Utf8.length_encode, len_pickText, Fits]
  omega

/-- What is minted has an expiry in its body. -/
theorem finish_of_minted
    (encoded : pickToken (Mac.ofHmac hmac) codec clock ring 1536 b id msg = .ok token) :
    ∃ minted, clock = some minted ∧
      finish (Mac.ofHmac hmac) codec ⟨useAgentTool, pickArgs id msg, some (expiryHours minted)⟩
        (tenantKey (Mac.ofHmac hmac) ring.signing b) 1536 = .ok token := by
  obtain ⟨_, x, minted, ⟨unlimited, _⟩ | ⟨ttl, start, asked, reading, rfl⟩⟩ :=
    encodeBound_eq_ok encoded
  · cases unlimited
  · cases asked
    exact ⟨start, reading, minted⟩

theorem fits_of_minted {minted : UInt64} (carries : Carries codec id msg (expiryHours minted))
    (encoded : pickToken (Mac.ofHmac hmac) codec (some minted) ring 1536 b id msg = .ok token) :
    Fits id msg (expiryHours minted) := by
  obtain ⟨_, reading, finished⟩ := finish_of_minted encoded
  cases reading
  obtain ⟨text, written, rfl, short⟩ := finish_eq_ok finished
  cases carries.writes.symm.trans written
  rwa [len_tokenOf_le_iff, len_pickText_le_iff] at short

theorem replays_of_minted (reads : codec.Inverts useAgentTool (pickArgs id msg))
    (encoded : pickToken (Mac.ofHmac hmac) codec clock ring 1536 b id msg = .ok token) :
    Replays (Mac.ofHmac hmac) codec clock ring 1536 b id msg token := by
  intro minted reading later listed now inTime
  obtain ⟨_, reading', finished⟩ := finish_of_minted encoded
  cases reading.symm.trans reading'
  rw [decodeBoundAny_minted reads (by decide) finished listed]
  exact checkExpiry_of_le (UInt64.le_trans (le_saturatingAdd inTime) (le_hours _))

end Minted

theorem forall₂_filterMap {α β : Type} {R : α → β → Prop} {f : α → Option β} {l : List α}
    (related : ∀ a ∈ l, ∃ b, f a = some b ∧ R a b) : List.Forall₂ R l (l.filterMap f) := by
  induction l with
  | nil => exact .nil
  | cons a rest ih =>
    obtain ⟨b, found, holds⟩ := related a List.mem_cons_self
    rw [List.filterMap_cons_some found]
    exact .cons holds (ih fun other member => related other (List.mem_cons_of_mem a member))

/-- The signed buttons offer every candidate when the clock can be read and every
candidate's token keeps to the cap. -/
theorem offers_signedButtons_iff {hmac : Bytes → Bytes → Vector UInt8 32} {codec : BodyCodec}
    {clock : Option UInt64} {ring : KeyRing} {b : Binding} {candidates : List AgentDescriptor}
    {pendingText : String} (nonempty : candidates ≠ [])
    (carries : ∀ minted, clock = some minted → ∀ a ∈ candidates,
      Carries codec a.id pendingText (expiryHours minted)) :
    Offers (Mac.ofHmac hmac) codec clock ring 1536 b candidates pendingText
        (signedButtons (Mac.ofHmac hmac) codec clock ring 1536 b candidates pendingText) ↔
      ∃ minted, clock = some minted ∧
        ∀ a ∈ candidates, Fits a.id pendingText (expiryHours minted) := by
  constructor
  · intro offers
    have all := List.filterMap_length_eq_length.mp offers.length_eq.symm
    have minted : ∀ a ∈ candidates, ∃ token,
        pickToken (Mac.ofHmac hmac) codec clock ring 1536 b a.id pendingText = .ok token := by
      intro a member
      have kept := all a member
      cases encoded : pickToken (Mac.ofHmac hmac) codec clock ring 1536 b a.id pendingText with
      | error e => simp [encoded, Except.toOption] at kept
      | ok token => exact ⟨token, rfl⟩
    obtain ⟨first, member⟩ := List.exists_mem_of_ne_nil candidates nonempty
    obtain ⟨_, encoded⟩ := minted first member
    obtain ⟨start, rfl, _⟩ := finish_of_minted encoded
    refine ⟨start, rfl, ?_⟩
    intro a listed
    obtain ⟨_, encoded⟩ := minted a listed
    exact fits_of_minted (carries start rfl a listed) encoded
  · rintro ⟨start, rfl, fits⟩
    apply forall₂_filterMap
    intro a listed
    obtain ⟨token, encoded⟩ : ∃ token, pickToken (Mac.ofHmac hmac) codec (some start) ring 1536 b
        a.id pendingText = .ok token := by
      rw [pickToken, encodeBound.eq_def, if_neg (by decide)]
      refine ⟨_, finish_of_fits (carries start rfl a listed).writes ?_⟩
      rw [len_tokenOf_le_iff, len_pickText_le_iff]
      exact fits a listed
    refine ⟨(a.display, token), ?_, rfl,
      replays_of_minted (carries start rfl a listed).reads encoded⟩
    rw [encoded]
    rfl

/-- The chooser of either adapter offers every candidate, and its buttons replay
the message, exactly when the clock stands after the epoch and no candidate's id
is too long for the message. -/
theorem chooser_offers_every_candidate_iff (hmac : Bytes → Bytes → Vector UInt8 32)
    (codec : BodyCodec) (clock : Option UInt64) (ring : KeyRing) (tenant sender : String)
    (candidates : List AgentDescriptor) (pendingText : String) (nonempty : candidates ≠ [])
    (carries : ∀ minted, clock = some minted → ∀ a ∈ candidates,
      Carries codec a.id pendingText (expiryHours minted)) :
    (∀ chrome, Offers (Mac.ofHmac hmac) codec clock ring Msteams.correlationCap
        ⟨"msteams", tenant, sender⟩ candidates pendingText
        (Msteams.buttonsOf (Msteams.chooser (Mac.ofHmac hmac) codec clock ring tenant sender chrome
          candidates pendingText)) ↔
      ∃ minted, clock = some minted ∧
        ∀ a ∈ candidates, Fits a.id pendingText (expiryHours minted)) ∧
    (∀ workspaceAddon theme clickEndpoint, Offers (Mac.ofHmac hmac) codec clock ring
        Googlechat.cardCorrelationCap ⟨"google_chat", tenant, sender⟩ candidates pendingText
        (Googlechat.buttonsOf (Googlechat.chooser (Mac.ofHmac hmac) codec clock ring tenant sender
          workspaceAddon theme clickEndpoint candidates pendingText) workspaceAddon) ↔
      ∃ minted, clock = some minted ∧
        ∀ a ∈ candidates, Fits a.id pendingText (expiryHours minted)) := by
  constructor
  · intro chrome
    rw [Msteams.chooser, Msteams.buttonsOf_buildAgentChooser]
    exact offers_signedButtons_iff nonempty carries
  · intro workspaceAddon theme clickEndpoint
    rw [Googlechat.chooser, Googlechat.buttonsOf_buildAgentChooser]
    exact offers_signedButtons_iff nonempty carries

/-! ### A chooser with one candidate -/

def salesAgent : AgentDescriptor := ⟨"sales", "Sales", "Quotes and orders", false⟩

/-- The JSON of a pick of the sales agent in the first second of the epoch. -/
def salesCodec (msg : String) : BodyCodec :=
  loneCodec (pickText salesAgent.id msg 168) ⟨useAgentTool, pickArgs salesAgent.id msg, some 168⟩

theorem expiryHours_zero : expiryHours 0 = 168 := by decide +kernel

theorem carries_salesCodec (msg : String) : Carries (salesCodec msg) salesAgent.id msg 168 :=
  ⟨rfl, loneCodec_inverts _ _⟩

def sampleHmac (_ _ : Bytes) : Vector UInt8 32 := Vector.replicate 32 7

def plainChrome : Msteams.CardChrome := ⟨none, none, .avatar⟩

def plainTheme : Googlechat.CardChrome := ⟨none, none, none, .avatar⟩

theorem short_message_offered :
    Offers (Mac.ofHmac sampleHmac) (salesCodec "hi") (some 0) sampleRing Msteams.correlationCap
        ⟨"msteams", "acme", "29:u"⟩ [salesAgent] "hi"
        (Msteams.buttonsOf (Msteams.chooser (Mac.ofHmac sampleHmac) (salesCodec "hi") (some 0)
          sampleRing "acme" "29:u" plainChrome [salesAgent] "hi")) ∧
      Offers (Mac.ofHmac sampleHmac) (salesCodec "hi") (some 0) sampleRing
        Googlechat.cardCorrelationCap ⟨"google_chat", "acme", "29:u"⟩ [salesAgent] "hi"
        (Googlechat.buttonsOf (Googlechat.chooser (Mac.ofHmac sampleHmac) (salesCodec "hi") (some 0)
          sampleRing "acme" "29:u" true plainTheme none [salesAgent] "hi") true) := by
  have fits : ∃ minted, some (0 : UInt64) = some minted ∧
      ∀ a ∈ [salesAgent], Fits a.id "hi" (expiryHours minted) := by
    refine ⟨0, rfl, ?_⟩
    rw [expiryHours_zero]
    simp only [List.mem_singleton, forall_eq, Fits]
    decide +kernel
  have carries : ∀ minted, some (0 : UInt64) = some minted → ∀ a ∈ [salesAgent],
      Carries (salesCodec "hi") a.id "hi" (expiryHours minted) := by
    intro minted reading a member
    cases reading
    cases List.mem_singleton.mp member
    rw [expiryHours_zero]
    exact carries_salesCodec "hi"
  have offered := chooser_offers_every_candidate_iff sampleHmac (salesCodec "hi") (some 0)
    sampleRing "acme" "29:u" [salesAgent] "hi" (List.cons_ne_nil _ _) carries
  exact ⟨(offered.1 plainChrome).mpr fits, (offered.2 true plainTheme none).mpr fits⟩

/-- A message of so many letters. -/
def letters (n : ℕ) : String := String.ofList (List.replicate n 'a')

theorem le_escapedLen_letters (n : ℕ) : n ≤ escapedLen (letters n) :=
  calc n = Text.len (letters n) := (Utf8.len_replicate (by decide) n).symm
    _ = String.utf8Len (letters n).toList := len_eq_utf8Len _
    _ ≤ escapedLen (letters n) := utf8Len_le_escape _

theorem not_fits_letters {n : ℕ} (long : 1096 < n) (id : String) (hours : UInt64) :
    ¬ Fits id (letters n) hours := by
  have grows := le_escapedLen_letters n
  rw [Fits]
  omega

theorem signedButtons_letters {n : ℕ} (long : 1096 < n) (b : Binding) :
    signedButtons (Mac.ofHmac sampleHmac) (salesCodec (letters n)) (some 0) sampleRing 1536 b
      [salesAgent] (letters n) = [] := by
  cases encoded : pickToken (Mac.ofHmac sampleHmac) (salesCodec (letters n)) (some 0) sampleRing
    1536 b salesAgent.id (letters n) with
  | error e => simp [signedButtons, encoded, Except.toOption]
  | ok token =>
    have carries := carries_salesCodec (letters n)
    rw [← expiryHours_zero] at carries
    exact absurd (fits_of_minted carries encoded) (not_fits_letters long _ _)

/-- A longer message gets the prompt to pick an agent, and no button. -/
theorem long_message_offered_nothing :
    Msteams.buttonsOf (Msteams.chooser (Mac.ofHmac sampleHmac) (salesCodec (letters 1200)) (some 0)
        sampleRing "acme" "29:u" plainChrome [salesAgent] (letters 1200)) = [] ∧
      Googlechat.buttonsOf (Googlechat.chooser (Mac.ofHmac sampleHmac) (salesCodec (letters 1200))
        (some 0) sampleRing "acme" "29:u" true plainTheme none [salesAgent] (letters 1200)) true =
          [] := by
  constructor
  · rw [Msteams.chooser, Msteams.buttonsOf_buildAgentChooser]
    exact signedButtons_letters (by decide) _
  · rw [Googlechat.chooser, Googlechat.buttonsOf_buildAgentChooser]
    exact signedButtons_letters (by decide) _

end Triton.Chat
