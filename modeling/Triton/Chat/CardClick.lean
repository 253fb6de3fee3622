/-
# Clicks on a card

A card carries a signed token for each of its controls: the tool, and the
arguments the control presets. A click brings the token back together with every
input of the card, and whatever else the client puts beside it. Both adapters
write the inputs that are not blank over the signed arguments, so an input can
replace what the token fixed. A click keeps the signed arguments exactly when no
input names one of them with another value.
-/

import Triton.Correlation.Rotation
import Triton.Core.Error

namespace Triton.Chat

open Triton.Lib Triton.Core Triton.Correlation

/-- The inputs of a click, by name. -/
abbrev Inputs := List (String × String)

def useAgentTool : String := "__use_agent"

def sendMessageTool : String := "__send_message"

def openDocTool : String := "__open_doc"

/-- The inputs that are not blank. -/
def filled (inputs : Inputs) : Inputs := inputs.filter (!·.2.isEmpty)

/-- The members of an object; anything else has none. -/
def membersOf : Value → Members
  | .object members => members
  | _ => []

/-- Write inputs over arguments. Arguments that are no object give way to one. -/
def overlay (args : Value) (inputs : Inputs) : Value :=
  if inputs.isEmpty then args
  else
    .object (inputs.foldl (fun members input =>
      Members.insert input.1 (.string input.2) members) (membersOf args))

/-- A member as the text it holds, the empty text if it holds none. -/
def textMember (args : Value) (key : String) : String :=
  ((args.get key).bind Value.asStr).getD ""

/-- What a verified click leads to. -/
inductive Clicked where
  | dispatch (tool : String) (args : Value)
  | pick (agentId message : String)
  | document (skill id : String)
  | refresh (args : Value)
  | message (args : Value) (inputs : Inputs)

/-! ## Teams -/

namespace Msteams

/-- The verb of every signed control on a card. -/
def actionVerb : String := "agentAction"

def correlationCap : ℕ := 1536

def tokenDataKey : String := "ct"

def refreshTool : String := "__refresh_task"

inductive CallbackKind where
  | execute
  | submit
  deriving DecidableEq, Repr

/-- An input as an argument: texts, numbers as `numberText` writes them, and
toggles. Anything else is ignored. -/
def inputAsString (numberText : Number → String) : Value → Option String
  | .string s => some s
  | .number n => some (numberText n)
  | .bool b => some (if b then "true" else "false")
  | _ => none

/-- The token and the inputs of a callback. -/
def extractCallback (numberText : Number → String) (value : Value) (kind : CallbackKind) :
    Option (String × Inputs) :=
  let data :=
    match kind with
    | .execute => (value.get "action").bind (·.get "data")
    | .submit => some value
  match data with
  | some (.object members) =>
    ((Members.get members tokenDataKey).bind Value.asStr).map fun token =>
      (token, (members.filter (·.1 != tokenDataKey)).filterMap fun member =>
        (inputAsString numberText member.2).map (member.1, ·))
  | _ => none

def mergeInputs (args : Value) (inputs : Inputs) : Value := overlay args (filled inputs)

/-- What a click with this token leads to. `routed` says that an agent router is
wired. -/
def clicked (routed : Bool) (tool : String) (args : Value) (inputs : Inputs) : Clicked :=
  if tool = refreshTool then .refresh args
  else if tool = sendMessageTool then .message args inputs
  else
    let args := mergeInputs args inputs
    if tool = useAgentTool && routed then .pick (textMember args "id") (textMember args "msg")
    else .dispatch tool args

/-- A card callback, up to the dispatch. -/
def handleCallback (mac : Mac) (codec : BodyCodec) (clock : Option UInt64) (ring : KeyRing)
    (tenant sender : String) (numberText : Number → String) (routed : Bool) (value : Value)
    (kind : CallbackKind) : Except TritonError Clicked :=
  match extractCallback numberText value kind with
  | none => .error (.validation "card callback missing correlation token")
  | some (token, inputs) =>
    match decodeBoundAny mac codec clock token ring correlationCap
      ⟨"msteams", tenant, sender⟩ with
    | .error _ => .error (.auth "card callback correlation token invalid")
    | .ok (tool, args) => .ok (clicked routed tool args inputs)

end Msteams

/-! ## Google Chat -/

namespace Googlechat

def cardCorrelationCap : ℕ := 1536

/-- A click: the token, and the values of each form input that has any. -/
structure CardClick where
  token : Option String
  formInputs : List (String × Option (List String))

/-- The first value of each input. -/
def CardClick.inputs (click : CardClick) : Inputs :=
  click.formInputs.filterMap fun input =>
    (input.2.bind List.head?).map (input.1, ·)

def clicked (routed : Bool) (tool : String) (args : Value) (inputs : Inputs) : Clicked :=
  let args := overlay args (filled inputs)
  if tool = openDocTool then .document (textMember args "skill") (textMember args "id")
  else if tool = useAgentTool && routed then .pick (textMember args "id") (textMember args "msg")
  else .dispatch tool args

/-- A card click, up to the dispatch. -/
def handleClick (mac : Mac) (codec : BodyCodec) (clock : Option UInt64) (ring : KeyRing)
    (tenant sender : String) (routed : Bool) (click : CardClick) : Except TritonError Clicked :=
  match click.token with
  | none => .error (.validation "CARD_CLICKED missing correlation token")
  | some token =>
    match decodeBoundAny mac codec clock token ring cardCorrelationCap
      ⟨"google_chat", tenant, sender⟩ with
    | .error _ => .error (.auth "CARD_CLICKED correlation token invalid")
    | .ok (tool, args) => .ok (clicked routed tool args click.inputs)

end Googlechat

/-! ## What a click keeps -/

/-- The text the inputs give a key. A later input wins over an earlier one. -/
def given (inputs : Inputs) (key : String) : Option String := (filled inputs).reverse.lookup key

/-- An input names a signed argument and says something else. -/
def Overrides (signed : Value) (inputs : Inputs) (key : String) : Prop :=
  ∃ text value, given inputs key = some text ∧ signed.get key = some value ∧ value ≠ .string text

/-- The arguments agree with the signed ones on every key these have. -/
def Agrees (signed args : Value) : Prop :=
  ∀ key value, signed.get key = some value → args.get key = some value

/-- The same for a text read from one key. -/
def AgreesAt (signed : Value) (key text : String) : Prop :=
  ∀ value, signed.get key = some value → text = value.asStr.getD ""

/-- What is used agrees with what was signed. A message click is not judged: its
text has a law of its own. -/
def Clicked.Keeps (signed : Value) : Clicked → Prop
  | .dispatch _ args | .refresh args => Agrees signed args
  | .pick agentId text => AgreesAt signed "id" agentId ∧ AgreesAt signed "msg" text
  | .document skill id => AgreesAt signed "skill" skill ∧ AgreesAt signed "id" id
  | .message _ _ => True

/-- A tool is called with every argument. The router is given the agent and the
message only. -/
def UsesMerged (routed : Bool) (tool key : String) : Prop :=
  tool = useAgentTool → routed = true → key = "id" ∨ key = "msg"

/-- The keys that a click uses of the signed arguments with the inputs over them. A
refresh takes the signed ones as they are. -/
def Msteams.Uses (routed : Bool) (tool key : String) : Prop :=
  tool ≠ refreshTool ∧ UsesMerged routed tool key

def Googlechat.Uses (routed : Bool) (tool key : String) : Prop :=
  if tool = openDocTool then key = "skill" ∨ key = "id" else UsesMerged routed tool key

theorem get_membersOf (args : Value) (key : String) :
    Members.get (membersOf args) key = args.get key := by
  cases args <;> rfl

theorem get_foldl_insert (inputs : Inputs) (base : Members) (key : String) :
    Members.get (inputs.foldl (fun members input =>
        Members.insert input.1 (.string input.2) members) base) key =
      ((inputs.reverse.lookup key).map Value.string).or (Members.get base key) := by
  induction inputs generalizing base with
  | nil => rfl
  | cons input rest ih =>
    obtain ⟨name, text⟩ := input
    rw [List.foldl_cons, ih, Members.get_insert, List.reverse_cons, List.lookup_append]
    cases later : rest.reverse.lookup key with
    | some text => rfl
    | none =>
      by_cases same : key = name
      · simp [same]
      · have differs : (key == name) = false := beq_false_of_ne same
        simp [List.lookup_cons, same, differs]

/-- A key of the arguments under the inputs. -/
theorem get_overlay (args : Value) (inputs : Inputs) (key : String) :
    (overlay args (filled inputs)).get key =
      ((given inputs key).map Value.string).or (args.get key) := by
  rw [overlay, given]
  by_cases blank : filled inputs = []
  · simp [blank]
  · rw [if_neg (by simpa using blank), ← get_membersOf args key]
    exact get_foldl_insert (filled inputs) (membersOf args) key

/-- The merged arguments agree exactly where nothing overrides. -/
theorem agrees_overlay_iff (signed : Value) (inputs : Inputs) :
    Agrees signed (overlay signed (filled inputs)) ↔ ∀ key, ¬ Overrides signed inputs key := by
  constructor
  · intro agrees key overrides
    obtain ⟨text, value, input, preset, differs⟩ := overrides
    have kept := agrees key value preset
    rw [get_overlay, input] at kept
    exact differs (Option.some.inj kept).symm
  · intro free key value preset
    rw [get_overlay]
    cases input : given inputs key with
    | none => simpa using preset
    | some text =>
      by_cases same : value = .string text
      · simp [same]
      · exact absurd ⟨text, value, input, preset, same⟩ (free key)

/-- A text read from the merged arguments agrees exactly when its key is not
overridden. An input is not blank, so it never stands for a missing text. -/
theorem agreesAt_overlay_iff (signed : Value) (inputs : Inputs) (key : String) :
    AgreesAt signed key (textMember (overlay signed (filled inputs)) key) ↔
      ¬ Overrides signed inputs key := by
  rw [textMember, get_overlay]
  constructor
  · intro agrees overrides
    obtain ⟨text, value, input, preset, differs⟩ := overrides
    have read := agrees value preset
    have listed : (key, text) ∈ filled inputs := List.mem_reverse.mp (mem_of_lookup input)
    have filled : text ≠ "" := by
      intro empty
      have kept := (List.mem_filter.mp listed).2
      simp [empty] at kept
    simp only [input, Option.map_some, Option.some_or, Option.bind_some, Value.asStr,
      Option.getD_some] at read
    cases value with
    | string s => exact differs (by rw [read]; rfl)
    | null | bool | number | array | object => exact filled read
  · intro free value preset
    cases input : given inputs key with
    | none => simp [preset]
    | some text =>
      by_cases same : value = .string text
      · simp [same, Value.asStr]
      · exact absurd ⟨text, value, input, preset, same⟩ free

/-- A pair of texts read from the merged arguments. -/
theorem agreesAt_pair_iff (signed : Value) (inputs : Inputs) (first second : String) :
    (AgreesAt signed first (textMember (overlay signed (filled inputs)) first) ∧
        AgreesAt signed second (textMember (overlay signed (filled inputs)) second)) ↔
      ∀ key, key = first ∨ key = second → ¬ Overrides signed inputs key := by
  rw [agreesAt_overlay_iff, agreesAt_overlay_iff]
  constructor
  · intro free key named
    rcases named with same | same
    · exact same ▸ free.1
    · exact same ▸ free.2
  · intro free
    exact ⟨free first (.inl rfl), free second (.inr rfl)⟩

/-- Where both adapters end: at the router, or at the tool. -/
theorem merged_keeps_iff (routed : Bool) (tool : String) (signed : Value) (inputs : Inputs) :
    let args := overlay signed (filled inputs)
    (if tool = useAgentTool && routed then
        Clicked.pick (textMember args "id") (textMember args "msg")
      else .dispatch tool args).Keeps signed ↔
      ∀ key, UsesMerged routed tool key → ¬ Overrides signed inputs key := by
  intro args
  split
  · rename_i picks
    obtain ⟨named, wired⟩ : tool = useAgentTool ∧ routed = true := by simpa using picks
    simp only [UsesMerged, named, wired, true_implies]
    exact agreesAt_pair_iff signed inputs "id" "msg"
  · rename_i calls
    have every (key : String) : UsesMerged routed tool key :=
      fun named wired => absurd (by simp [named, wired]) calls
    have dispatched := agrees_overlay_iff signed inputs
    simpa [Clicked.Keeps, every] using dispatched

theorem Msteams.clicked_keeps_iff (routed : Bool) {tool : String} (signed : Value)
    (inputs : Inputs) (other : tool ≠ sendMessageTool) :
    (Msteams.clicked routed tool signed inputs).Keeps signed ↔
      ∀ key, Msteams.Uses routed tool key → ¬ Overrides signed inputs key := by
  by_cases refreshing : tool = refreshTool
  · -- a refresh uses the signed arguments as they are
    simp only [Msteams.clicked, if_pos refreshing]
    exact iff_of_true (fun _ _ preset => preset) fun _ used => absurd refreshing used.1
  · simp only [Msteams.clicked, Msteams.Uses, refreshing, if_neg other, mergeInputs, ne_eq,
      not_false_eq_true, true_and]
    exact merged_keeps_iff routed tool signed inputs

theorem Googlechat.clicked_keeps_iff (routed : Bool) (tool : String) (signed : Value)
    (inputs : Inputs) :
    (Googlechat.clicked routed tool signed inputs).Keeps signed ↔
      ∀ key, Googlechat.Uses routed tool key → ¬ Overrides signed inputs key := by
  simp only [Googlechat.clicked, Googlechat.Uses]
  split
  · exact agreesAt_pair_iff signed inputs "skill" "id"
  · exact merged_keeps_iff routed tool signed inputs

/-- A click whose token verifies leads somewhere, and keeps what the token fixed
exactly when no input overrides an argument that is used. -/
theorem click_keeps_signed_args_iff (mac : Mac) (codec : BodyCodec) (clock : Option UInt64)
    (ring : KeyRing) (tenant sender : String) (routed : Bool) (token tool : String)
    (signed : Value) (other : tool ≠ sendMessageTool) :
    (∀ (numberText : Number → String) (value : Value) (kind : Msteams.CallbackKind)
        (inputs : Inputs),
      decodeBoundAny mac codec clock token ring Msteams.correlationCap
        ⟨"msteams", tenant, sender⟩ = .ok (tool, signed) →
      Msteams.extractCallback numberText value kind = some (token, inputs) →
      ∃ clicked, Msteams.handleCallback mac codec clock ring tenant sender numberText routed value
          kind = .ok clicked ∧
        (clicked.Keeps signed ↔
          ∀ key, Msteams.Uses routed tool key → ¬ Overrides signed inputs key)) ∧
    (∀ click : Googlechat.CardClick,
      decodeBoundAny mac codec clock token ring Googlechat.cardCorrelationCap
        ⟨"google_chat", tenant, sender⟩ = .ok (tool, signed) →
      click.token = some token →
      ∃ clicked, Googlechat.handleClick mac codec clock ring tenant sender routed click =
          .ok clicked ∧
        (clicked.Keeps signed ↔
          ∀ key, Googlechat.Uses routed tool key → ¬ Overrides signed click.inputs key)) := by
  constructor
  · intro numberText value kind inputs verified carried
    have handled : Msteams.handleCallback mac codec clock ring tenant sender numberText routed
        value kind = .ok (Msteams.clicked routed tool signed inputs) := by
      simp only [Msteams.handleCallback, carried, verified]
    exact ⟨_, handled, Msteams.clicked_keeps_iff routed signed inputs other⟩
  · intro click verified carried
    have handled : Googlechat.handleClick mac codec clock ring tenant sender routed click =
        .ok (Googlechat.clicked routed tool signed click.inputs) := by
      simp only [Googlechat.handleClick, carried, verified]
    exact ⟨_, handled, Googlechat.clicked_keeps_iff routed tool signed click.inputs⟩

/-! ### A button that orders an article -/

def sampleArgs : Value := .object [("sku", .string "A1")]

def orderText : String :=
  "\x7b\"t\":\"order\",\"a\":\x7b\"sku\":\"A1\"\x7d,\"x\":1\x7d"

def orderCodec : BodyCodec := loneCodec orderText ⟨"order", sampleArgs, some 1⟩

def orderToken : String := tokenOf (Utf8.encode orderText) (List.replicate 8 7)

theorem encodeBoundAt_order (b : Binding) :
    encodeBoundAt sampleMac orderCodec "order" sampleArgs sampleOldKey 1536 b 3600 =
      .ok orderToken := by
  have fits : Text.len orderToken ≤ 1536 := by
    rw [orderToken, len_tokenOf, Utf8.length_encode]
    decide +kernel
  rw [encodeBoundAt, if_neg (by decide)]
  exact finish_of_fits rfl fits

theorem decodeBoundAny_order (b : Binding) :
    decodeBoundAny sampleMac orderCodec (some 0) orderToken sampleRing 1536 b =
      .ok ("order", sampleArgs) := by
  obtain ⟨named, minted⟩ := encodeBoundAt_eq_ok (encodeBoundAt_order b)
  exact decodeBoundAny_minted (loneCodec_inverts _ _) named minted (by simp [sampleRing]) (some 0)

/-- What a client submits with the button. -/
def submitted (key text : String) : Value :=
  .object [("ct", .string orderToken), (key, .string text)]

def pressed (key text : String) : Googlechat.CardClick := ⟨some orderToken, [(key, some [text])]⟩

/-- An input of another name leaves the article alone. -/
theorem click_with_quantity_keeps_article :
    "order" ≠ sendMessageTool ∧
      ∃ clicked, Msteams.handleCallback sampleMac orderCodec (some 0) sampleRing "acme" "29:u"
          (fun _ => "") false (submitted "quantity" "2") .submit = .ok clicked ∧
        clicked.Keeps sampleArgs := by
  have other : "order" ≠ sendMessageTool := by decide
  have carried : Msteams.extractCallback (fun _ => "") (submitted "quantity" "2") .submit =
      some (orderToken, [("quantity", "2")]) := rfl
  obtain ⟨clicked, handled, keeps⟩ := (click_keeps_signed_args_iff sampleMac orderCodec (some 0)
    sampleRing "acme" "29:u" false orderToken "order" sampleArgs other).1 (fun _ => "")
      (submitted "quantity" "2") .submit _ (decodeBoundAny_order _) carried
  refine ⟨other, clicked, handled, keeps.mpr ?_⟩
  intro key _ overrides
  obtain ⟨text, value, input, preset, _⟩ := overrides
  by_cases named : key = "sku"
  · subst named
    cases input
  · have absent : sampleArgs.get key = none := by
      simp [sampleArgs, Value.get, Members.get, List.lookup_cons, beq_false_of_ne named]
    rw [absent] at preset
    cases preset

/-- An input named like the signed argument orders another article, on both
platforms. -/
theorem click_replaces_signed_article :
    (∀ b, encodeBoundAt sampleMac orderCodec "order" sampleArgs sampleOldKey 1536 b 3600 =
      .ok orderToken) ∧
    Msteams.handleCallback sampleMac orderCodec (some 0) sampleRing "acme" "29:u" (fun _ => "")
        false (submitted "sku" "Z9") .submit =
      .ok (.dispatch "order" (.object [("sku", .string "Z9")])) ∧
    Googlechat.handleClick sampleMac orderCodec (some 0) sampleRing "acme" "29:u" false
        (pressed "sku" "Z9") =
      .ok (.dispatch "order" (.object [("sku", .string "Z9")])) := by
  have carried : Msteams.extractCallback (fun _ => "") (submitted "sku" "Z9") .submit =
      some (orderToken, [("sku", "Z9")]) := rfl
  refine ⟨encodeBoundAt_order, ?_, ?_⟩
  · simp only [Msteams.handleCallback, carried, Msteams.correlationCap, decodeBoundAny_order]
    rfl
  · simp only [Googlechat.handleClick, pressed, Googlechat.cardCorrelationCap, decodeBoundAny_order]
    rfl

end Triton.Chat
