/-
# Cards for Gemini Enterprise

A tool result becomes a flat list of components that name their children by id.
The builder counts the components it has added, and every id has such a number in
it. A component with an action has its signed request in its id as well, because
the id is all a click sends back. What cannot be signed is left out; a form that
cannot be signed is shown without its inputs, which the builder has added by then
and takes back.

The page of an `embed` is a surface of its own. Surface ids are random and come
from outside, as do the clock, the hash, the decoder of components and the link rule.
-/

import Triton.A2ui.Canonical
import Triton.Correlation.Message
import Triton.Correlation.Token
import Triton.Lib.Resource

namespace Triton.A2ui.Ge

open Triton.Lib Triton.Correlation
open Triton.Lib.Record (str)

def basicCatalog : String :=
  "https://www.gstatic.com/vertexaisearch/a2ui/v0_9/gemini_enterprise_composite_catalog.json"

def themePrimaryColor : String := "#1a73e8"

def surfaceHead : String := "triton-answer-"

/-! ## Signed requests -/

def geActionCap : ℕ := 2048

/-- Thirty days. -/
def geActionTtlSecs : UInt64 := 2592000

/-- A day. -/
def geDocTtlSecs : UInt64 := 86400

def openDocTool : String := "__open_doc"

/-- The keys a card is signed with, and what signing takes from outside. -/
structure ActionSigner where
  mac : Mac
  codec : BodyCodec
  clock : Option UInt64
  ring : KeyRing

namespace ActionSigner

def binding : Binding := ⟨"a2ui-ge", "", ""⟩

def token (signer : ActionSigner) (tool : String) (args : Value) (ttl : UInt64) : Option String :=
  (encodeBound signer.mac signer.codec signer.clock tool args signer.ring.signing geActionCap
    binding (some ttl)).toOption

def sign (signer : ActionSigner) (message : String) : Option String :=
  signer.token Message.sendMessageTool (Message.textArgs message) geActionTtlSecs

/-- The template of a form, with the labels of its fields. -/
def signTemplate (signer : ActionSigner) (template : String) (labels : List (String × String)) :
    Option String :=
  let named := labels.foldl (fun members (k, v) => Members.insert k (.string v) members) []
  let args :=
    match Message.templateArgs template with
    | .object members => .object (Members.insert "labels" (.object named) members)
    | other => other
  signer.token Message.sendMessageTool args geActionTtlSecs

/-- The id of a component that has an action. -/
def actionId (n : ℕ) (token : String) : String := "a" ++ toString n ++ "-" ++ token

def signOpenDoc (signer : ActionSigner) (n : ℕ) (label skill id url : String) : Option String :=
  (signer.token openDocTool
    (Record.object [("l", str label), ("s", str skill), ("i", str id), ("u", str url)])
    geDocTtlSecs).map (actionId n)

end ActionSigner

open ActionSigner (actionId)

structure GeOptions where
  openUrl : Bool
  embed : Bool
  formFields : Bool

/-- What a card is built with. The decoder reads one component; the last field is a
switch of the process. -/
structure Env where
  signer : ActionSigner
  opts : GeOptions
  codec : Codec
  fromValue : Value → Option Component
  docCanvas : Bool

/-- Read, check and sanitize one component. -/
def parse (env : Env) (raw : Value) : Option Component :=
  (env.fromValue raw).bind fun c =>
    match c.check with
    | .error _ => none
    | .ok () => c.sanitized env.codec

/-! ## The builder -/

structure Card where
  flat : List Value
  n : ℕ
  forms : ℕ

abbrev Build := StateM Card

def nextN : Build ℕ := fun card => (card.n + 1, { card with n := card.n + 1 })

def push (comp : Value) : Build Unit := fun card => ((), { card with flat := card.flat ++ [comp] })

/-- Push a component under a fresh id. -/
def add (stem : String) (comp : List (String × Option Value)) : Build String := do
  let n ← nextN
  let id := stem ++ "-" ++ toString n
  push (Record.object (("id", str id) :: comp))
  return id

/-- Push a component under an id with a signed request. -/
def addSigned (token : String) (comp : List (String × Option Value)) : Build String := do
  let n ← nextN
  let id := actionId n token
  push (Record.object (("id", str id) :: comp))
  return id

/-- Nothing, or the one component a value asks for. -/
def optionally {α : Type} (value : Option α) (make : α → Build String) : Build (List String) :=
  match value with
  | none => return []
  | some a => do return [← make a]

def idList (ids : List String) : Option Value := some (.array (ids.map .string))

def text (content hint : String) : Build String :=
  add "t" [("component", str "MaterialText"), ("text", str content), ("usageHint", str hint)]

def column (children : List String) : Build String :=
  add "col" [("component", str "MaterialColumn"), ("children", idList children)]

def row (children : List String) : Build String :=
  add "row" [("component", str "MaterialRow"), ("children", idList children),
    ("justify", str "start"), ("align", str "stretch")]

def icon (name color : String) : Build String :=
  add "ic" [("component", str "MaterialIcon"), ("icon", str name), ("color", str color)]

/-- The action of a button that posts an event. -/
def eventAction (name : String) (context : Members) : Option Value :=
  some (Record.object [("event", some (Record.object [("name", str name),
    ("context", some (.object context))]))])

def button (label variant : String) (action : Option Value) : List (String × Option Value) :=
  [("component", str "MaterialButton"), ("label", str label), ("variant", str variant),
    ("color", str "primary"), ("action", action)]

section Build

variable (env : Env)

/-- A button that sends a message, unless the message is too long to sign. -/
def sendButton (label message variant : String) : Build (Option String) :=
  match env.signer.sign message with
  | none => return none
  | some token => do
      return some (← addSigned token (button label variant (eventAction "send_message" [])))

/-- A button that opens a document. Its number is spent even if it is dropped. -/
def docButton (caption label skill id url : String) : Build (Option String) := fun card =>
  match env.signer.signOpenDoc (card.n + 1) label skill id url with
  | none => (none, { card with n := card.n + 1 })
  | some signed =>
    let comp := Record.object
      (("id", str signed) :: button caption "outlined" (eventAction "open_doc" []))
    (some signed, { card with n := card.n + 1, flat := card.flat ++ [comp] })

def urlButton (label url : String) : Build (Option String) :=
  if !env.opts.openUrl || !env.codec.isAllowedLink url then return none
  else do
    let call := Record.object [("call", str "openUrl"),
      ("args", some (Record.object [("url", str url)])), ("returnType", str "void")]
    return some (← add "lnk" (button label "basic"
      (some (Record.object [("functionCall", some call)]))))

def actionButton (label : String) (a : Action) (variant : String) : Build (Option String) :=
  match a with
  | .sendMessage message => sendButton env label message variant
  | .openUrl url => urlButton env label url

/-- Two by two. -/
def pairs {α : Type} : List α → List (List α)
  | [] => []
  | [a] => [[a]]
  | a :: b :: rest => [a, b] :: pairs rest

def buttonRows (ids : List String) : Build (List String) :=
  gather (fun chunk => do return [← row chunk]) (pairs ids)

def sendButtons (requests : List (String × String)) : Build (List String) :=
  gather (fun (label, message) => do return (← sendButton env label message "stroked").toList)
    requests

/-- One button for each option, with the template filled by that option alone. -/
def optionRequests (options : List SelectionOption) (template key : String) :
    List (String × String) :=
  options.filterMap fun o =>
    match Message.fillTemplate template fun k => if k = key then some o.value else none with
    | .error _ => none
    | .ok message => some (o.label, message)

/-! ### Lists and trees -/

/-- The control of a list item: in the place of its label, or at the end of its
row. -/
def itemControl (it : ListItem) : Build (Option String × Option String) :=
  match it.action, it.actionLabel with
  | some a, some caption => do return (none, ← actionButton env caption a "stroked")
  | some a, none => do return (← actionButton env it.label a "basic", none)
  | none, _ => return (none, none)

def orText (made : Option String) (content hint : String) : Build String :=
  match made with
  | some id => return id
  | none => text content hint

def listItem (it : ListItem) : Build String := do
  let (head, tail) ← itemControl env it
  let first ← orText head it.label "body1"
  let detail ← optionally (it.detail.filter (!·.isEmpty)) (text · "caption")
  let col ← column (first :: detail)
  match tail with
  | some btn => row [col, btn]
  | none => return col

def countsLine (counts : List TreeCount) : String :=
  " · ".intercalate (counts.map fun c => Text.trim (c.value ++ " " ++ c.label))

def nodeLine (label description : String) : String :=
  if description.isEmpty then label else label ++ " — " ++ description

/-- The action of a tree node, if it has one. -/
def nodeAction (caption : String) (action : Option Action) : Build (Option String) :=
  match action with
  | none => return none
  | some a => actionButton env caption a "basic"

/-- A panel, or a line when there is nothing inside. -/
def nodePanel (label description : String) (expanded : Bool) (inner : List String) :
    Build String :=
  if inner.isEmpty then text (nodeLine label description) "body2"
  else
    add "node" [("component", str "MaterialExpansionPanel"), ("title", str label),
      ("expanded", some (.bool expanded)), ("children", idList inner),
      ("description", Record.omitIf description.isEmpty (.string description))]

mutual

def treeNode : TreeNode → Build String
  | .mk label counts gap expanded chips action actionLabel children => do
      let description := countsLine counts
      let line := nodeLine label description
      if children.isEmpty && chips.isEmpty then
        let made ← nodeAction env line (if gap then none else action)
        orText made line "body2"
      else
        let chipBtns ← sendButtons env (chips.map fun ch => (ch.label, ch.message))
        let rows ← buttonRows chipBtns
        let control ← nodeAction env (actionLabel.getD label) action
        let below ← treeNodes children
        nodePanel label description (expanded || gap) (rows ++ control.toList ++ below)

def treeNodes : List TreeNode → Build (List String)
  | [] => return []
  | node :: rest => do
      let id ← treeNode node
      let others ← treeNodes rest
      return id :: others

end

/-! ### Forms -/

/-- An input of a form, bound to its place in the data model. -/
def fieldInput (path : String) (f : FormField) : List (String × Option Value) :=
  let value := ("value", some (Record.object [("path", str path)]))
  match f.kind with
  | .select =>
    [("component", str "MaterialSelect"), ("label", str f.label),
      ("options", some (.array (f.options.map fun o =>
        Record.object [("label", str o.label), ("value", str o.value)]))), value]
  | .integer =>
    [("component", str "MaterialInput"), ("label", str f.label), ("type", str "number"), value]
  | _ =>
    [("component", str "MaterialInput"), ("label", str f.label), value,
      ("placeholder", f.placeholder.map .string)]

def fieldInputs (ns : String) (fields : List FormField) : Build (List String) :=
  gather (fun f => do return [← add "in" (fieldInput (ns ++ "/" ++ f.name) f)]) fields

/-- Drop the components pushed last. -/
def takeBack (count : ℕ) : Build Unit := fun card =>
  ((), { card with flat := card.flat.take (card.flat.length - count) })

/-- The field of a template that needs one select and nothing else. -/
def onlySelect (fields : List FormField) (template : String) : Option FormField :=
  match Message.requiredPlaceholders template with
  | [one] => fields.find? fun f => f.name == one && f.kind == .select
  | _ => none

def preview (fields : List FormField) (template : String) : String :=
  Message.previewTemplate template fun name =>
    (fields.find? fun f => f.name == name).map FormField.label

/-- The one-click form: a button for each option of the only field the template
needs, or the preview the producer asked for. -/
def templateForm (title : String) (fields : List FormField) (template : String)
    (previewLabel : Option String) : Build (List String) := do
  let heading ← optionally (if title.isEmpty then none else some title) (text · "subtitle2")
  match onlySelect fields template with
  | some f => do
      let btns ← sendButtons env (optionRequests f.options template f.name)
      let rows ← buttonRows btns
      return heading ++ rows
  | none => do
      let shown ← optionally previewLabel fun label =>
        text (label ++ ": " ++ preview fields template) "body2"
      return heading ++ shown

/-- The place of a form in the data model. -/
def nextForm : Build String := fun card =>
  ("/f" ++ toString (card.forms + 1), { card with forms := card.forms + 1 })

/-- A form with inputs. Its submit maps every field to its place in the data
model. -/
def fieldForm (fields : List FormField) (template submitLabel : String) : Build (List String) := do
  let ns ← nextForm
  let context := fields.foldl (fun members f =>
    Members.insert f.name (Record.object [("path", str (ns ++ "/" ++ f.name))]) members) []
  let ids ← fieldInputs ns fields
  match env.signer.signTemplate template (fields.map fun f => (f.name, f.label)) with
  | none => do
      takeBack ids.length
      templateForm env "" fields template none
  | some token => do
      let id ← addSigned token (button (if submitLabel.isEmpty then "Send" else submitLabel) "flat"
        (eventAction "submit" context))
      return ids ++ [id]

def groupForm (submitLabel : String) (g : FormGroup) : Build (List String) :=
  if env.opts.formFields then fieldForm env g.fields g.sendTemplate submitLabel
  else templateForm env "" g.fields g.sendTemplate none

/-- One panel of a group of forms; the first one is open. -/
def formGroup (submitLabel : String) (note : Option String) (g : FormGroup) (k : ℕ) :
    Build String := do
  let inner ← groupForm env submitLabel g
  let remark ← optionally (note.filter (!·.isEmpty)) (text · "caption")
  add "grp" [("component", str "MaterialExpansionPanel"), ("title", str g.label),
    ("expanded", some (.bool (k == 0))), ("children", idList (inner ++ remark))]

def formGroups (title : Option String) (groups : List FormGroup) (submitLabel : String)
    (note : Option String) : Build (List String) := do
  let heading ← optionally (title.filter (!·.isEmpty)) (text · "subtitle2")
  let panels ← gather (fun (g, k) => do return [← formGroup env submitLabel note g k])
    groups.zipIdx
  return heading ++ panels

/-! ### Tables and progress -/

def tableRow (columns : List TableColumn) (r : TableRow) : Value :=
  .object (columns.foldl (fun members c =>
    Members.insert c.key (.string ((r.cells.lookup c.key).getD "")) members) [])

def table (title : Option String) (columns : List TableColumn) (rows : List TableRow) :
    Build String :=
  add "tbl" [("component", str "MaterialTable"),
    ("columns", some (.array (columns.map fun c =>
      Record.object [("header", str c.label), ("field", str c.key)]))),
    ("rows", some (.array (rows.map (tableRow columns)))), ("caption", title.map .string)]

def keyValueRow (p : KeyValuePair) : Value :=
  let value :=
    match p.before with
    | some b => b ++ " → " ++ p.value
    | none => p.value
  Record.object [("label", str p.label), ("value", str value)]

def keyValue (title : Option String) (kvs : List KeyValuePair) : Build String :=
  add "kv" [("component", str "MaterialTable"),
    ("columns", some (.array [Record.object [("header", str ""), ("field", str "label")],
      Record.object [("header", str ""), ("field", str "value")]])),
    ("rows", some (.array (kvs.map keyValueRow))), ("caption", title.map .string)]

/-- A fraction in per cent: clamped to the unit interval, multiplied with the
rounding of doubles (to nearest, ties to even), and rounded to a whole number with
halves away from zero. A zero keeps its sign. -/
def percent (bits : UInt64) : UInt64 :=
  let magnitude := bits &&& 0x7FFFFFFFFFFFFFFF
  if 0x7FF0000000000000 < magnitude || magnitude = 0 then bits
  else if bits >>> 63 = 1 then 0
  else if 0x3FF0000000000000 ≤ bits then Double.ofNat 100
  else
    let exponent := (bits >>> 52).toNat
    let fraction := (bits &&& 0xFFFFFFFFFFFFF).toNat
    let significand := if exponent = 0 then fraction else fraction + 0x10000000000000
    -- The product is this number times two to the power of `-scale`.
    let exact := significand * 100
    let scale := 1075 - max exponent 1
    let shift := exact.log2 - 52
    let kept := exact >>> shift
    let lost := exact % (1 <<< shift)
    let up := 0 < shift && (1 <<< shift < 2 * lost || (2 * lost = 1 <<< shift && kept % 2 = 1))
    let product := (if up then kept + 1 else kept) <<< shift
    Double.ofNat ((2 * product + (1 <<< scale)) >>> (scale + 1))

def progressBar (fraction : Option UInt64) : Build String :=
  add "pb" [("component", str "MaterialProgressBar"),
    ("mode", str (if fraction.isSome then "determinate" else "indeterminate")),
    ("value", fraction.map fun f => Value.ofF64 (percent f))]

def progressStep (s : ProgressStep) : Build String := do
  let name :=
    match s.state with
    | .done => "check_circle"
    | .active => "pending"
    | .pending => "radio_button_unchecked"
  let ic ← icon name "primary"
  let tx ← text s.label (if s.state = .active then "body1" else "body2")
  row [ic, tx]

def notice (tone : Tone) (title : Option String) (content : String) : Build String := do
  let (name, color) :=
    match tone with
    | .info => ("info", "primary")
    | .warn => ("warning", "warn")
    | .attention => ("error", "warn")
  let iconId ← icon name color
  let body :=
    match title.filter (!·.isEmpty) with
    | some t => t ++ ": " ++ content
    | none => content
  let textId ← text body "body2"
  row [iconId, textId]

/-! ### One component -/

/-- The ids that a component adds below the root column. -/
def component : Component → Build (List String)
  | .list title items => do
      let heading ← optionally title (text · "subtitle1")
      let cells ← gather (fun it => do return [← listItem env it]) items
      return heading ++ cells
  | .table title columns rows => do return [← table title columns rows]
  | .chips prompt chips => do
      let heading ← optionally prompt (text · "body2")
      let btns ← sendButtons env (chips.map fun ch => (ch.label, ch.message))
      let rows ← buttonRows btns
      return heading ++ rows
  | .tree title nodes _ => do
      let heading ← optionally title (text · "subtitle1")
      let below ← treeNodes env nodes
      return heading ++ below
  | .notice tone title content => do return [← notice tone title content]
  | .progress title steps fraction => do
      let heading ← optionally title (text · "subtitle2")
      let bar ← progressBar fraction
      let rows ← gather (fun s => do return [← progressStep s]) steps
      return heading ++ [bar] ++ rows
  | .keyValue title kvs => do return [← keyValue title kvs]
  | .selection prompt options _ argsKey _ (some submit) => do
      let heading ← text prompt "body2"
      let btns ← sendButtons env (optionRequests options submit.template argsKey)
      let rows ← buttonRows btns
      return heading :: rows
  | .form title fields submitLabel _ (some template) previewLabel =>
    if env.opts.formFields then do
      let heading ← optionally (if title.isEmpty then none else some title) (text · "subtitle2")
      let inner ← fieldForm env fields template submitLabel
      return heading ++ inner
    else templateForm env title fields template previewLabel
  | .header _ context stamp =>
    let line := [context, stamp].filterMap (·.filter (!·.isEmpty))
    optionally (if line.isEmpty then none else some (" · ".intercalate line)) (text · "caption")
  | .formGroups title groups submitLabel note => formGroups env title groups submitLabel note
  | .button label _ _ (some a) _ _ => do return (← actionButton env label a "flat").toList
  | .embed _ _ _ fallback => component fallback
  | .text value _ => do return [← text value "body1"]
  | .narration content => do return [← text content "caption"]
  | _ => return []

/-! ## The card of a tool result -/

/-- Change a member that is an object; anything else stays. -/
def withObject (key : String) (change : Members → Members) (members : Members) : Members :=
  match Members.get members key with
  | some (.object inner) => Members.insert key (.object (change inner)) members
  | _ => members

/-- Labels along the x axis are written level. -/
def levelLabels (x : Members) : Members :=
  match Members.get x "axis" with
  | some (.object axis) =>
    Members.insert "axis" (.object (Members.insert "labelAngle" (.ofInt 0) axis)) x
  | _ => Members.insert "axis" (Record.object [("labelAngle", some (.ofInt 0))]) x

/-- A colour that says what the x axis says needs no legend. -/
def dropLegend (field : Option String) (color : Members) : Members :=
  if field.isSome && (Members.get color "field").bind Value.asStr == field then
    Members.insert "legend" .null color
  else color

def beautifyVegaForGe : Value → Value
  | .object spec =>
    .object (withObject "encoding" (fun enc =>
      let field := ((Members.get enc "x").bind (·.get "field")).bind Value.asStr
      withObject "color" (dropLegend field) (withObject "x" levelLabels enc))
        (Members.insert "width" (.string "container") spec))
  | other => other

/-- The ids below the root column, the buttons that are laid out last, and the
pages that become surfaces of their own. -/
structure Layout where
  rootChildren : List String
  actionBtnIds : List String
  sourceBtnIds : List String
  canvases : List (String × String × Option UInt32)

def textOf (c : Value) (key : String) : Option String := (c.get key).bind Value.asStr

def placeReport (layout : Layout) (c : Value) : Build Layout :=
  match (c.get "vega_spec").filter Value.isObject, textOf c "image_url" with
  | some spec, _ => do
      let id ← add "chart" [("component", str "VegaChart"),
        ("spec", some (beautifyVegaForGe spec)), ("height", some (.ofInt 300))]
      return { layout with rootChildren := layout.rootChildren ++ [id] }
  | none, some url => do
      let id ← add "chart" [("component", str "Image"), ("url", str url), ("fit", str "contain"),
        ("description", (textOf c "title").map .string)]
      return { layout with rootChildren := layout.rootChildren ++ [id] }
  | none, none => return layout

/-- The question a tool button asks again. -/
def reask (c : Value) (tool : String) : Option String :=
  ((c.get "args").bind fun args =>
    ((args.get "question").or (args.get "message")).bind Value.asStr).filter
      fun _ => tool != "render_report"

def askButton (label : String) (question : Option String) : Build (Option String) :=
  match question with
  | none => return none
  | some q => sendButton env label q "flat"

def orButton (made : Option String) (label tool : String) : Build String :=
  match made with
  | some id => return id
  | none => add "btn" (button label "flat" (eventAction tool []))

def componentIds (c : Value) : Build (List String) :=
  match parse env c with
  | none => return []
  | some comp => component env comp

def placeButton (layout : Layout) (c : Value) : Build Layout :=
  if (c.get "action").any Value.isObject then do
    let ids ← componentIds env c
    return { layout with actionBtnIds := layout.actionBtnIds ++ ids }
  else do
    let label := (textOf c "label").getD "Open"
    let tool := (textOf c "tool").getD ""
    let made ← askButton env label (reask c tool)
    let id ← orButton made label tool
    return { layout with actionBtnIds := layout.actionBtnIds ++ [id] }

def splitSkillId (label : String) : String × String :=
  match Text.splitOnceAt " · " label with
  | some (skill, id) => (Text.trim skill, Text.trim id)
  | none => ("", "")

def shortLabel (label : String) : String :=
  if 24 < label.toList.length then String.ofList (label.toList.take 23) ++ "…" else label

/-- Add source buttons until there are two. -/
def sourceButtons : List Value → List String → Build (List String)
  | [], ids => return ids
  | it :: rest, ids =>
    match (textOf it "resource").filter env.codec.isAllowedLink with
    | none => sourceButtons rest ids
    | some url => do
        let label := (textOf it "label").getD "source"
        let (skill, docId) := splitSkillId label
        let made ← docButton env ("Open: " ++ shortLabel label) label skill docId url
        if 2 ≤ (ids ++ made.toList).length then return ids ++ made.toList
        else sourceButtons rest (ids ++ made.toList)

def placeSources (layout : Layout) (c : Value) : Build Layout :=
  match env.docCanvas, (c.get "items").bind Value.asArray with
  | true, some items => do
      let ids ← sourceButtons env items layout.sourceBtnIds
      return { layout with sourceBtnIds := ids }
  | _, _ => return layout

def placeComponent (layout : Layout) (c : Value) : Build Layout := do
  let ids ← componentIds env c
  return { layout with rootChildren := layout.rootChildren ++ ids }

/-- A page that may be shown becomes a surface; another component is placed. -/
def placeEmbed (layout : Layout) (c : Value) : Build Layout :=
  match parse env c with
  | some (.embed url title height _) =>
    if env.codec.isAllowedLink url then
      return { layout with canvases := layout.canvases ++ [(url, title, height)] }
    else placeComponent env layout c
  | _ => placeComponent env layout c

def place (layout : Layout) (c : Value) : Build Layout :=
  let kind := (textOf c "kind").getD ""
  -- Prose is the message above the card and is not repeated in it.
  if kind = "text" || kind = "narration" then return layout
  else if kind = "report" then placeReport layout c
  else if kind = "button" then placeButton env layout c
  else if kind = "sources" then placeSources env layout c
  else if kind = "embed" && env.opts.embed then placeEmbed env layout c
  else placeComponent env layout c

def placeAll (components : List Value) : Build Layout := do
  let layout ← components.foldlM (place env) ⟨[], [], [], []⟩
  let actionRows ← buttonRows layout.actionBtnIds
  let sourceRows ← buttonRows layout.sourceBtnIds
  return { layout with rootChildren := layout.rootChildren ++ actionRows ++ sourceRows,
                       actionBtnIds := [], sourceBtnIds := [] }

def rootColumn (children : List String) : Value :=
  Record.object [("id", str "root-col"), ("component", str "MaterialColumn"),
    ("children", idList children)]

def rootCard : Value :=
  Record.object [("id", str "root"), ("component", str "MaterialCard"),
    ("appearance", str "outlined"), ("children", idList ["root-col"])]

def canvasFrame (url : String) (height : UInt32) : Value :=
  Record.object [("id", str "frame"), ("component", str "IFrameUrl"), ("url", str url),
    ("height", some (.number (.posInt height.toNat)))]

def canvasRoot (title : String) (autoOpen : Bool) : Value :=
  Record.object [("id", str "root"), ("component", str "Canvas"),
    ("children", idList ["frame"]), ("autoOpen", some (.bool autoOpen)),
    ("cardTitle", str title), ("cardIcon", str "account_tree")]

/-- A page in a side panel. -/
def embedCanvas (url title : String) (height : UInt32) (autoOpen : Bool) : List Value :=
  [canvasFrame url height, canvasRoot title autoOpen]

def surfacePair (uuid : String) (flat : List Value) : List Value :=
  let surfaceId := surfaceHead ++ uuid
  [Record.object [("version", str "v0.9"), ("createSurface", some (Record.object [
      ("surfaceId", str surfaceId), ("catalogId", str basicCatalog),
      ("theme", some (Record.object [("primaryColor", str themePrimaryColor),
        ("agentDisplayName", str "DataZoo Agent")]))]))],
    Record.object [("version", str "v0.9"), ("updateComponents", some (Record.object [
      ("surfaceId", str surfaceId), ("components", some (.array flat))]))]]

/-- The component lists of the surfaces of a result. -/
def surfaces (components : List Value) : List (List Value) :=
  let (layout, card) := placeAll env components ⟨[], 0, 0⟩
  let own :=
    if layout.rootChildren.isEmpty then []
    else [card.flat ++ [rootColumn layout.rootChildren, rootCard]]
  own ++ layout.canvases.map fun (url, title, height) =>
    embedCanvas url title (height.getD 640) false

/-- The messages of a result. The surfaces have the given ids, one after the
other. -/
def cardMessages (uuids : ℕ → String) (result : Value) : Option (List Value) := do
  let components ← ((result.get "surface").bind (·.get "components")).bind Value.asArray
  let messages := (surfaces env components).zipIdx.flatMap fun (flat, k) =>
    surfacePair (uuids k) flat
  if messages.isEmpty then none else some messages

end Build

end Triton.A2ui.Ge
