/-
# Conversation components on a Teams card

Each conversation component of a surface becomes some elements of an Adaptive Card.
A control carries a signed token; what cannot be signed is left out. The ids of
inputs are global on a card, so the inputs of a template component live under a
namespace of their own, and the placeholders of its template are renamed alike.
-/

import Triton.A2ui.Ge
import Triton.Chat.CardClick

namespace Triton.Chat.Msteams

open Triton.Lib Triton.A2ui Triton.Correlation
open Triton.Lib.Record (str)

def openEmbedTool : String := "__open_embed"

/-- Sign a tool and its arguments; a token that gets too long is refused. -/
abbrev Sign := String → Value → Option String

/-- A member that holds a truth value. -/
def flag (b : Bool) : Option Value := some (.bool b)

/-- A member that holds a list. -/
def items (values : List Value) : Option Value := some (.array values)

/-- An element or action of a card. -/
def element (kind : String) (fields : List (String × Option Value)) : Value :=
  Record.object (("type", str kind) :: fields)

def heading (text : String) : Value :=
  element "TextBlock" [("text", str text), ("weight", str "Bolder"), ("wrap", flag true)]

/-- A control that comes back with its token. Only the submit of a template gathers
the inputs of the card. -/
def execute (title token : String) (gather : Bool) : List (String × Option Value) :=
  [("verb", str actionVerb), ("title", str title),
    ("data", some (Record.object [(tokenDataKey, str token)])),
    ("associatedInputs", if gather then none else str "none")]

/-- A value as a text block shows it, with its Markdown escaped. -/
def plain (value : String) : String :=
  String.ofList (value.toList.flatMap fun c =>
    if "\\*_[]`~#<>|".toList.contains c then ['\\', c] else [c])

def actionSet (actions : List Value) : Value := element "ActionSet" [("actions", items actions)]

/-- Nothing, or the one element a value asks for. -/
def optionally {α : Type} (value : Option α) (make : α → Value) : List Value :=
  (value.map make).toList

def styleName : SelectionStyle → String
  | .radio => "expanded"
  | .dropdown => "compact"

def choices (options : List SelectionOption) : Option Value :=
  items (options.map fun o => Record.object [("title", str o.label), ("value", str o.value)])

/-- What will be sent, with the choices marked. -/
def previewBlock (label preview : String) : Value :=
  element "TextBlock" [("text", str (label ++ ": " ++ preview)), ("isSubtle", flag true),
    ("size", str "Small"), ("wrap", flag true)]

/-! ## Inputs -/

def defaultText (f : FormField) : Option Value :=
  (f.defaultValue.bind Value.asStr).map .string

def textInput (f : FormField) (id : String) (required multiline : Bool) : Value :=
  element "Input.Text" [("id", str id), ("label", str f.label), ("isRequired", flag required),
    ("isMultiline", flag multiline), ("placeholder", f.placeholder.map .string),
    ("value", defaultText f)]

/-- An input of a form. What the template fills is required. -/
def input (f : FormField) (ns : String) (inTemplate : Bool) : Value :=
  let required := f.required || inTemplate
  let id := ns ++ f.name
  match f.kind with
  | .select =>
    element "Input.ChoiceSet" [("id", str id), ("label", str f.label),
      ("style", str (styleName f.style)), ("isRequired", flag required),
      ("choices", choices f.options), ("value", defaultText f)]
  | .text => textInput f id required true
  | .string => textInput f id required false
  | .integer =>
    element "Input.Number" [("id", str id), ("label", str f.label),
      ("isRequired", flag required)]
  | .boolean => element "Input.Toggle" [("id", str id), ("title", str f.label)]

/-! ## Elements without controls -/

def column (width : String) (inner : List Value) (more : List (String × Option Value)) : Value :=
  element "Column" ([("width", str width), ("items", items inner)] ++ more)

def columnSet (columns : List Value) (more : List (String × Option Value)) : Value :=
  element "ColumnSet" (("columns", items columns) :: more)

def header (title : String) (context stamp : Option String) : List Value :=
  let head := column "stretch" [element "TextBlock" [("text", str (plain title)),
    ("weight", str "Bolder"), ("size", str "Medium"), ("wrap", flag true)]] []
  let beside := optionally (stamp.filter (!·.isEmpty)) fun s =>
    column "auto" [element "TextBlock" [("text", str (plain s)), ("isSubtle", flag true),
      ("size", str "Small")]] [("verticalContentAlignment", str "Center")]
  columnSet (head :: beside) [] :: optionally (context.filter (!·.isEmpty)) fun c =>
    element "TextBlock" [("text", str (plain c)), ("isSubtle", flag true), ("wrap", flag true),
      ("spacing", str "None")]

def notice (tone : Tone) (title : Option String) (text : String) : Value :=
  let style :=
    match tone with
    | .info => "accent"
    | .warn => "warning"
    | .attention => "attention"
  element "Container" [("style", str style),
    ("items", items (optionally (title.filter (!·.isEmpty)) heading ++
      [element "TextBlock" [("text", str text), ("wrap", flag true)]]))]

def progressLine (s : ProgressStep) : Value :=
  let (mark, weight, subtle) :=
    match s.state with
    | .done => ("✓", "Default", false)
    | .active => ("▶", "Bolder", false)
    | .pending => ("○", "Default", true)
  element "TextBlock" [("text", str (mark ++ " " ++ s.label)), ("weight", str weight),
    ("isSubtle", flag subtle), ("spacing", str "Small"), ("wrap", flag true)]

def progress (title : Option String) (steps : List ProgressStep) (fraction : Option UInt64) :
    List Value :=
  optionally title heading ++ steps.map progressLine ++ optionally fraction fun f =>
    element "TextBlock" [
      ("text", str (toString (Double.toI64 (Ge.percent f)).toNat ++ "\u00a0%")),
      ("isSubtle", flag true), ("size", str "Small")]

def keyValue (title : Option String) (pairs : List KeyValuePair) : List Value :=
  optionally title heading ++ [element "FactSet" [("facts", items (pairs.map fun p =>
    let value :=
      match p.before with
      | some b => b ++ " → " ++ p.value
      | none => p.value
    Record.object [("title", str (plain p.label)), ("value", str (plain value))]))]]

/-! ## The builder -/

structure Builder where
  n : ℕ
  forms : ℕ

abbrev Build := StateM Builder

def nextId (stem : String) : Build String := fun b =>
  (stem ++ "-" ++ toString (b.n + 1), { b with n := b.n + 1 })

/-- The namespace of the inputs of the template component with this number. -/
def namespaceOf (k : ℕ) : String := "t" ++ toString k ++ "."

def nextNamespace : Build String := fun b =>
  (namespaceOf (b.forms + 1), { b with forms := b.forms + 1 })

section Build

variable (sign : Sign) (isAllowedLink : String → Bool)

def sendAction (title message : String) : Option Value :=
  (sign Message.sendMessageTool (Message.textArgs message)).map fun token =>
    element "Action.Execute" (execute title token false)

/-- The submit of a template, in the primary style of the host. -/
def templateAction (title template : String) : Option Value :=
  (sign Message.sendMessageTool (Message.templateArgs template)).map fun token =>
    element "Action.Execute" (execute title token true ++ [("style", str "positive")])

def action (title : String) : Action → Option Value
  | .sendMessage text => sendAction sign title text
  | .openUrl url => some (element "Action.OpenUrl" [("title", str title), ("url", str url)])

def listItem (it : ListItem) : Value :=
  let label := element "TextBlock" [("text", str (plain it.label)), ("wrap", flag true),
    ("color", str (if it.action.isSome then "Accent" else "Default"))]
  let detail := optionally (it.detail.filter (!·.isEmpty)) fun d =>
    element "TextBlock" [("text", str (plain d)), ("isSubtle", flag true), ("spacing", str "None"),
      ("size", str "Small"), ("wrap", flag true)]
  element "Container" [("items", items (label :: detail)), ("separator", flag true),
    ("selectAction", it.action.bind (action sign it.label))]

def tableRow (columns : List TableColumn) (r : TableRow) : Value :=
  let cell (key : String) := (r.cells.lookup key).getD ""
  columnSet (columns.map fun c =>
      column "stretch" [element "TextBlock" [("text", str (plain (cell c.key))),
        ("wrap", flag true)]] [])
    [("separator", flag true),
      ("selectAction", r.action.bind (action sign (cell ((columns.head?.map (·.key)).getD ""))))]

def table (title : Option String) (columns : List TableColumn) (rows : List TableRow) :
    List Value :=
  let head := columnSet (columns.map fun c =>
    column "stretch" [element "TextBlock" [("text", str (plain c.label)), ("weight", str "Bolder"),
      ("wrap", flag true), ("isSubtle", flag true), ("size", str "Small")]] []) []
  optionally title heading ++ [head] ++ rows.map (tableRow sign columns)

def chipActions (chips : List Chip) : List Value :=
  chips.filterMap fun c => sendAction sign c.label c.message

/-- A set of actions, unless there are none. -/
def actionSets (actions : List Value) : List Value :=
  if actions.isEmpty then [] else [actionSet actions]

def chips (prompt : Option String) (requests : List Chip) : List Value :=
  optionally prompt (fun p => element "TextBlock" [("text", str p), ("wrap", flag true)]) ++
    actionSets (chipActions sign requests)

/-- The ids of a node and of what can be shown and hidden in it. -/
structure NodeIds where
  node : String
  kids : String
  opened : String
  closed : String

def nodeIds : Build NodeIds := do
  let node ← nextId "node"
  let kids ← nextId "kids"
  let opened ← nextId "open"
  let closed ← nextId "closed"
  return ⟨node, kids, opened, closed⟩

def toggle (targets : List String) (more : List (String × Option Value)) : Value :=
  element "Action.ToggleVisibility"
    (more ++ [("targetElements", items (targets.map .string))])

/-- The marker of a node: two chevrons for one with something inside, else a dot. -/
def markers (ids : NodeIds) (hasInside expanded : Bool) : List Value :=
  if hasInside then
    [element "TextBlock" [("text", str "▾"), ("id", str ids.opened), ("isVisible", flag expanded)],
      element "TextBlock" [("text", str "▸"), ("id", str ids.closed),
        ("isVisible", flag !expanded)]]
  else [element "TextBlock" [("text", str "•")]]

/-- The row of a node, with the tap that opens it or the action it has. -/
def nodeHeader (ids : NodeIds) (label : String) (counts : List TreeCount)
    (hasInside expanded : Bool) (own : Option Value) : Value :=
  let texts := counts.map fun c => Text.trim (c.value ++ " " ++ c.label)
  let counted := if counts.isEmpty then [] else
    [column "auto" [element "TextBlock" [("text", str (plain (" · ".intercalate texts))),
      ("isSubtle", flag true), ("wrap", flag true)]] []]
  columnSet ([column "auto" (markers ids hasInside expanded) [],
      column "stretch" [element "TextBlock" [("text", str (plain label)), ("wrap", flag true)]] []]
      ++ counted)
    [("selectAction",
      if hasInside then some (toggle [ids.kids, ids.opened, ids.closed] []) else own)]

/-- What stands below a node, indented. -/
def nodeInside (ids : NodeIds) (expanded : Bool) (inner : List Value) : Value :=
  element "Container" [("id", str ids.kids), ("isVisible", flag expanded), ("spacing", str "None"),
    ("items", items [columnSet [column "12px" [] [], column "stretch" inner []] []])]

def nodeBox (ids : NodeIds) (inner : List Value) : Value :=
  element "Container" [("id", str ids.node), ("items", items inner), ("spacing", str "Small")]

mutual

/-- A node, and the ids of the nodes from it downwards that hold no gap. -/
def treeNode : TreeNode → Build (Value × List String)
  | .mk label counts gap expanded chips act actionLabel children => do
      let ids ← nodeIds
      let gapless :=
        if (TreeNode.mk label counts gap expanded chips act actionLabel children).hasGap then []
        else [ids.node]
      let own := act.bind (action sign (actionLabel.getD label))
      let hasInside := !children.isEmpty || !chips.isEmpty
      let open_ := expanded || gap
      let head := nodeHeader ids label counts hasInside open_ own
      if hasInside then
        let (below, more) ← treeNodes children
        let inner := actionSets (chipActions sign chips) ++
          optionally own (fun a => actionSet [a]) ++ below
        return (nodeBox ids [head, nodeInside ids open_ inner], gapless ++ more)
      else return (nodeBox ids [head], gapless)

def treeNodes : List TreeNode → Build (List Value × List String)
  | [] => return ([], [])
  | node :: rest => do
      let (first, gapless) ← treeNode node
      let (others, more) ← treeNodes rest
      return (first :: others, gapless ++ more)

end

def tree (title : Option String) (nodes : List TreeNode) (gapsToggle : Option String) :
    Build (List Value) := do
  let (rendered, gapless) ← treeNodes sign nodes
  let below := optionally (if gapless.isEmpty then none else gapsToggle) fun label =>
    actionSet [toggle gapless [("title", str label)]]
  return optionally title heading ++ rendered ++ below

/-! ### Template components -/

def submitLabelOf (label : String) : String := if label.isEmpty then "Send" else label

/-- The placeholders of a template, in the namespace of its component. -/
def namespaced (ns template : String) : String :=
  Message.renamePlaceholders (ns ++ ·) template

def submitSet (title template : String) : List Value :=
  optionally (templateAction sign title template) fun a => actionSet [a]

def selection (prompt : String) (options : List SelectionOption) (argsKey : String)
    (style : SelectionStyle) (submit : SubmitTemplate) : Build (List Value) := do
  let ns ← nextNamespace
  let choice := element "Input.ChoiceSet" [("id", str (ns ++ argsKey)), ("label", str prompt),
    ("style", str (styleName style)), ("isRequired", flag true), ("choices", choices options)]
  let preview := optionally submit.previewLabel fun label =>
    previewBlock label (Message.previewTemplate submit.template fun n =>
      if n = argsKey then some prompt else none)
  return choice :: preview ++ submitSet sign submit.label (namespaced ns submit.template)

def inputs (fields : List FormField) (template ns : String) : List Value :=
  let used := Message.requiredPlaceholders template
  fields.map fun f => input f ns (used.contains f.name)

def templateForm (title : String) (fields : List FormField) (submitLabel template : String)
    (previewLabel : Option String) : Build (List Value) := do
  let ns ← nextNamespace
  let preview := optionally previewLabel fun label =>
    previewBlock label (Ge.preview fields template)
  return optionally (if title.isEmpty then none else some title) heading ++
    inputs fields template ns ++ preview ++
    submitSet sign (submitLabelOf submitLabel) (namespaced ns template)

def noteBlock (note : String) : Value :=
  element "TextBlock" [("text", str note), ("isSubtle", flag true), ("size", str "Small"),
    ("wrap", flag true), ("spacing", str "Small")]

/-- One group opens as a card of its own, with its inputs and its submit. A group
whose submit cannot be signed is left out. -/
def formGroup (submitLabel : String) (note : Option String) (g : FormGroup) :
    Build (List Value) := do
  let ns ← nextNamespace
  return optionally (templateAction sign (submitLabelOf submitLabel) (namespaced ns g.sendTemplate))
    fun submit =>
      let body := inputs g.fields g.sendTemplate ns ++ [actionSet [submit]] ++
        optionally (note.filter (!·.isEmpty)) noteBlock
      element "Action.ShowCard" [("title", str g.label),
        ("card", some (element "AdaptiveCard" [("body", items body)]))]

def formGroups (title : Option String) (groups : List FormGroup) (submitLabel : String)
    (note : Option String) : Build (List Value) := do
  let openers ← gather (formGroup sign submitLabel note) groups
  return optionally (title.filter (!·.isEmpty)) heading ++ actionSets openers

/-! ### One component -/

/-- The button that opens an embedded page. -/
def embedButton (url title : String) : List Value :=
  optionally
    (if isAllowedLink url then
      sign openEmbedTool (Record.object [("u", str url), ("t", str title)])
    else none)
    fun token => actionSet [element "Action.Submit" [("title", str title),
      ("data", some (Record.object [("msteams", some (element "task/fetch" [])),
        (tokenDataKey, str token)]))]]

def component : Component → Build (List Value)
  | .list title listed => return optionally title heading ++ listed.map (listItem sign)
  | .table title columns rows => return table sign title columns rows
  | .chips prompt requests => return chips sign prompt requests
  | .tree title nodes gapsToggle => tree sign title nodes gapsToggle
  | .notice tone title text => return [notice tone title text]
  | .progress title steps fraction => return progress title steps fraction
  | .keyValue title pairs => return keyValue title pairs
  | .header title context stamp => return header title context stamp
  | .formGroups title groups submitLabel note => formGroups sign title groups submitLabel note
  | .selection prompt options _ argsKey style (some submit) =>
    selection sign prompt options argsKey style submit
  | .form title fields submitLabel _ (some template) previewLabel =>
    templateForm sign title fields submitLabel template previewLabel
  | .embed url title _ fallback => do
      let inline ← component fallback
      return inline ++ embedButton sign isAllowedLink url title
  | .text value _ => return [element "TextBlock" [("text", str value), ("wrap", flag true)]]
  | .narration text =>
    return [element "TextBlock" [("text", str text), ("wrap", flag true),
      ("isSubtle", flag true)]]
  | _ => return []

/-- The components this card renders: those of the conversation, less the buttons,
which go to the action bar. -/
def rendersHere (c : Component) : Bool :=
  c.isConversation && !(match c with | .button .. => true | _ => false)

/-- The body elements of a surface, in its order. -/
def elements (surface : Surface) : List Value :=
  (gather (component sign isAllowedLink) (surface.components.filter rendersHere) ⟨0, 0⟩).1

end Build

end Triton.Chat.Msteams
