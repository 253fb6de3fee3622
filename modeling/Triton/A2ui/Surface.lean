/-
# Surfaces a tool may emit

The canonical component vocabulary, the structural check and the link
sanitizer that every surface passes on its way out of a tool result. Decoding a
JSON document into components, building a version's envelope and the link rule
rest on libraries outside the repository and are parameters (`Codec`).
-/

import Triton.Lib.Json
import Triton.Lib.Text

namespace Triton.A2ui

open Triton.Lib

/-- A stateless action: send one complete message, or open a link. -/
inductive Action where
  | sendMessage (text : String)
  | openUrl (url : String)
  deriving DecidableEq, Repr

structure SubmitTemplate where
  label : String
  template : String
  previewLabel : Option String
  deriving Repr

inductive SelectionStyle where
  | dropdown
  | radio
  deriving DecidableEq, Repr

structure SelectionOption where
  label : String
  value : String
  deriving Repr

inductive FormFieldKind where
  | string
  | integer
  | boolean
  | select
  | text
  deriving DecidableEq, Repr

structure FormField where
  name : String
  label : String
  kind : FormFieldKind
  required : Bool
  placeholder : Option String
  defaultValue : Option Value
  options : List SelectionOption
  style : SelectionStyle
  deriving Repr

structure FormGroup where
  label : String
  fields : List FormField
  sendTemplate : String
  deriving Repr

structure DashboardTile where
  label : String
  value : String
  trend : Option String
  deriving Repr

inductive DiffLine where
  | add (text : String)
  | del (text : String)
  | ctx (text : String)
  | fold (count : Nat) (hidden : List DiffLine)
  deriving Repr

structure SourceItem where
  label : String
  resource : String
  deriving Repr

structure ListItem where
  label : String
  detail : Option String
  action : Option Action
  actionLabel : Option String
  deriving Repr

structure TableColumn where
  key : String
  label : String
  deriving Repr

structure TableRow where
  cells : List (String × String)
  action : Option Action
  deriving Repr

structure Chip where
  label : String
  message : String
  deriving Repr

structure TreeCount where
  label : String
  value : String
  deriving Repr

inductive TreeNode where
  | mk (label : String) (counts : List TreeCount) (gap expanded : Bool) (chips : List Chip)
      (action : Option Action) (actionLabel : Option String) (children : List TreeNode)
  deriving Repr

mutual

/-- The node or one below it is a gap. -/
def TreeNode.hasGap : TreeNode → Bool
  | .mk _ _ gap _ _ _ _ children => gap || anyGap children

def TreeNode.anyGap : List TreeNode → Bool
  | [] => false
  | node :: rest => node.hasGap || anyGap rest

end

inductive Tone where
  | info
  | warn
  | attention
  deriving DecidableEq, Repr

inductive StepState where
  | done
  | active
  | pending
  deriving DecidableEq, Repr

structure ProgressStep where
  label : String
  state : StepState
  deriving Repr

structure KeyValuePair where
  label : String
  value : String
  before : Option String
  deriving Repr

/-- The component vocabulary. Floating-point fields are their bit patterns. -/
inductive Component where
  | text (value : String) (pills : List (String × String))
  | button (label tool : String) (args : Value) (action : Option Action)
      (resource : Option String) (primary : Bool)
  | narration (text : String)
  | selection (prompt : String) (options : List SelectionOption) (tool argsKey : String)
      (style : SelectionStyle) (submit : Option SubmitTemplate)
  | form (title : String) (fields : List FormField) (submitLabel tool : String)
      (sendTemplate previewLabel : Option String)
  | dashboard (title : String) (tiles : List DashboardTile)
  | report (reportId : String) (args : Value) (title : Option String) (series : List UInt64)
      (labels : List String)
  | diff (lines : List DiffLine)
  | sources (items : List SourceItem)
  | list (title : Option String) (items : List ListItem)
  | table (title : Option String) (columns : List TableColumn) (rows : List TableRow)
  | chips (prompt : Option String) (chips : List Chip)
  | tree (title : Option String) (nodes : List TreeNode) (gapsToggle : Option String)
  | header (title : String) (context stamp : Option String)
  | formGroups (title : Option String) (groups : List FormGroup) (submitLabel : String)
      (note : Option String)
  | notice (tone : Tone) (title : Option String) (text : String)
  | progress (title : Option String) (steps : List ProgressStep) (fraction : Option UInt64)
  | keyValue (title : Option String) (pairs : List KeyValuePair)
  | embed (url title : String) (height : Option UInt32) (fallback : Component)
  deriving Repr

structure Surface where
  components : List Component
  deriving Repr

/-- The negotiated envelope version. -/
inductive A2uiVersion where
  | v08
  | v09
  deriving DecidableEq, Repr

/-- What the surface code takes from libraries: the decoder of the component
vocabulary, the per-version envelope builders, and the link rule (a parsed URL,
and the hosts admitted at boot). -/
structure Codec where
  fromValue : Value → Except String Surface
  buildEnvelope : Surface → A2uiVersion → Value
  isAllowedLink : String → Bool

namespace Component

def isEmbed : Component → Bool
  | .embed .. => true
  | _ => false

/-- The kinds that take part in a conversation. A button, a selection and a form do
when their control sends a message. -/
def isConversation : Component → Bool
  | .button _ _ _ action _ _ => action.isSome
  | .selection _ _ _ _ _ submit => submit.isSome
  | .form _ _ _ _ sendTemplate _ => sendTemplate.isSome
  | .header .. | .formGroups .. | .list .. | .table .. | .chips .. | .tree .. | .notice ..
  | .progress .. | .keyValue .. | .embed .. => true
  | .text .. | .narration .. | .dashboard .. | .report .. | .diff .. | .sources .. => false

/-- The structural rules the decoder cannot express. -/
def check : Component → Except String Unit
  | .embed _ _ _ fallback =>
    if fallback.isEmbed then
      .error "invalid A2UI surface: an embed's fallback must not be an embed"
    else .ok ()
  | .selection _ _ _ argsKey _ (some _) =>
    if (Text.trim argsKey).isEmpty then
      .error "invalid A2UI surface: a selection with `submit` needs `args_key`"
    else .ok ()
  | .formGroups _ groups _ _ =>
    if groups.isEmpty || groups.any fun g => (Text.trim g.sendTemplate).isEmpty then
      .error
        "invalid A2UI surface: form groups need at least one group, each with a template"
    else .ok ()
  | _ => .ok ()

end Component

section Sanitize

variable (codec : Codec)

def Action.isSafe : Action → Bool
  | .openUrl url => codec.isAllowedLink url
  | .sendMessage _ => true

def safe (action : Option Action) : Option Action := action.filter (Action.isSafe codec)

/-- Drop the unsafe actions of a node and of everything below it. -/
def sanitizeNode : TreeNode → TreeNode
  | .mk label counts gap expanded chips action actionLabel children =>
    .mk label counts gap expanded chips (safe codec action) actionLabel
      (children.map sanitizeNode)

/-- Drop every unsafe link: a row keeps its content and loses the action, a
button that is only the link disappears, and a refused page gives way to its
fallback. -/
def Component.sanitized : Component → Option Component
  | .button label tool args (some action) resource primary =>
    if action.isSafe codec then some (.button label tool args (some action) resource primary)
    else none
  | .list title items =>
    some (.list title (items.map fun i => { i with action := safe codec i.action }))
  | .table title columns rows =>
    some (.table title columns (rows.map fun r => { r with action := safe codec r.action }))
  | .tree title nodes gapsToggle =>
    some (.tree title (nodes.map (sanitizeNode codec)) gapsToggle)
  | .embed url title height fallback =>
    if codec.isAllowedLink url then
      (fallback.sanitized).map (.embed url title height)
    else fallback.sanitized
  | other => some other

/-- Read a tool's raw result as a surface. -/
def extractSurface (result : Value) : Except String Surface :=
  match result.get "surface" with
  | none => .error "tool emitted no `surface` field"
  | some raw =>
    match codec.fromValue raw with
    | .error e => .error s!"invalid A2UI surface: {e}"
    | .ok surface => do
        surface.components.forM Component.check
        return ⟨surface.components.filterMap (Component.sanitized codec)⟩

end Sanitize

end Triton.A2ui
