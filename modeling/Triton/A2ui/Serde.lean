/-
# The canonical JSON form of surfaces

The derived encoder and decoder of the component vocabulary: records as objects,
enumerations by name, tagged variants with their fields beside the tag, members
that are left out at their default, and unknown members ignored. Encoding and
then decoding is the identity on every value a decoder can produce: an optional
value is never a present `null`, and numbers are finite.
-/

import Triton.A2ui.Surface
import Triton.Lib.Record

namespace Triton.A2ui

open Triton.Lib Triton.Lib.Record

/-! ### Enumerations -/

def SelectionStyle.names : List (String × SelectionStyle) :=
  [("dropdown", .dropdown), ("radio", .radio)]

def SelectionStyle.toValue : SelectionStyle → Value
  | .dropdown => .string "dropdown"
  | .radio => .string "radio"

def FormFieldKind.names : List (String × FormFieldKind) :=
  [("string", .string), ("integer", .integer), ("boolean", .boolean), ("select", .select),
    ("text", .text)]

def FormFieldKind.toValue : FormFieldKind → Value
  | .string => .string "string"
  | .integer => .string "integer"
  | .boolean => .string "boolean"
  | .select => .string "select"
  | .text => .string "text"

def Tone.names : List (String × Tone) :=
  [("info", .info), ("warn", .warn), ("attention", .attention)]

def Tone.toValue : Tone → Value
  | .info => .string "info"
  | .warn => .string "warn"
  | .attention => .string "attention"

def StepState.names : List (String × StepState) :=
  [("done", .done), ("active", .active), ("pending", .pending)]

def StepState.toValue : StepState → Value
  | .done => .string "done"
  | .active => .string "active"
  | .pending => .string "pending"

@[simp]
theorem SelectionStyle.variant_toValue (style : SelectionStyle) :
    variant names style.toValue = some style := by
  cases style <;> rfl

@[simp]
theorem FormFieldKind.variant_toValue (kind : FormFieldKind) :
    variant names kind.toValue = some kind := by
  cases kind <;> rfl

@[simp]
theorem Tone.variant_toValue (tone : Tone) : variant names tone.toValue = some tone := by
  cases tone <;> rfl

@[simp]
theorem StepState.variant_toValue (state : StepState) :
    variant names state.toValue = some state := by
  cases state <;> rfl

/-! ### Records without recursion -/

namespace Action

def toValue : Action → Value
  | .sendMessage text =>
    object [("type", some (.string "send_message")), ("text", some (.string text))]
  | .openUrl url => object [("type", some (.string "open_url")), ("url", some (.string url))]

def fromValue (value : Value) : Option Action := do
  match ← mandatory Value.asStr (value.get "type") with
  | "send_message" => return .sendMessage (← mandatory Value.asStr (value.get "text"))
  | "open_url" => return .openUrl (← mandatory Value.asStr (value.get "url"))
  | _ => none

end Action

namespace SubmitTemplate

def toValue (submit : SubmitTemplate) : Value :=
  object [("label", some (.string submit.label)), ("template", some (.string submit.template)),
    ("preview_label", submit.previewLabel.map .string)]

def fromValue (value : Value) : Option SubmitTemplate := do
  return {
    label := ← mandatory Value.asStr (value.get "label")
    template := ← mandatory Value.asStr (value.get "template")
    previewLabel := ← optional Value.asStr (value.get "preview_label") }

end SubmitTemplate

namespace SelectionOption

def toValue (choice : SelectionOption) : Value :=
  object [("label", some (.string choice.label)), ("value", some (.string choice.value))]

def fromValue (value : Value) : Option SelectionOption := do
  return {
    label := ← mandatory Value.asStr (value.get "label")
    value := ← mandatory Value.asStr (value.get "value") }

end SelectionOption

namespace FormField

def toValue (field : FormField) : Value :=
  object [("name", some (.string field.name)), ("label", some (.string field.label)),
    ("kind", some field.kind.toValue), ("required", some (.bool field.required)),
    ("placeholder", field.placeholder.map .string), ("default", field.defaultValue),
    ("options", omitIf field.options.isEmpty (.array (field.options.map SelectionOption.toValue))),
    ("style", omitIf (field.style == .dropdown) field.style.toValue)]

def fromValue (value : Value) : Option FormField := do
  return {
    name := ← mandatory Value.asStr (value.get "name")
    label := ← mandatory Value.asStr (value.get "label")
    kind := ← mandatory (variant FormFieldKind.names) (value.get "kind")
    required := ← orDefault false Value.asBool (value.get "required")
    placeholder := ← optional Value.asStr (value.get "placeholder")
    defaultValue := ← optional some (value.get "default")
    options := ← orDefault [] (list SelectionOption.fromValue) (value.get "options")
    style := ← orDefault .dropdown (variant SelectionStyle.names) (value.get "style") }

end FormField

namespace FormGroup

def toValue (group : FormGroup) : Value :=
  object [("label", some (.string group.label)),
    ("fields", some (.array (group.fields.map FormField.toValue))),
    ("send_template", some (.string group.sendTemplate))]

def fromValue (value : Value) : Option FormGroup := do
  return {
    label := ← mandatory Value.asStr (value.get "label")
    fields := ← mandatory (list FormField.fromValue) (value.get "fields")
    sendTemplate := ← mandatory Value.asStr (value.get "send_template") }

end FormGroup

namespace DashboardTile

def toValue (tile : DashboardTile) : Value :=
  object [("label", some (.string tile.label)), ("value", some (.string tile.value)),
    ("trend", tile.trend.map .string)]

def fromValue (value : Value) : Option DashboardTile := do
  return {
    label := ← mandatory Value.asStr (value.get "label")
    value := ← mandatory Value.asStr (value.get "value")
    trend := ← optional Value.asStr (value.get "trend") }

end DashboardTile

namespace SourceItem

def toValue (item : SourceItem) : Value :=
  object [("label", some (.string item.label)), ("resource", some (.string item.resource))]

def fromValue (value : Value) : Option SourceItem := do
  return {
    label := ← mandatory Value.asStr (value.get "label")
    resource := ← mandatory Value.asStr (value.get "resource") }

end SourceItem

namespace ListItem

def toValue (item : ListItem) : Value :=
  object [("label", some (.string item.label)), ("detail", item.detail.map .string),
    ("action", item.action.map Action.toValue), ("action_label", item.actionLabel.map .string)]

def fromValue (value : Value) : Option ListItem := do
  return {
    label := ← mandatory Value.asStr (value.get "label")
    detail := ← optional Value.asStr (value.get "detail")
    action := ← optional Action.fromValue (value.get "action")
    actionLabel := ← optional Value.asStr (value.get "action_label") }

end ListItem

namespace TableColumn

def toValue (column : TableColumn) : Value :=
  object [("key", some (.string column.key)), ("label", some (.string column.label))]

def fromValue (value : Value) : Option TableColumn := do
  return {
    key := ← mandatory Value.asStr (value.get "key")
    label := ← mandatory Value.asStr (value.get "label") }

end TableColumn

/-- A map from keys to texts as an object. -/
def textsToValue (pairs : List (String × String)) : Value :=
  .object (pairs.map fun pair => (pair.1, .string pair.2))

namespace TableRow

def toValue (row : TableRow) : Value :=
  object [("cells", some (textsToValue row.cells)), ("action", row.action.map Action.toValue)]

def fromValue (value : Value) : Option TableRow := do
  return {
    cells := ← mandatory texts (value.get "cells")
    action := ← optional Action.fromValue (value.get "action") }

end TableRow

namespace Chip

def toValue (chip : Chip) : Value :=
  object [("label", some (.string chip.label)), ("message", some (.string chip.message))]

def fromValue (value : Value) : Option Chip := do
  return {
    label := ← mandatory Value.asStr (value.get "label")
    message := ← mandatory Value.asStr (value.get "message") }

end Chip

namespace TreeCount

def toValue (count : TreeCount) : Value :=
  object [("label", some (.string count.label)), ("value", some (.string count.value))]

def fromValue (value : Value) : Option TreeCount := do
  return {
    label := ← mandatory Value.asStr (value.get "label")
    value := ← mandatory Value.asStr (value.get "value") }

end TreeCount

namespace ProgressStep

def toValue (step : ProgressStep) : Value :=
  object [("label", some (.string step.label)), ("state", some step.state.toValue)]

def fromValue (value : Value) : Option ProgressStep := do
  return {
    label := ← mandatory Value.asStr (value.get "label")
    state := ← mandatory (variant StepState.names) (value.get "state") }

end ProgressStep

namespace KeyValuePair

def toValue (pair : KeyValuePair) : Value :=
  object [("label", some (.string pair.label)), ("value", some (.string pair.value)),
    ("before", pair.before.map .string)]

def fromValue (value : Value) : Option KeyValuePair := do
  return {
    label := ← mandatory Value.asStr (value.get "label")
    value := ← mandatory Value.asStr (value.get "value")
    before := ← optional Value.asStr (value.get "before") }

end KeyValuePair

/-! ### Round trips of the plain records -/

@[simp]
theorem Action.fromValue_toValue (action : Action) : fromValue action.toValue = some action := by
  cases action <;> simp [fromValue, toValue]

theorem Action.toValue_ne_null (action : Action) : action.toValue ≠ .null := by
  cases action <;> exact object_ne_null _

@[simp]
theorem optional_action (action : Option Action) :
    optional Action.fromValue (action.map Action.toValue) = some action :=
  optional_map fun a _ => ⟨a.toValue_ne_null, a.fromValue_toValue⟩

@[simp]
theorem SubmitTemplate.fromValue_toValue (submit : SubmitTemplate) :
    fromValue submit.toValue = some submit := by
  simp [fromValue, toValue]

@[simp]
theorem optional_submit (submit : Option SubmitTemplate) :
    optional SubmitTemplate.fromValue (submit.map SubmitTemplate.toValue) = some submit :=
  optional_map fun s _ => ⟨object_ne_null _, s.fromValue_toValue⟩

@[simp]
theorem SelectionOption.fromValue_toValue (choice : SelectionOption) :
    fromValue choice.toValue = some choice := by
  simp [fromValue, toValue]

@[simp]
theorem DashboardTile.fromValue_toValue (tile : DashboardTile) :
    fromValue tile.toValue = some tile := by
  simp [fromValue, toValue]

@[simp]
theorem SourceItem.fromValue_toValue (item : SourceItem) : fromValue item.toValue = some item := by
  simp [fromValue, toValue]

@[simp]
theorem ListItem.fromValue_toValue (item : ListItem) : fromValue item.toValue = some item := by
  simp [fromValue, toValue]

@[simp]
theorem TableColumn.fromValue_toValue (column : TableColumn) :
    fromValue column.toValue = some column := by
  simp [fromValue, toValue]

@[simp]
theorem TableRow.fromValue_toValue (row : TableRow) : fromValue row.toValue = some row := by
  simp [fromValue, toValue, textsToValue]

@[simp]
theorem Chip.fromValue_toValue (chip : Chip) : fromValue chip.toValue = some chip := by
  simp [fromValue, toValue]

@[simp]
theorem TreeCount.fromValue_toValue (count : TreeCount) :
    fromValue count.toValue = some count := by
  simp [fromValue, toValue]

@[simp]
theorem ProgressStep.fromValue_toValue (step : ProgressStep) :
    fromValue step.toValue = some step := by
  simp [fromValue, toValue]

@[simp]
theorem KeyValuePair.fromValue_toValue (pair : KeyValuePair) :
    fromValue pair.toValue = some pair := by
  simp [fromValue, toValue]

@[simp]
theorem orDefault_style (style : SelectionStyle) :
    orDefault .dropdown (variant SelectionStyle.names)
      (omitIf (style == .dropdown) style.toValue) = some style :=
  orDefault_omitIf (by simp) fun plain => by simpa using plain

@[simp]
theorem orDefault_tone (tone : Tone) :
    orDefault .info (variant Tone.names) (omitIf (tone == .info) tone.toValue) = some tone :=
  orDefault_omitIf (by simp) fun plain => by simpa using plain

/-- A present default is not `null`: a decoder reads `null` as none. -/
def FormField.Canonical (field : FormField) : Prop := ∀ value ∈ field.defaultValue, value ≠ .null

theorem optional_any {value : Option Value} (canonical : ∀ v ∈ value, v ≠ .null) :
    optional some value = some value := by
  have back : optional some (value.map id) = some value :=
    optional_map fun v member => ⟨canonical v member, rfl⟩
  rwa [Option.map_id, id] at back

theorem FormField.fromValue_toValue {field : FormField} (canonical : field.Canonical) :
    fromValue field.toValue = some field := by
  have options : orDefault [] (list SelectionOption.fromValue)
      (omitIf field.options.isEmpty (.array (field.options.map SelectionOption.toValue))) =
        some field.options := orDefault_list fun choice _ => choice.fromValue_toValue
  simp [fromValue, toValue, optional_any canonical, options]

theorem ensures_present (found : Option Value) :
    Ensures (fun value => ∀ v ∈ value, v ≠ .null) (optional some found) := by
  refine .optional ?_ found
  intro value present v same
  cases same
  exact present

theorem FormField.canonical_fromValue (value : Value) :
    Ensures FormField.Canonical (FormField.fromValue value) := by
  refine .skip fun name => .skip fun label => .skip fun kind => .skip fun needed =>
    .skip fun placeholder => .bind (ensures_present _) ?_
  intro default canonical
  exact .skip fun options => .skip fun style => .pure canonical

def FormGroup.Canonical (group : FormGroup) : Prop := ∀ field ∈ group.fields, field.Canonical

theorem FormGroup.fromValue_toValue {group : FormGroup} (canonical : group.Canonical) :
    fromValue group.toValue = some group := by
  have fields : list FormField.fromValue (.array (group.fields.map FormField.toValue)) =
      some group.fields := list_map fun field member =>
        FormField.fromValue_toValue (canonical field member)
  simp [fromValue, toValue, fields]

theorem FormGroup.canonical_fromValue (value : Value) :
    Ensures FormGroup.Canonical (FormGroup.fromValue value) := by
  refine .skip fun label => .bind (.mandatory (.list FormField.canonical_fromValue) _) ?_
  intro fields canonical
  exact .skip fun template => .pure canonical

/-! ### Diff lines -/

def DiffLine.toValue : DiffLine → Value
  | .add text => object [("op", some (.string "add")), ("text", some (.string text))]
  | .del text => object [("op", some (.string "del")), ("text", some (.string text))]
  | .ctx text => object [("op", some (.string "ctx")), ("text", some (.string text))]
  | .fold count hidden =>
    object [("op", some (.string "fold")), ("count", some (.number (.posInt count))),
      ("hidden", some (.array (hidden.map DiffLine.toValue)))]

mutual

def DiffLine.fromValue : Value → Option DiffLine
  | .object members => do
      match ← mandatory Value.asStr (Members.get members "op") with
      | "add" => return .add (← mandatory Value.asStr (Members.get members "text"))
      | "del" => return .del (← mandatory Value.asStr (Members.get members "text"))
      | "ctx" => return .ctx (← mandatory Value.asStr (Members.get members "text"))
      | "fold" =>
        return .fold (← mandatory Value.asU64 (Members.get members "count"))
          (← DiffLine.hiddenOf members)
      | _ => none
  | _ => none

/-- The folded lines: none unless the member is there. -/
def DiffLine.hiddenOf : List (String × Value) → Option (List DiffLine)
  | [] => some []
  | (key, value) :: rest =>
    if key = "hidden" then
      match value with
      | .array items => DiffLine.allFrom items
      | _ => none
    else DiffLine.hiddenOf rest

def DiffLine.allFrom : List Value → Option (List DiffLine)
  | [] => some []
  | value :: rest => do return (← DiffLine.fromValue value) :: (← DiffLine.allFrom rest)

end

namespace DiffLine

theorem allFrom_eq (items : List Value) : allFrom items = items.mapM fromValue := by
  induction items with
  | nil => simp [allFrom]
  | cons value rest ih => simp [allFrom, ih]

theorem hiddenOf_eq (members : Members) :
    hiddenOf members = orDefault [] (list fromValue) (Members.get members "hidden") := by
  have step (first : String) (value : Value) (rest : Members) :
      hiddenOf ((first, value) :: rest) =
        if first = "hidden" then list fromValue value else hiddenOf rest := by
    cases value <;> simp [hiddenOf, list, allFrom_eq]
  rw [scan_eq (by rw [hiddenOf]) step members]
  cases Members.get members "hidden" <;> rfl

theorem fromValue_toValue (line : DiffLine) : fromValue line.toValue = some line := by
  induction line using DiffLine.toValue.induct with
  | case1 text | case2 text | case3 text => simp [toValue, object, fromValue, get_members]
  | case4 count hidden ih =>
    have lines : list fromValue (.array (hidden.map toValue)) = some hidden := list_map ih
    simp [toValue, object, fromValue, hiddenOf_eq, get_members, lines, Value.asU64]

end DiffLine

/-! ### Tree nodes -/

def TreeNode.toValue : TreeNode → Value
  | .mk label counts gap expanded chips action actionLabel children =>
    object [("label", some (.string label)),
      ("counts", omitIf counts.isEmpty (.array (counts.map TreeCount.toValue))),
      ("gap", omitIf (!gap) (.bool gap)), ("expanded", omitIf (!expanded) (.bool expanded)),
      ("chips", omitIf chips.isEmpty (.array (chips.map Chip.toValue))),
      ("action", action.map Action.toValue), ("action_label", actionLabel.map .string),
      ("children", omitIf children.isEmpty (.array (children.map TreeNode.toValue)))]

mutual

def TreeNode.fromValue : Value → Option TreeNode
  | .object members => do
      return .mk (← mandatory Value.asStr (Members.get members "label"))
        (← orDefault [] (list TreeCount.fromValue) (Members.get members "counts"))
        (← orDefault false Value.asBool (Members.get members "gap"))
        (← orDefault false Value.asBool (Members.get members "expanded"))
        (← orDefault [] (list Chip.fromValue) (Members.get members "chips"))
        (← optional Action.fromValue (Members.get members "action"))
        (← optional Value.asStr (Members.get members "action_label"))
        (← TreeNode.childrenOf members)
  | _ => none

/-- The children: none unless the member is there. -/
def TreeNode.childrenOf : List (String × Value) → Option (List TreeNode)
  | [] => some []
  | (key, value) :: rest =>
    if key = "children" then
      match value with
      | .array items => TreeNode.allFrom items
      | _ => none
    else TreeNode.childrenOf rest

def TreeNode.allFrom : List Value → Option (List TreeNode)
  | [] => some []
  | value :: rest => do return (← TreeNode.fromValue value) :: (← TreeNode.allFrom rest)

end

namespace TreeNode

theorem allFrom_eq (items : List Value) : allFrom items = items.mapM fromValue := by
  induction items with
  | nil => simp [allFrom]
  | cons value rest ih => simp [allFrom, ih]

theorem childrenOf_eq (members : Members) :
    childrenOf members = orDefault [] (list fromValue) (Members.get members "children") := by
  have step (first : String) (value : Value) (rest : Members) :
      childrenOf ((first, value) :: rest) =
        if first = "children" then list fromValue value else childrenOf rest := by
    cases value <;> simp [childrenOf, list, allFrom_eq]
  rw [scan_eq (by rw [childrenOf]) step members]
  cases Members.get members "children" <;> rfl

theorem fromValue_toValue (node : TreeNode) : fromValue node.toValue = some node := by
  induction node using TreeNode.toValue.induct with
  | case1 label counts gap expanded chips action actionLabel children ih =>
    have numbers : orDefault [] (list TreeCount.fromValue)
        (omitIf counts.isEmpty (.array (counts.map TreeCount.toValue))) = some counts :=
      orDefault_list fun count _ => count.fromValue_toValue
    have leaves : orDefault [] (list Chip.fromValue)
        (omitIf chips.isEmpty (.array (chips.map Chip.toValue))) = some chips :=
      orDefault_list fun chip _ => chip.fromValue_toValue
    have below : orDefault [] (list fromValue)
        (omitIf children.isEmpty (.array (children.map toValue))) = some children :=
      orDefault_list ih
    simp [toValue, object, fromValue, childrenOf_eq, get_members, numbers, leaves, below]

end TreeNode

end Triton.A2ui
