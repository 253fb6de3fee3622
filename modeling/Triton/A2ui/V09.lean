/-
# The v0.9 envelope and its reversal

The v0.9 builder writes nine component kinds by hand and every other kind as its
canonical object with `kind` spelled `type`. The reversal finds the `stream`
array below whatever a protocol wrapped around it and undoes the builder node by
node. A button that carries a stateless action has no slot for its legacy tool
and arguments; everything else comes back as it was.
-/

import Triton.A2ui.Canonical

namespace Triton.A2ui

open Triton.Lib Triton.Lib.Record

/-- A stateless action is written as itself, a legacy button as its call. -/
def buttonAction (tool : String) (args : Value) : Option Action → Value
  | some action => action.toValue
  | none => object [("tool", some (.string tool)), ("args", some args)]

namespace V09

def formKindStr : FormFieldKind → String
  | .string => "string"
  | .integer => "integer"
  | .boolean => "boolean"
  | .select => "select"
  | .text => "text"

def formFieldToJson (field : FormField) : Value :=
  object [("name", some (.string field.name)), ("label", some (.string field.label)),
    ("kind", some (.string (formKindStr field.kind))), ("required", some (.bool field.required)),
    ("placeholder", field.placeholder.map .string), ("default", field.defaultValue),
    ("options", omitIf field.options.isEmpty (.array (field.options.map SelectionOption.toValue))),
    ("style", omitIf (field.style != .radio) field.style.toValue)]

/-- A canonical object with `kind` spelled `type`. -/
def retype : Value → Value
  | .object members =>
    match Members.get members "kind" with
    | some kind => .object (Members.insert "type" kind (Members.remove "kind" members))
    | none => .object members
  | other => other

def componentToJson : Component → Value
  | .text value pills =>
    object [("type", some (.string "text")), ("text", some (.string value)),
      ("pills", omitIf pills.isEmpty (textsToValue pills))]
  | .narration text => object [("type", some (.string "narration")), ("text", some (.string text))]
  | .button label tool args action resource primary =>
    object [("type", some (.string "button")), ("label", some (.string label)),
      ("action", some (buttonAction tool args action)), ("resource", resource.map .string),
      ("primary", omitIf (!primary) (.bool true))]
  | .selection prompt options tool argsKey style submit =>
    object [("type", some (.string "selection")), ("prompt", some (.string prompt)),
      ("options", some (.array (options.map fun choice =>
        object [("label", some (.string choice.label)),
          ("value", some (.string choice.value))]))),
      ("tool", some (.string tool)), ("args_key", some (.string argsKey)),
      ("style", omitIf (style == .dropdown) style.toValue),
      ("submit", submit.map SubmitTemplate.toValue)]
  | .form title fields submitLabel tool sendTemplate previewLabel =>
    object [("type", some (.string "form")), ("title", some (.string title)),
      ("fields", some (.array (fields.map formFieldToJson))),
      ("submit_label", some (.string submitLabel)), ("tool", some (.string tool)),
      ("send_template", sendTemplate.map .string), ("preview_label", previewLabel.map .string)]
  | .dashboard title tiles =>
    object [("type", some (.string "dashboard")), ("title", some (.string title)),
      ("tiles", some (.array (tiles.map fun tile =>
        object [("label", some (.string tile.label)), ("value", some (.string tile.value)),
          ("trend", tile.trend.map .string)])))]
  | .report reportId args title series labels =>
    object [("type", some (.string "report")), ("report_id", some (.string reportId)),
      ("args", some args), ("title", title.map .string),
      ("series", omitIf series.isEmpty (.array (series.map Value.ofF64))),
      ("labels", omitIf labels.isEmpty (.array (labels.map .string)))]
  | .diff lines =>
    object [("type", some (.string "diff")),
      ("lines", some (.array (lines.map DiffLine.toValue)))]
  | .sources items =>
    object [("type", some (.string "sources")),
      ("items", some (.array (items.map fun item =>
        object [("label", some (.string item.label)),
          ("resource", some (.string item.resource))])))]
  | block => retype block.toValue

def build (surface : Surface) : Value :=
  object [("version", some (.string "0.9")),
    ("stream", some (.array (surface.components.map componentToJson)))]

end V09

/-! ### Reversal -/

/-- The kinds whose nodes carry their canonical field names. -/
def copiedKinds : List String :=
  ["selection", "form", "dashboard", "report", "diff", "sources", "list", "table", "chips", "tree",
    "notice", "progress", "key_value", "embed", "header", "form_groups"]

/-- The members of a node other than `type`, beside its kind. Keys are distinct,
so the order of insertion does not matter. -/
def copyMembers (kind : String) (members : Members) : Members :=
  members.foldr
    (fun member copied =>
      if member.1 = "type" then copied else Members.insert member.1 member.2 copied)
    [("kind", .string kind)]

/-- Turn one v0.9 node back into its component. -/
def v09NodeToComponent (node : Value) : Option Component := do
  let kind ← mandatory Value.asStr (node.get "type")
  let tag := ("kind", some (Value.string kind))
  match kind with
  | "text" =>
    let text ← node.get "text"
    Component.fromValue (object [tag, ("value", some text), ("pills", node.get "pills")])
  | "narration" =>
    let text ← node.get "text"
    Component.fromValue (object [tag, ("text", some text)])
  | "button" =>
    let label ← node.get "label"
    let action ← node.get "action"
    -- A stateless action rides as it is; the legacy pair is empty.
    let call ←
      if (action.get "type").isSome then pure [("action", some action)]
      else do
        let tool ← action.get "tool"
        pure [("tool", some tool), ("args", some ((action.get "args").getD (.object [])))]
    Component.fromValue (object (tag :: ("label", some label) ::
      ("resource", node.get "resource") :: ("primary", node.get "primary") :: call))
  | other =>
    match copiedKinds.contains other, node with
    | true, .object members => Component.fromValue (.object (copyMembers other members))
    | _, _ => none

mutual

/-- Bounded search for a `stream` array below the wrapping of a protocol. -/
def findStream : Value → Nat → Option (List Value)
  | .object members, depth =>
    if 6 < depth then none
    else
      match (Members.get members "stream").bind Value.asArray with
      | some stream => some stream
      | none => findStreamIn members (depth + 1)
  | _, _ => none

def findStreamIn : List (String × Value) → Nat → Option (List Value)
  | [], _ => none
  | (_, value) :: rest, depth =>
    match findStream value depth with
    | some stream => some stream
    | none => findStreamIn rest depth

end

/-- Recover the surface of an envelope. -/
def envelopeToSurface (value : Value) : Option Surface := do
  let stream ← findStream value 0
  return ⟨← stream.mapM v09NodeToComponent⟩

/-! ### One node -/

/-- The component an envelope keeps of a component: a button with a stateless
action loses its unused tool and arguments. -/
def Component.withoutLegacy : Component → Component
  | .button label _ _ (some action) resource primary =>
    .button label "" .null (some action) resource primary
  | other => other

theorem V09.formFieldToJson_eq (field : FormField) : formFieldToJson field = field.toValue := by
  obtain ⟨name, label, kind, needed, placeholder, default, options, style⟩ := field
  cases kind <;> cases style <;> rfl

theorem get_copyMembers (kind : String) (members : Members) (key : String) :
    Members.get (copyMembers kind members) key =
      if key = "type" then none
      else (Members.get members key).or (if key = "kind" then some (.string kind) else none) := by
  induction members with
  | nil =>
    rw [copyMembers, List.foldr_nil, Members.get_cons]
    by_cases typed : key = "type"
    · simp [typed, Members.get]
    · simp [typed, Members.get]
  | cons member rest ih =>
    obtain ⟨first, value⟩ := member
    rw [copyMembers] at ih
    rw [copyMembers, List.foldr_cons, Members.get_cons]
    by_cases skipped : first = "type"
    · rw [if_pos skipped, ih]
      by_cases typed : key = "type" <;> simp [typed, skipped]
    · rw [if_neg skipped, Members.get_insert, ih]
      by_cases here : key = first
      · simp [here, skipped]
      · simp [here]

variable {kind : String} {fields : List (String × Option Value)}

/-- A node of a copied kind reads as the canonical object with its members. -/
theorem v09NodeToComponent_of_copied {members : Members} (copied : copiedKinds.contains kind = true)
    (typed : Members.get members "type" = some (.string kind))
    (untagged : Members.get members "kind" = none) (clean : find fields "type" = none)
    (same : ∀ key, key ≠ "type" → key ≠ "kind" → Members.get members key = find fields key) :
    v09NodeToComponent (.object members) = Component.fromValue (Component.tagged kind fields) := by
  have node : v09NodeToComponent (.object members) =
      Component.fromValue (.object (copyMembers kind members)) := by
    simp only [v09NodeToComponent, Value.get, typed, mandatory_some, Value.asStr,
      Option.bind_eq_bind, Option.bind_some]
    split
    · exact absurd copied (by decide)
    · exact absurd copied (by decide)
    · exact absurd copied (by decide)
    · rw [copied]
  rw [node]
  apply Component.fromValue_congr
  intro key
  rw [get_copyMembers, get_members, find]
  by_cases isType : key = "type"
  · simp [isType, clean]
  · by_cases isKind : key = "kind"
    · simp [isKind, untagged]
    · simp [isType, isKind, same key isType isKind]

/-- The nodes of the builder's last branch. -/
theorem v09NodeToComponent_retype (copied : copiedKinds.contains kind = true)
    (clean : find fields "type" = none) :
    v09NodeToComponent (V09.retype (Component.tagged kind fields)) =
      Component.fromValue (Component.tagged kind fields) := by
  have tag : Members.get (members (("kind", some (.string kind)) :: fields)) "kind" =
      some (.string kind) := by
    rw [get_members]
    simp
  rw [Component.tagged, object, V09.retype, tag]
  apply v09NodeToComponent_of_copied copied
  · rw [Members.get_insert, if_pos rfl]
  · rw [Members.get_insert, Members.get_remove]
    simp
  · exact clean
  · intro key isType isKind
    rw [Members.get_insert, if_neg isType, Members.get_remove, if_neg isKind, get_members, find,
      if_neg isKind]

/-- The nodes the builder writes field by field under the canonical names. -/
theorem v09NodeToComponent_object (copied : copiedKinds.contains kind = true)
    (clean : find fields "type" = none) (untagged : find fields "kind" = none) :
    v09NodeToComponent (object (("type", some (.string kind)) :: fields)) =
      Component.fromValue (Component.tagged kind fields) := by
  apply v09NodeToComponent_of_copied copied
  · simp [get_members]
  · simp [get_members, untagged]
  · exact clean
  · intro key isType isKind
    simp [get_members, isType]

theorem v09NodeToComponent_button (label tool : String) (args : Value) (action : Option Action)
    (resource : Option String) (primary : Bool) :
    v09NodeToComponent (V09.componentToJson (.button label tool args action resource primary)) =
      some (Component.button label tool args action resource primary).withoutLegacy := by
  have marked : orDefault false Value.asBool (omitIf (!primary) (.bool true)) = some primary := by
    cases primary <;> rfl
  cases action with
  | none =>
    have node : v09NodeToComponent
          (V09.componentToJson (.button label tool args none resource primary)) =
        Component.fromValue (Component.tagged "button" [("label", some (.string label)),
          ("resource", resource.map .string), ("primary", omitIf (!primary) (.bool true)),
          ("tool", some (.string tool)), ("args", some args)]) := by
      simp [V09.componentToJson, v09NodeToComponent, buttonAction, Component.tagged]
    have stateful : Record.optional Action.fromValue none = some none := rfl
    rw [node]
    simp [Component.fromValue_tagged, Component.readKind, marked, stateful,
      Component.withoutLegacy]
  | some action =>
    have typed : (action.toValue.get "type").isSome = true := by
      cases action <;> simp [Action.toValue]
    have node : v09NodeToComponent
          (V09.componentToJson (.button label tool args (some action) resource primary)) =
        Component.fromValue (Component.tagged "button" [("label", some (.string label)),
          ("resource", resource.map .string), ("primary", omitIf (!primary) (.bool true)),
          ("action", (some action).map Action.toValue)]) := by
      simp [V09.componentToJson, v09NodeToComponent, buttonAction, Component.tagged, typed]
    have stateless := optional_action (some action)
    rw [Option.map_some] at stateless
    rw [node]
    simp [Component.fromValue_tagged, Component.readKind, marked, stateless,
      Component.withoutLegacy]

/-- Reversing a node undoes the builder. -/
theorem v09NodeToComponent_componentToJson {component : Component}
    (canonical : component.Canonical) :
    v09NodeToComponent (V09.componentToJson component) = some component.withoutLegacy := by
  cases component with
  | text value pills =>
    have node : v09NodeToComponent (V09.componentToJson (.text value pills)) =
        Component.fromValue (Component.toValue (.text value pills)) := by
      simp [V09.componentToJson, v09NodeToComponent, Component.toValue, Component.tagged]
    rw [node]
    exact Component.fromValue_toValue canonical
  | narration text =>
    have node : v09NodeToComponent (V09.componentToJson (.narration text)) =
        Component.fromValue (Component.toValue (.narration text)) := by
      simp [V09.componentToJson, v09NodeToComponent, Component.toValue, Component.tagged]
    rw [node]
    exact Component.fromValue_toValue canonical
  | button label tool args action resource primary =>
    exact v09NodeToComponent_button label tool args action resource primary
  | selection prompt options tool argsKey style submit =>
    rw [V09.componentToJson, v09NodeToComponent_object (by decide) (by simp) (by simp)]
    have choices : Record.list SelectionOption.fromValue (.array (options.map fun choice =>
        object [("label", some (.string choice.label)),
          ("value", some (.string choice.value))])) = some options :=
      list_map fun choice _ => choice.fromValue_toValue
    simp [Component.fromValue_tagged, Component.readKind, choices, Component.withoutLegacy]
  | form title fields submitLabel tool sendTemplate previewLabel =>
    rw [V09.componentToJson, v09NodeToComponent_object (by decide) (by simp) (by simp)]
    have inputs : Record.list FormField.fromValue (.array (fields.map V09.formFieldToJson)) =
        some fields := by
      apply list_map
      intro field member
      rw [V09.formFieldToJson_eq, FormField.fromValue_toValue (canonical field member)]
    simp [Component.fromValue_tagged, Component.readKind, inputs, Component.withoutLegacy]
  | dashboard title tiles | report reportId args title series labels | diff lines | sources items =>
    rw [V09.componentToJson, v09NodeToComponent_object (by decide) (by simp) (by simp)]
    exact Component.fromValue_toValue canonical
  | list | table | chips | tree | header | formGroups | notice | progress | keyValue | embed =>
    exact (v09NodeToComponent_retype (by decide) (by simp)).trans
      (Component.fromValue_toValue canonical)

/-! ### The whole envelope -/

mutual

/-- Some object in the value has an array as its `stream` member. -/
def hasStream : Value → Bool
  | .object members =>
    ((Members.get members "stream").bind Value.asArray).isSome || anyHasStream members
  | _ => false

def anyHasStream : List (String × Value) → Bool
  | [] => false
  | (_, value) :: rest => hasStream value || anyHasStream rest

end

/-- The envelope lies under `depth` object keys, and no member beside it holds a
`stream` array. -/
inductive Wraps (envelope : Value) : Nat → Value → Prop
  | bare : Wraps envelope 0 envelope
  | under {depth : Nat} {inner : Value} {before after : Members} {key : String}
      (wrapped : Wraps envelope depth inner)
      (unstreamed :
        (Members.get (before ++ (key, inner) :: after) "stream").bind Value.asArray = none)
      (quietBefore : anyHasStream before = false) (quietAfter : anyHasStream after = false) :
      Wraps envelope (depth + 1) (.object (before ++ (key, inner) :: after))

mutual

theorem findStream_of_quiet (value : Value) (depth : Nat) (quiet : hasStream value = false) :
    findStream value depth = none := by
  cases value with
  | object members =>
    rw [hasStream, Bool.or_eq_false_iff, Option.isSome_eq_false_iff, Option.isNone_iff_eq_none]
      at quiet
    rw [findStream, quiet.1]
    split
    · rfl
    · exact findStreamIn_of_quiet members (depth + 1) quiet.2
  | _ => simp [findStream]

theorem findStreamIn_of_quiet (members : List (String × Value)) (depth : Nat)
    (quiet : anyHasStream members = false) : findStreamIn members depth = none := by
  cases members with
  | nil => rw [findStreamIn]
  | cons member rest =>
    obtain ⟨key, value⟩ := member
    rw [anyHasStream, Bool.or_eq_false_iff] at quiet
    rw [findStreamIn, findStream_of_quiet value depth quiet.1]
    exact findStreamIn_of_quiet rest depth quiet.2

end

theorem findStreamIn_append {before : Members} (quiet : anyHasStream before = false)
    (after : Members) (depth : Nat) :
    findStreamIn (before ++ after) depth = findStreamIn after depth := by
  induction before with
  | nil => rfl
  | cons member rest ih =>
    obtain ⟨key, value⟩ := member
    rw [anyHasStream, Bool.or_eq_false_iff] at quiet
    rw [List.cons_append, findStreamIn, findStream_of_quiet value depth quiet.1]
    exact ih quiet.2

/-- The search reaches what lies under at most six keys. -/
theorem findStream_of_wraps {envelope value : Value} {height : Nat}
    (wraps : Wraps envelope height value) {depth : Nat} (shallow : depth + height ≤ 6) :
    findStream value depth = findStream envelope (depth + height) := by
  induction wraps generalizing depth with
  | bare => rfl
  | @under height inner before after key wrapped unstreamed quietBefore quietAfter ih =>
    have inside : findStream inner (depth + 1) = findStream envelope (depth + 1 + height) :=
      ih (by omega)
    rw [findStream, if_neg (by omega), unstreamed]
    simp only
    rw [findStreamIn_append quietBefore, findStreamIn, inside,
      findStreamIn_of_quiet after _ quietAfter,
      show depth + 1 + height = depth + (height + 1) by omega]
    cases findStream envelope (depth + (height + 1)) <;> rfl

theorem findStream_build (surface : Surface) {depth : Nat} (shallow : depth ≤ 6) :
    findStream (V09.build surface) depth =
      some (surface.components.map V09.componentToJson) := by
  have listed : (Members.get (members [("version", some (.string "0.9")),
      ("stream", some (.array (surface.components.map V09.componentToJson)))]) "stream").bind
        Value.asArray = some (surface.components.map V09.componentToJson) := by
    simp [get_members, Value.asArray]
  rw [V09.build, object, findStream, if_neg (by omega), listed]

/-- Reversing a wrapped envelope gives the surface it was built from, but for
the unused legacy pair of its stateless buttons. -/
theorem envelopeToSurface_build {surface : Surface} (canonical : surface.Canonical)
    {value : Value} {height : Nat} (wraps : Wraps (V09.build surface) height value)
    (shallow : height ≤ 6) :
    envelopeToSurface value = some ⟨surface.components.map Component.withoutLegacy⟩ := by
  have found : findStream value 0 = some (surface.components.map V09.componentToJson) := by
    rw [findStream_of_wraps wraps (by omega), findStream_build surface (by omega)]
  have nodes : (surface.components.map V09.componentToJson).mapM v09NodeToComponent =
      some (surface.components.map Component.withoutLegacy) :=
    mapM_map_of fun component member =>
      v09NodeToComponent_componentToJson (canonical component member)
  simp [envelopeToSurface, found, nodes]

end Triton.A2ui
