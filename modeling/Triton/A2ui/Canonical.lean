/-
# Components in their canonical form

The `kind`-tagged form of the nineteen component kinds, and the surfaces made of
them. Reading a component looks members up by key and nothing else, so two
objects with the same members are the same component.
-/

import Triton.A2ui.Serde

namespace Triton.A2ui

open Triton.Lib Triton.Lib.Record

namespace Component

/-- A variant is written as its tag beside its fields. -/
def tagged (kind : String) (fields : List (String × Option Value)) : Value :=
  object (("kind", some (.string kind)) :: fields)

def toValue : Component → Value
  | .text value pills =>
    tagged "text" [("value", some (.string value)),
      ("pills", omitIf pills.isEmpty (textsToValue pills))]
  | .button label tool args action resource primary =>
    tagged "button" [("label", some (.string label)),
      ("tool", omitIf tool.isEmpty (.string tool)),
      ("args", omitIf args.isNull args), ("action", action.map Action.toValue),
      ("resource", resource.map .string), ("primary", omitIf (!primary) (.bool primary))]
  | .narration body => tagged "narration" [("text", some (.string body))]
  | .selection prompt options tool argsKey style submit =>
    tagged "selection" [("prompt", some (.string prompt)),
      ("options", some (.array (options.map SelectionOption.toValue))),
      ("tool", omitIf tool.isEmpty (.string tool)), ("args_key", some (.string argsKey)),
      ("style", omitIf (style == .dropdown) style.toValue),
      ("submit", submit.map SubmitTemplate.toValue)]
  | .form title fields submitLabel tool sendTemplate previewLabel =>
    tagged "form" [("title", some (.string title)),
      ("fields", some (.array (fields.map FormField.toValue))),
      ("submit_label", some (.string submitLabel)), ("tool", omitIf tool.isEmpty (.string tool)),
      ("send_template", sendTemplate.map .string), ("preview_label", previewLabel.map .string)]
  | .dashboard title tiles =>
    tagged "dashboard" [("title", some (.string title)),
      ("tiles", some (.array (tiles.map DashboardTile.toValue)))]
  | .report reportId args title series labels =>
    tagged "report" [("report_id", some (.string reportId)), ("args", some args),
      ("title", title.map .string),
      ("series", omitIf series.isEmpty (.array (series.map Value.ofF64))),
      ("labels", omitIf labels.isEmpty (.array (labels.map .string)))]
  | .diff lines => tagged "diff" [("lines", some (.array (lines.map DiffLine.toValue)))]
  | .sources items => tagged "sources" [("items", some (.array (items.map SourceItem.toValue)))]
  | .list title items =>
    tagged "list" [("title", title.map .string),
      ("items", some (.array (items.map ListItem.toValue)))]
  | .table title columns rows =>
    tagged "table" [("title", title.map .string),
      ("columns", some (.array (columns.map TableColumn.toValue))),
      ("rows", some (.array (rows.map TableRow.toValue)))]
  | .chips prompt requests =>
    tagged "chips" [("prompt", prompt.map .string),
      ("chips", some (.array (requests.map Chip.toValue)))]
  | .tree title nodes gapsToggle =>
    tagged "tree" [("title", title.map .string),
      ("nodes", some (.array (nodes.map TreeNode.toValue))),
      ("gaps_toggle", gapsToggle.map .string)]
  | .header title context stamp =>
    tagged "header" [("title", some (.string title)), ("context", context.map .string),
      ("stamp", stamp.map .string)]
  | .formGroups title groups submitLabel note =>
    tagged "form_groups" [("title", title.map .string),
      ("groups", some (.array (groups.map FormGroup.toValue))),
      ("submit_label", some (.string submitLabel)), ("note", note.map .string)]
  | .notice tone title body =>
    tagged "notice" [("tone", omitIf (tone == .info) tone.toValue), ("title", title.map .string),
      ("text", some (.string body))]
  | .progress title steps fraction =>
    tagged "progress" [("title", title.map .string),
      ("steps", some (.array (steps.map ProgressStep.toValue))),
      ("fraction", fraction.map Value.ofF64)]
  | .keyValue title pairs =>
    tagged "key_value" [("title", title.map .string),
      ("pairs", some (.array (pairs.map KeyValuePair.toValue)))]
  | .embed url title height fallback =>
    tagged "embed" [("url", some (.string url)), ("title", some (.string title)),
      ("height", height.map fun pixels => .number (.posInt pixels.toNat)),
      ("fallback", some fallback.toValue)]

/-- An integer in the range of a `u32`. -/
def readU32 (value : Value) : Option UInt32 :=
  (value.asU64.filter (· ≤ 0xFFFFFFFF)).map UInt32.ofNat

/-- Read the variant of one kind from the members of an object; `fallback` is
what the member of that name reads as. -/
def readKind (kind : String) (get : String → Option Value) (fallback : Option Component) :
    Option Component := do
  match kind with
  | "text" =>
    return .text (← mandatory Value.asStr (get "value")) (← orDefault [] texts (get "pills"))
  | "button" =>
    return .button (← mandatory Value.asStr (get "label"))
      (← orDefault "" Value.asStr (get "tool")) (← orDefault .null some (get "args"))
      (← optional Action.fromValue (get "action")) (← optional Value.asStr (get "resource"))
      (← orDefault false Value.asBool (get "primary"))
  | "narration" => return .narration (← mandatory Value.asStr (get "text"))
  | "selection" =>
    return .selection (← mandatory Value.asStr (get "prompt"))
      (← mandatory (Record.list SelectionOption.fromValue) (get "options"))
      (← orDefault "" Value.asStr (get "tool")) (← orDefault "" Value.asStr (get "args_key"))
      (← orDefault .dropdown (variant SelectionStyle.names) (get "style"))
      (← optional SubmitTemplate.fromValue (get "submit"))
  | "form" =>
    return .form (← mandatory Value.asStr (get "title"))
      (← mandatory (Record.list FormField.fromValue) (get "fields"))
      (← mandatory Value.asStr (get "submit_label")) (← orDefault "" Value.asStr (get "tool"))
      (← optional Value.asStr (get "send_template"))
      (← optional Value.asStr (get "preview_label"))
  | "dashboard" =>
    return .dashboard (← mandatory Value.asStr (get "title"))
      (← mandatory (Record.list DashboardTile.fromValue) (get "tiles"))
  | "report" =>
    return .report (← mandatory Value.asStr (get "report_id"))
      (← orDefault .null some (get "args"))
      (← optional Value.asStr (get "title"))
      (← orDefault [] (Record.list Value.asF64) (get "series"))
      (← orDefault [] (Record.list Value.asStr) (get "labels"))
  | "diff" => return .diff (← mandatory (Record.list DiffLine.fromValue) (get "lines"))
  | "sources" => return .sources (← mandatory (Record.list SourceItem.fromValue) (get "items"))
  | "list" =>
    return .list (← optional Value.asStr (get "title"))
      (← mandatory (Record.list ListItem.fromValue) (get "items"))
  | "table" =>
    return .table (← optional Value.asStr (get "title"))
      (← mandatory (Record.list TableColumn.fromValue) (get "columns"))
      (← mandatory (Record.list TableRow.fromValue) (get "rows"))
  | "chips" =>
    return .chips (← optional Value.asStr (get "prompt"))
      (← mandatory (Record.list Chip.fromValue) (get "chips"))
  | "tree" =>
    return .tree (← optional Value.asStr (get "title"))
      (← mandatory (Record.list TreeNode.fromValue) (get "nodes"))
      (← optional Value.asStr (get "gaps_toggle"))
  | "header" =>
    return .header (← mandatory Value.asStr (get "title"))
      (← optional Value.asStr (get "context")) (← optional Value.asStr (get "stamp"))
  | "form_groups" =>
    return .formGroups (← optional Value.asStr (get "title"))
      (← mandatory (Record.list FormGroup.fromValue) (get "groups"))
      (← mandatory Value.asStr (get "submit_label")) (← optional Value.asStr (get "note"))
  | "notice" =>
    return .notice (← orDefault .info (variant Tone.names) (get "tone"))
      (← optional Value.asStr (get "title")) (← mandatory Value.asStr (get "text"))
  | "progress" =>
    return .progress (← optional Value.asStr (get "title"))
      (← mandatory (Record.list ProgressStep.fromValue) (get "steps"))
      (← optional Value.asF64 (get "fraction"))
  | "key_value" =>
    return .keyValue (← optional Value.asStr (get "title"))
      (← mandatory (Record.list KeyValuePair.fromValue) (get "pairs"))
  | "embed" =>
    return .embed (← mandatory Value.asStr (get "url")) (← mandatory Value.asStr (get "title"))
      (← optional readU32 (get "height")) (← fallback)
  | _ => none

def read (get : String → Option Value) (fallback : Option Component) : Option Component := do
  readKind (← mandatory Value.asStr (get "kind")) get fallback

mutual

/-- The decoder on what `toValue` writes: objects. -/
def fromValue : Value → Option Component
  | .object members => read (Members.get members) (fallbackOf members)
  | _ => none

/-- The component in the member `fallback`. -/
def fallbackOf : List (String × Value) → Option Component
  | [] => none
  | (key, value) :: rest => if key = "fallback" then fromValue value else fallbackOf rest

end

theorem fromValue_object (members : Members) :
    fromValue (.object members) =
      read (Members.get members) (mandatory fromValue (Members.get members "fallback")) := by
  have lookup : fallbackOf members = (Members.get members "fallback").elim none fromValue :=
    scan_eq (by rw [fallbackOf]) (fun key value rest => by rw [fallbackOf]) members
  rw [fromValue, lookup]
  cases Members.get members "fallback" <;> rfl

/-- Two objects with the same members read alike. -/
theorem fromValue_congr {first second : Members}
    (same : ∀ key, Members.get first key = Members.get second key) :
    fromValue (.object first) = fromValue (.object second) := by
  rw [fromValue_object, fromValue_object, funext same]

/-- What every decoded component satisfies: present defaults are not `null` and
numbers are finite. -/
def Canonical : Component → Prop
  | .form _ fields _ _ _ _ => ∀ field ∈ fields, field.Canonical
  | .formGroups _ groups _ _ => ∀ group ∈ groups, group.Canonical
  | .report _ _ _ series _ => ∀ number ∈ series, Double.isFinite number
  | .progress _ _ fraction => ∀ number ∈ fraction, Double.isFinite number
  | .embed _ _ _ fallback => fallback.Canonical
  | _ => True

theorem ofF64_of_isFinite {bits : UInt64} (finite : Double.isFinite bits) :
    Value.ofF64 bits ≠ .null ∧ (Value.ofF64 bits).asF64 = some bits := by
  simp [Value.ofF64, finite, Value.asF64]

theorem readU32_toNat (pixels : UInt32) :
    readU32 (.number (.posInt pixels.toNat)) = some pixels := by
  have bound : pixels.toNat ≤ 0xFFFFFFFF := by
    have := pixels.toNat_lt
    omega
  simp [readU32, Value.asU64, bound]

@[simp]
theorem optional_height (height : Option UInt32) :
    optional readU32 (height.map fun pixels => .number (.posInt pixels.toNat)) = some height :=
  optional_map fun pixels _ => ⟨Value.noConfusion, readU32_toNat pixels⟩

@[simp]
theorem orDefault_pills (pills : List (String × String)) :
    orDefault [] texts (omitIf pills.isEmpty (textsToValue pills)) = some pills :=
  orDefault_omitIf (texts_map pills) fun empty => by simpa using empty

@[simp]
theorem orDefault_args (args : Value) :
    orDefault .null some (omitIf args.isNull args) = some args :=
  orDefault_omitIf rfl fun empty => by cases args <;> simp_all [Value.isNull]

theorem fromValue_tagged (kind : String) (fields : List (String × Option Value)) :
    fromValue (tagged kind fields) =
      readKind kind (find (("kind", some (.string kind)) :: fields))
        (mandatory fromValue (find fields "fallback")) := by
  have lookups : Members.get (members (("kind", some (.string kind)) :: fields)) =
      find (("kind", some (.string kind)) :: fields) := funext fun key => get_members _ key
  rw [tagged, object, fromValue_object, lookups]
  rfl

/-- Decoding undoes encoding. -/
theorem fromValue_toValue {component : Component} (canonical : component.Canonical) :
    fromValue component.toValue = some component := by
  induction component with
  | form title fields submitLabel tool sendTemplate previewLabel =>
    have inputs : Record.list FormField.fromValue (.array (fields.map FormField.toValue)) =
        some fields :=
      list_map fun field member => FormField.fromValue_toValue (canonical field member)
    simp [toValue, fromValue_tagged, readKind, inputs]
  | formGroups title groups submitLabel note =>
    have forms : Record.list FormGroup.fromValue (.array (groups.map FormGroup.toValue)) =
        some groups :=
      list_map fun group member => FormGroup.fromValue_toValue (canonical group member)
    simp [toValue, fromValue_tagged, readKind, forms]
  | report reportId args title series labels =>
    have numbers : orDefault [] (Record.list Value.asF64)
        (omitIf series.isEmpty (.array (series.map Value.ofF64))) = some series :=
      orDefault_list fun number member => (ofF64_of_isFinite (canonical number member)).2
    have captions : orDefault [] (Record.list Value.asStr)
        (omitIf labels.isEmpty (.array (labels.map .string))) = some labels :=
      orDefault_list fun _ _ => rfl
    simp [toValue, fromValue_tagged, readKind, numbers, captions]
  | progress title steps fraction =>
    have share : optional Value.asF64 (fraction.map Value.ofF64) = some fraction :=
      optional_map fun number member => ofF64_of_isFinite (canonical number member)
    simp [toValue, fromValue_tagged, readKind, share, list_map]
  | embed url title height fallback ih =>
    simp [toValue, fromValue_tagged, readKind, ih canonical]
  | diff lines =>
    simp [toValue, fromValue_tagged, readKind, list_map, DiffLine.fromValue_toValue]
  | tree title nodes gapsToggle =>
    simp [toValue, fromValue_tagged, readKind, list_map, TreeNode.fromValue_toValue]
  | text | button | narration | header | notice => simp [toValue, fromValue_tagged, readKind]
  | selection | dashboard | sources | list | table | chips | keyValue =>
    simp [toValue, fromValue_tagged, readKind, list_map]

/-! ### What a decoder can produce -/

theorem ensures_asF64 (value : Value) :
    Ensures (fun number => Double.isFinite number = true) value.asF64 := by
  intro number found
  unfold Value.asF64 at found
  split at found
  · exact (Option.filter_eq_some_iff.mp found).2
  · exact (Option.filter_eq_some_iff.mp found).2
  · exact (Option.filter_eq_some_iff.mp found).2
  · cases found

theorem canonical_readKind (kind : String) (get : String → Option Value)
    {fallback : Option Component} (below : Ensures Canonical fallback) :
    Ensures Canonical (readKind kind get fallback) := by
  unfold readKind
  split
  -- Most kinds hold nothing to check.
  all_goals try solve | (repeat refine Ensures.skip fun _ => ?_); exact Ensures.pure trivial
  · refine .skip fun title => .bind (.mandatory (.list FormField.canonical_fromValue) _) ?_
    intro fields canonical
    exact .skip fun submit => .skip fun tool => .skip fun send => .skip fun preview =>
      .pure canonical
  · refine .skip fun reportId => .skip fun args => .skip fun title =>
      .bind (.orDefault (by simp) (.list ensures_asF64) _) ?_
    intro series canonical
    exact .skip fun labels => .pure canonical
  · refine .skip fun title => .bind (.mandatory (.list FormGroup.canonical_fromValue) _) ?_
    intro groups canonical
    exact .skip fun submit => .skip fun note => .pure canonical
  · refine .skip fun title => .skip fun steps =>
      .bind (.optional (fun value _ => ensures_asF64 value) _) ?_
    intro fraction canonical
    exact .pure canonical
  · exact .skip fun url => .skip fun title => .skip fun height =>
      .bind below fun inner canonical => .pure canonical
  · exact .none

mutual

/-- A decoded component is canonical. -/
theorem canonical_fromValue (value : Value) : Ensures Canonical (fromValue value) := by
  cases value with
  | object members =>
    rw [fromValue]
    exact .skip fun kind => canonical_readKind kind _ (canonical_fallbackOf members)
  | _ =>
    rw [fromValue]
    · exact .none
    · intro members
      exact Value.noConfusion

theorem canonical_fallbackOf (members : List (String × Value)) :
    Ensures Canonical (fallbackOf members) := by
  cases members with
  | nil => rw [fallbackOf]; exact .none
  | cons member rest =>
    obtain ⟨key, value⟩ := member
    rw [fallbackOf]
    split
    · exact canonical_fromValue value
    · exact canonical_fallbackOf rest

end

end Component

namespace Surface

def Canonical (surface : Surface) : Prop := ∀ component ∈ surface.components, component.Canonical

def fromValue (value : Value) : Option Surface := do
  return ⟨← mandatory (Record.list Component.fromValue) (value.get "components")⟩

theorem canonical_fromValue (value : Value) : Ensures Canonical (fromValue value) := by
  refine .bind (.mandatory (.list Component.canonical_fromValue) _) ?_
  intro components canonical
  exact .pure canonical

end Surface

/-- The decoder as extraction uses it; `explain` words its errors. -/
def decodeSurface (explain : Value → String) (value : Value) : Except String Surface :=
  match Surface.fromValue value with
  | some surface => .ok surface
  | none => .error (explain value)

end Triton.A2ui
