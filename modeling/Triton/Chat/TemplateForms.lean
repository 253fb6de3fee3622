/-
# Forms on one Teams card

A submit gathers every input of its card. The inputs of each template component
have ids in a namespace of its own, and no id in one namespace is an id in another,
so the message of a component depends on its own inputs only.
-/

import Triton.Chat.ConversationCard
import Triton.Correlation.Filling
import Triton.Lib.Within

namespace Triton.Chat.Msteams

open Triton.Lib Triton.A2ui Triton.Correlation
open Triton.Lib.Record (str)

/-! ## The controls of a card -/

/-- An input, or the submit that gathers the inputs. -/
inductive Control where
  | input (id : String)
  | submit (token : String)
  deriving DecidableEq, Repr

def isControlKind (kind : String) : Bool :=
  Text.startsWith kind "Input." || kind == "Action.Execute"

/-- An element or action of a card as a control. -/
def controlOf (v : Value) : Option Control :=
  match (v.get "type").bind Value.asStr with
  | none => none
  | some kind =>
    if Text.startsWith kind "Input." then ((v.get "id").bind Value.asStr).map .input
    else if kind = "Action.Execute" ∧
        (v.get "associatedInputs").bind Value.asStr ≠ some "none" then
      (((v.get "data").bind (·.get tokenDataKey)).bind Value.asStr).map .submit
    else none

/-- The controls of some elements. -/
def controls (values : List Value) : List Control := pickedAll controlOf values

@[simp] theorem controls_nil : controls [] = [] := rfl

@[simp] theorem controls_cons (v : Value) (rest : List Value) :
    controls (v :: rest) = picked controlOf v ++ controls rest := rfl

@[simp] theorem controls_append (first second : List Value) :
    controls (first ++ second) = controls first ++ controls second := List.flatMap_append

@[simp] theorem controls_map {α : Type} (make : α → Value) (values : List α) :
    controls (values.map make) = [] ↔ ∀ a ∈ values, picked controlOf (make a) = [] := by
  simp [controls, pickedAll]

@[simp] theorem controls_optionally {α : Type} (value : Option α) (make : α → Value) :
    controls (optionally value make) = [] ↔
      ∀ a, value = some a → picked controlOf (make a) = [] := by
  cases value <;> simp [optionally]

/-- An element without controls in it. -/
@[simp] abbrev Inert (v : Value) : Prop := picked controlOf v = []

/-- A member without controls in it. -/
def Quiet (field : Option Value) : Prop := ∀ v ∈ field, Inert v

@[simp] theorem inert_string (s : String) : Inert (.string s) := rfl

@[simp] theorem quiet_none : Quiet none := by
  intro v member
  cases member

@[simp] theorem quiet_some (v : Value) : Quiet (some v) ↔ Inert v := by
  simp [Quiet]

@[simp] theorem quiet_str (s : String) : Quiet (str s) := by
  simp [str]

@[simp] theorem quiet_flag (b : Bool) : Quiet (flag b) := by
  rw [flag, quiet_some]
  rfl

@[simp] theorem quiet_map_string (text : Option String) : Quiet (text.map .string) := by
  cases text <;> simp

/-- Members without controls in them. -/
def QuietFields (fields : List (String × Option Value)) : Prop := ∀ field ∈ fields, Quiet field.2

@[simp] theorem quietFields_nil : QuietFields [] := by
  simp [QuietFields]

@[simp] theorem quietFields_cons (key : String) (field : Option Value)
    (rest : List (String × Option Value)) :
    QuietFields ((key, field) :: rest) ↔ Quiet field ∧ QuietFields rest := List.forall_mem_cons

@[simp] theorem picked_items (values : List Value) :
    picked controlOf (.array values) = controls values := picked_array values

@[simp] theorem quiet_items (values : List Value) :
    Quiet (items values) ↔ controls values = [] := by
  rw [items, quiet_some, Inert, picked_items]

variable {fields more : List (String × Option Value)}

theorem inert_object (untyped : Record.find fields "type" = none) (each : QuietFields fields) :
    Inert (Record.object fields) := by
  rw [Inert, picked_object_of_silent each, controlOf, Record.get_object, untyped]
  rfl

theorem get_element (kind : String) (fields : List (String × Option Value)) {key : String}
    (other : key ≠ "type") : (element kind fields).get key = Record.find fields key := by
  rw [element, Record.get_object, Record.find, if_neg other]

theorem controlOf_element (kind : String) (fields : List (String × Option Value)) :
    controlOf (element kind fields) =
      if Text.startsWith kind "Input." then
        ((Record.find fields "id").bind Value.asStr).map .input
      else if kind = "Action.Execute" ∧
          (Record.find fields "associatedInputs").bind Value.asStr ≠ some "none" then
        (((Record.find fields "data").bind (·.get tokenDataKey)).bind Value.asStr).map .submit
      else none := by
  have typed : ((element kind fields).get "type").bind Value.asStr = some kind := by
    simp [element, str]
  rw [controlOf, typed, get_element kind fields (by decide), get_element kind fields (by decide),
    get_element kind fields (by decide)]

theorem controlOf_plain {kind : String} (plain : isControlKind kind = false) :
    controlOf (element kind fields) = none := by
  simp only [isControlKind, Bool.or_eq_false_iff, beq_eq_false_iff_ne] at plain
  rw [controlOf_element, plain.1, if_neg Bool.false_ne_true, if_neg fun both => plain.2 both.1]

/-- With no control inside, there is only the element itself. -/
theorem picked_element (kind : String) (each : QuietFields fields) :
    picked controlOf (element kind fields) = (controlOf (element kind fields)).toList :=
  picked_object_of_silent (List.forall_mem_cons.mpr ⟨quiet_str kind, each⟩)

@[simp] theorem inert_element {kind : String} (plain : isControlKind kind = false)
    (each : QuietFields fields) : Inert (element kind fields) := by
  rw [Inert, picked_element kind each, controlOf_plain plain, Option.toList_none]

/-! ### Elements without controls -/

/-- A column with one text. -/
@[simp] theorem inert_cell (width : String) (each : QuietFields fields)
    (others : QuietFields more) : Inert (column width [element "TextBlock" fields] more) := by
  simp +decide [column, each, others]

@[simp] theorem controls_heading (title : Option String) :
    controls (optionally title heading) = [] := by
  simp +decide [heading]

@[simp] theorem inert_fact (title value : String) :
    Inert (Record.object [("title", str title), ("value", str value)]) :=
  inert_object rfl (by simp)

@[simp] theorem controls_actionSets {actions : List Value} (each : controls actions = []) :
    controls (actionSets actions) = [] := by
  unfold actionSets
  split <;> simp +decide [actionSet, each]

section Controls

variable (sign : Sign) (isAllowedLink : String → Bool)

@[simp] theorem inert_token (token : String) :
    Inert (Record.object [(tokenDataKey, str token)]) := inert_object rfl (by simp)

/-- A fixed message does not gather the inputs. -/
@[simp] theorem quiet_sendAction (title message : String) :
    Quiet (sendAction sign title message) := by
  intro v made
  obtain ⟨token, _, rfl⟩ := Option.map_eq_some_iff.mp made
  rw [Inert, picked_element _ (by simp [execute]), controlOf_element, if_neg (by decide),
    if_neg fun both => both.2 rfl, Option.toList_none]

@[simp] theorem quiet_action (title : String) (a : Option Action) :
    Quiet (a.bind (action sign title)) := by
  cases a with
  | none => exact quiet_none
  | some a => cases a <;> simp +decide [action]

@[simp] theorem controls_chipActions (chips : List Chip) :
    controls (chipActions sign chips) = [] := by
  refine List.flatMap_eq_nil_iff.mpr ?_
  intro v member
  obtain ⟨c, _, made⟩ := List.mem_filterMap.mp member
  exact quiet_sendAction sign _ _ v made

theorem controls_embedButton (url title : String) :
    controls (embedButton sign isAllowedLink url title) = [] := by
  have data (token : String) : Inert (Record.object [("msteams", some (element "task/fetch" [])),
      (tokenDataKey, str token)]) := inert_object rfl (by simp +decide)
  simp +decide [embedButton, actionSet, data]

/-! ### Trees -/

/-- The program opens no namespace and answers with something that holds. -/
def Leaves {α : Type} (holds : α → Prop) (program : Build α) : Prop :=
  ∀ b, holds (program b).1 ∧ (program b).2.forms = b.forms

theorem Leaves.answer {α : Type} {holds : α → Prop} {a : α} (here : holds a) :
    Leaves holds (pure a) := fun _ => ⟨here, rfl⟩

theorem Leaves.bind {α β : Type} {first : α → Prop} {second : β → Prop} {program : Build α}
    {next : α → Build β} (leaves : Leaves first program)
    (later : ∀ a, first a → Leaves second (next a)) : Leaves second (program >>= next) := by
  intro b
  obtain ⟨here, kept⟩ := leaves b
  obtain ⟨there, same⟩ := later _ here (program b).2
  exact ⟨there, same.trans kept⟩

theorem leaves_nextId (stem : String) : Leaves (fun _ => True) (nextId stem) :=
  fun _ => ⟨trivial, rfl⟩

theorem leaves_nodeIds : Leaves (fun _ => True) nodeIds :=
  (leaves_nextId _).bind fun _ _ => (leaves_nextId _).bind fun _ _ =>
    (leaves_nextId _).bind fun _ _ => (leaves_nextId _).bind fun _ _ => .answer trivial

variable (ids : NodeIds)

theorem inert_nodeHeader (label : String) (counts : List TreeCount) (hasInside expanded : Bool)
    {own : Option Value} (quiet : Quiet own) :
    Inert (nodeHeader ids label counts hasInside expanded own) := by
  have marked : Inert (column "auto" (markers ids hasInside expanded) []) := by
    cases hasInside <;> simp +decide [column, markers]
  have opened (targets : List String) : Inert (toggle targets []) := by
    simp +decide [toggle]
  cases hasInside <;> cases counts <;>
    simp +decide [nodeHeader, columnSet, quiet, marked, opened]

theorem inert_nodeInside (expanded : Bool) {inner : List Value} (each : controls inner = []) :
    Inert (nodeInside ids expanded inner) := by
  have empty : Inert (column "12px" [] []) := by decide
  have below : Inert (column "stretch" inner []) := by
    simp +decide [column, each]
  simp +decide [nodeInside, columnSet, empty, below]

theorem inert_nodeBox {inner : List Value} (each : controls inner = []) :
    Inert (nodeBox ids inner) := by
  simp +decide [nodeBox, each]

mutual

theorem leaves_treeNode : ∀ node : TreeNode,
    Leaves (fun made => Inert made.1) (treeNode sign node)
  | .mk label counts gap expanded chips act actionLabel children => by
      rw [treeNode]
      refine leaves_nodeIds.bind fun ids _ => ?_
      have own := quiet_action sign (actionLabel.getD label) act
      have head := inert_nodeHeader ids label counts (!children.isEmpty || !chips.isEmpty)
        (expanded || gap) own
      dsimp only
      split
      · refine (leaves_treeNodes children).bind fun below each => .answer ?_
        have control (a : Value) (made : act.bind (action sign (actionLabel.getD label)) = some a) :
            Inert (actionSet [a]) := by
          simp +decide [actionSet, own a made]
        refine inert_nodeBox ids ?_
        rw [controls_cons, head, controls_cons, controls_nil, List.append_nil, List.nil_append]
        refine inert_nodeInside ids _ ?_
        simpa [each] using control
      · exact .answer (inert_nodeBox ids (by simp [head]))

theorem leaves_treeNodes : ∀ nodes : List TreeNode,
    Leaves (fun made => controls made.1 = []) (treeNodes sign nodes)
  | [] => by
      rw [treeNodes]
      exact .answer controls_nil
  | node :: rest => by
      rw [treeNodes]
      refine (leaves_treeNode node).bind fun first here => ?_
      refine (leaves_treeNodes rest).bind fun others there => .answer ?_
      rw [controls_cons, here, there, List.nil_append]

end

/-! ## Template components -/

end Controls

/-- What a template component asks for: the names of its inputs and its template. A
group of a form is shown only with its submit. -/
structure TemplateForm where
  names : List String
  template : String
  grouped : Bool

/-- The template components in a component, in the order of their namespaces. -/
def templateForms : Component → List TemplateForm
  | .selection _ _ _ argsKey _ (some submit) => [⟨[argsKey], submit.template, false⟩]
  | .form _ fields _ _ (some template) _ => [⟨fields.map FormField.name, template, false⟩]
  | .formGroups _ groups _ _ =>
    groups.map fun g => ⟨g.fields.map FormField.name, g.sendTemplate, true⟩
  | .embed _ _ _ fallback => templateForms fallback
  | _ => []

namespace TemplateForm

/-- The arguments that are signed for the component with this number. -/
def args (form : TemplateForm) (k : ℕ) : Value :=
  Message.templateArgs (namespaced (namespaceOf k) form.template)

def inputControls (form : TemplateForm) (k : ℕ) : List Control :=
  form.names.map fun name => .input (namespaceOf k ++ name)

/-- The controls of a component with this number. -/
def controls (sign : Sign) (form : TemplateForm) (k : ℕ) : List Control :=
  match sign Message.sendMessageTool (form.args k) with
  | some token => form.inputControls k ++ [.submit token]
  | none => if form.grouped then [] else form.inputControls k

end TemplateForm

/-- The controls of components that follow this many others. -/
def expected (sign : Sign) (before : ℕ) : List TemplateForm → List Control
  | [] => []
  | form :: rest => form.controls sign (before + 1) ++ expected sign (before + 1) rest

theorem expected_append (sign : Sign) (before : ℕ) (first second : List TemplateForm) :
    expected sign before (first ++ second) =
      expected sign before first ++ expected sign (before + first.length) second := by
  induction first generalizing before with
  | nil => rfl
  | cons form rest ih =>
    rw [List.cons_append, expected, ih, expected, List.append_assoc, List.length_cons,
      Nat.add_assoc, Nat.add_comm 1]

section Forms

variable (sign : Sign) (isAllowedLink : String → Bool)

/-- The program opens a namespace for each of the forms, and the controls of its
elements are those of the forms. -/
def Shows (program : Build (List Value)) (forms : List TemplateForm) : Prop :=
  ∀ b, (program b).2.forms = b.forms + forms.length ∧
    ∀ c, c ∈ controls (program b).1 ↔ c ∈ expected sign b.forms forms

theorem Leaves.shows {program : Build (List Value)} (leaves : Leaves (controls · = []) program) :
    Shows sign program [] := by
  intro b
  obtain ⟨each, kept⟩ := leaves b
  exact ⟨kept, fun c => by rw [each]; rfl⟩

theorem shows_answer {values : List Value} (each : controls values = []) :
    Shows sign (pure values) [] := Leaves.shows sign fun _ => ⟨each, rfl⟩

/-- What is added without controls makes no difference. -/
theorem Shows.around {program : Build (List Value)} {forms : List TemplateForm}
    (shows : Shows sign program forms) {wrap : List Value → List Value}
    (same : ∀ values c, c ∈ controls (wrap values) ↔ c ∈ controls values) :
    Shows sign (do return wrap (← program)) forms := by
  intro b
  obtain ⟨count, found⟩ := shows b
  exact ⟨count, fun c => (same _ c).trans (found c)⟩

theorem shows_gather {α : Type} {program : α → Build (List Value)}
    {forms : α → List TemplateForm} (each : ∀ a, Shows sign (program a) (forms a))
    (listed : List α) : Shows sign (gather program listed) (listed.flatMap forms) := by
  induction listed with
  | nil => exact shows_answer sign controls_nil
  | cons a rest ih =>
    intro b
    obtain ⟨firstCount, first⟩ := each a b
    obtain ⟨restCount, others⟩ := ih (program a b).2
    have count : (gather program (a :: rest) b).2.forms =
        b.forms + ((a :: rest).flatMap forms).length := by
      rw [List.flatMap_cons, List.length_append]
      change (gather program rest (program a b).2).2.forms = _
      omega
    refine ⟨count, fun c => ?_⟩
    rw [List.flatMap_cons, expected_append, List.mem_append, ← first c, ← firstCount, ← others c]
    change c ∈ controls ((program a b).1 ++ (gather program rest (program a b).2).1) ↔ _
    rw [controls_append, List.mem_append]

/-! ### Inputs and submits -/

theorem quiet_choices (options : List SelectionOption) : Quiet (choices options) := by
  simp [choices]

theorem quiet_defaultText (f : FormField) : Quiet (defaultText f) := quiet_map_string _

/-- An input has its id and nothing else. -/
theorem picked_input {kind : String} {fields : List (String × Option Value)} {id : String}
    (isInput : Text.startsWith kind "Input." = true) (named : Record.find fields "id" = str id)
    (each : QuietFields fields) : picked controlOf (element kind fields) = [.input id] := by
  rw [picked_element kind each, controlOf_element, if_pos isInput, named]
  rfl

theorem picked_fieldInput (f : FormField) (ns : String) (inTemplate : Bool) :
    picked controlOf (input f ns inTemplate) = [.input (ns ++ f.name)] := by
  unfold input
  cases f.kind with
  | select => exact picked_input (by decide) rfl (by simp [quiet_choices, quiet_defaultText])
  | text | string => exact picked_input (by decide) rfl (by simp [quiet_defaultText])
  | integer | boolean => exact picked_input (by decide) rfl (by simp)

theorem controls_inputs (fields : List FormField) (template ns : String) :
    controls (inputs fields template ns) = fields.map fun f => .input (ns ++ f.name) := by
  rw [inputs, controls, pickedAll, List.flatMap_map]
  simp only [picked_fieldInput]
  exact List.flatMap_pure_eq_map _ _

theorem picked_templateAction {title template : String} {v : Value}
    (made : templateAction sign title template = some v) :
    ∃ token, sign Message.sendMessageTool (Message.templateArgs template) = some token ∧
      picked controlOf v = [.submit token] := by
  obtain ⟨token, signed, rfl⟩ := Option.map_eq_some_iff.mp made
  refine ⟨token, signed, ?_⟩
  rw [picked_element _ (by simp [execute]), controlOf_element, if_neg (by decide),
    if_pos ⟨rfl, by simp [execute]⟩]
  rfl

variable {c : Control}

/-- The controls of an element are those of its members. -/
theorem mem_picked_element {kind : String} {fields : List (String × Option Value)}
    (plain : isControlKind kind = false) (distinct : ("type" :: fields.map Prod.fst).Nodup) :
    c ∈ picked controlOf (element kind fields) ↔
      ∃ field ∈ fields, ∃ v ∈ field.2, c ∈ picked controlOf v := by
  have itself : controlOf (element kind fields) = none := controlOf_plain plain
  rw [element] at itself ⊢
  rw [mem_picked_object (by simpa using distinct), itself]
  simp [str]

theorem mem_picked_actionSet {actions : List Value} :
    c ∈ picked controlOf (actionSet actions) ↔ c ∈ controls actions := by
  rw [actionSet, mem_picked_element (by decide) (by simp)]
  simp [items]

theorem mem_picked_showCard {label : String} {body : List Value} :
    c ∈ picked controlOf (element "Action.ShowCard" [("title", str label),
      ("card", some (element "AdaptiveCard" [("body", items body)]))]) ↔ c ∈ controls body := by
  have card : c ∈ picked controlOf (element "AdaptiveCard" [("body", items body)]) ↔
      c ∈ controls body := by
    rw [mem_picked_element (by decide) (by simp)]
    simp [items]
  rw [mem_picked_element (by decide) (by simp)]
  simp [str, card]

/-! ### Each kind of template component -/

theorem mem_controls_submitSet {title template : String} :
    c ∈ controls (submitSet sign title template) ↔
      ∃ token, sign Message.sendMessageTool (Message.templateArgs template) = some token ∧
        c = .submit token := by
  unfold submitSet
  cases made : templateAction sign title template with
  | none =>
    have unsigned := Option.map_eq_none_iff.mp made
    simp [optionally, unsigned]
  | some v =>
    obtain ⟨token, signed, found⟩ := picked_templateAction sign made
    have offered : c ∈ picked controlOf (actionSet [v]) ↔ c = .submit token := by
      rw [mem_picked_actionSet, controls_cons, controls_nil, found, List.append_nil,
        List.mem_singleton]
    simp [optionally, signed, offered]

theorem mem_controls_form {form : TemplateForm} (single : form.grouped = false) {k : ℕ} :
    c ∈ form.controls sign k ↔ c ∈ form.inputControls k ∨
      ∃ token, sign Message.sendMessageTool (form.args k) = some token ∧ c = .submit token := by
  unfold TemplateForm.controls
  cases sign Message.sendMessageTool (form.args k) <;> simp [single]

/-- A component that opens one namespace. -/
theorem shows_single {form : TemplateForm} {make : String → List Value}
    (found : ∀ k c, c ∈ controls (make (namespaceOf k)) ↔ c ∈ form.controls sign k) :
    Shows sign (do return make (← nextNamespace)) [form] := by
  intro b
  refine ⟨rfl, fun c => ?_⟩
  rw [expected, expected, List.append_nil]
  exact found (b.forms + 1) c

theorem controls_preview (label : Option String) (shown : String) :
    controls (optionally label fun l => previewBlock l shown) = [] := by
  simp +decide [previewBlock]

theorem shows_selection (prompt : String) (options : List SelectionOption) (argsKey : String)
    (style : SelectionStyle) (submit : SubmitTemplate) :
    Shows sign (selection sign prompt options argsKey style submit)
      [⟨[argsKey], submit.template, false⟩] := by
  refine shows_single sign fun k c => ?_
  rw [mem_controls_form sign rfl, controls_append, controls_cons,
    picked_input (by decide) rfl (by simp [quiet_choices]), controls_preview, List.append_nil,
    List.mem_append, mem_controls_submitSet]
  simp [TemplateForm.inputControls, TemplateForm.args]

theorem shows_templateForm (title : String) (fields : List FormField)
    (submitLabel template : String) (previewLabel : Option String) :
    Shows sign (templateForm sign title fields submitLabel template previewLabel)
      [⟨fields.map FormField.name, template, false⟩] := by
  refine shows_single sign fun k c => ?_
  rw [mem_controls_form sign rfl, controls_append, controls_append, controls_append,
    controls_heading, controls_inputs, controls_preview, List.append_nil, List.nil_append,
    List.mem_append, mem_controls_submitSet]
  simp [TemplateForm.inputControls, TemplateForm.args]

theorem shows_formGroup (submitLabel : String) (note : Option String) (g : FormGroup) :
    Shows sign (formGroup sign submitLabel note g)
      [⟨g.fields.map FormField.name, g.sendTemplate, true⟩] := by
  refine shows_single sign fun k c => ?_
  rw [TemplateForm.controls, TemplateForm.args]
  cases made : templateAction sign (submitLabelOf submitLabel)
      (namespaced (namespaceOf k) g.sendTemplate) with
  | none =>
    rw [Option.map_eq_none_iff.mp made]
    simp [optionally]
  | some v =>
    obtain ⟨token, signed, found⟩ := picked_templateAction sign made
    have noted : controls (optionally (note.filter (!·.isEmpty)) noteBlock) = [] :=
      by simp +decide [noteBlock]
    rw [signed]
    change c ∈ controls [_] ↔ _
    rw [controls_cons, controls_nil, List.append_nil, mem_picked_showCard, controls_append,
      controls_append, controls_inputs, noted, List.append_nil, controls_cons, controls_nil,
      List.append_nil, List.mem_append, mem_picked_actionSet, controls_cons, controls_nil,
      found]
    simp [TemplateForm.inputControls]

theorem shows_formGroups (title : Option String) (groups : List FormGroup) (submitLabel : String)
    (note : Option String) :
    Shows sign (formGroups sign title groups submitLabel note)
      (groups.map fun g => ⟨g.fields.map FormField.name, g.sendTemplate, true⟩) := by
  have openers := shows_gather sign (shows_formGroup sign submitLabel note) groups
  rw [← List.map_eq_flatMap] at openers
  refine openers.around sign fun values c => ?_
  rw [controls_append, controls_heading, List.nil_append, actionSets]
  split
  case isTrue empty => rw [List.isEmpty_iff.mp empty]
  case isFalse => rw [controls_cons, controls_nil, List.append_nil, mem_picked_actionSet]

theorem shows_component (c : Component) :
    Shows sign (component sign isAllowedLink c) (templateForms c) := by
  induction c with
  | list title listed => exact shows_answer sign (by simp +decide [listItem])
  | table title columns rows =>
    exact shows_answer sign (by simp +decide [table, tableRow, columnSet])
  | chips prompt requests => exact shows_answer sign (by simp +decide [chips])
  | tree title nodes gapsToggle =>
    refine Leaves.shows sign ((leaves_treeNodes sign nodes).bind fun made each => .answer ?_)
    simp +decide [actionSet, toggle, each]
  | notice tone title text => exact shows_answer sign (by simp +decide [notice])
  | progress title steps fraction =>
    exact shows_answer sign (by simp +decide [progress, progressLine])
  | keyValue title pairs => exact shows_answer sign (by simp +decide [keyValue])
  | header title context stamp => exact shows_answer sign (by simp +decide [header, columnSet])
  | formGroups title groups submitLabel note =>
    exact shows_formGroups sign title groups submitLabel note
  | selection prompt options tool argsKey style submit =>
    cases submit with
    | none => exact shows_answer sign controls_nil
    | some submit => exact shows_selection sign prompt options argsKey style submit
  | form title fields submitLabel tool sendTemplate previewLabel =>
    cases sendTemplate with
    | none => exact shows_answer sign controls_nil
    | some template =>
      exact shows_templateForm sign title fields submitLabel template previewLabel
  | embed url title height fallback inner =>
    refine inner.around sign fun values c => ?_
    rw [controls_append, controls_embedButton sign isAllowedLink url title,
      List.append_nil]
  | text value pills | narration text => exact shows_answer sign (by simp +decide)
  | button | dashboard | report | diff | sources => exact shows_answer sign controls_nil

/-- The template components of a surface, in the order of their namespaces. -/
def surfaceForms (surface : Surface) : List TemplateForm :=
  (surface.components.filter rendersHere).flatMap templateForms

/-- A card holds the controls of its template components and no others. -/
theorem mem_controls_elements (surface : Surface) (c : Control) :
    c ∈ controls (elements sign isAllowedLink surface) ↔
      c ∈ expected sign 0 (surfaceForms surface) :=
  (shows_gather sign (shows_component sign isAllowedLink) _ ⟨0, 0⟩).2 c

end Forms

/-! ## Namespaces -/

theorem splitOnce_namespaceOf (k : ℕ) (name : String) :
    Text.splitOnce '.' (namespaceOf k ++ name) = some ("t" ++ toString k, name) := by
  have whole : namespaceOf k ++ name =
      String.ofList ('t' :: (toString k).toList ++ '.' :: name.toList) := by
    apply String.toList_inj.mp
    simp [namespaceOf]
  have first : '.' ∉ 't' :: (toString k).toList := by
    rw [List.mem_cons, not_or]
    refine ⟨by decide, ?_⟩
    intro member
    cases Text.isDigit_of_mem_toString member
  rw [whole, Text.splitOnce_ofList first, String.ofList_toList, Option.some.injEq, Prod.mk.injEq]
  refine ⟨?_, rfl⟩
  apply String.toList_inj.mp
  simp

/-- Names in different namespaces differ. -/
theorem namespaceOf_append_inj {j k : ℕ} {name other : String}
    (same : namespaceOf j ++ name = namespaceOf k ++ other) : j = k ∧ name = other := by
  have parts := splitOnce_namespaceOf j name
  rw [same, splitOnce_namespaceOf k other, Option.some.injEq, Prod.mk.injEq] at parts
  exact ⟨(Text.toString_inj ((String.append_right_inj _).mp parts.1)).symm, parts.2.symm⟩

theorem isName_namespaceOf (k : ℕ) (name : String) (valid : Message.IsName name) :
    Message.IsName (namespaceOf k ++ name) where
  nonempty := by simp [namespaceOf]
  chars := by
    intro c member
    simp only [namespaceOf, String.toList_append, List.mem_append] at member
    rcases member with (((first | digit) | dot) | rest)
    · cases List.mem_singleton.mp first
      decide
    · simp [Message.isNameChar, Char.isAlphanum, Text.isDigit_of_mem_toString digit]
    · cases List.mem_singleton.mp dot
      decide
    · exact valid.chars c rest

/-! ## A submit -/

def Control.inputId : Control → Option String
  | .input id => some id
  | .submit _ => none

/-- The ids of the inputs of a card. -/
def inputIds (card : List Value) : List String := (controls card).filterMap Control.inputId

/-- The token of a control, and every input with its answer. -/
def sent (answers : String → Value) (ids : List String) (token : String) :
    List (String × Option Value) :=
  (tokenDataKey, str token) :: ids.map fun id => (id, some (answers id))

/-- What comes back from a card when a control is used. -/
def submission (answers : String → Value) (card : List Value) (token : String) : Value :=
  Record.object [("action", some (Record.object [("data",
    some (Record.object (sent answers (inputIds card) token)))]))]

/-- The answer to one of these inputs, as the text it is read as. -/
def answered (numberText : Number → String) (answers : String → Value) (ids : List String)
    (name : String) : Option String :=
  if name ∈ ids then inputAsString numberText (answers name) else none

/-- The message of a click, with the card's inputs in the placeholders. -/
def clickMessage (args : Value) (inputs : Inputs) : Except Message.MessageError String :=
  Message.resolve args fun name => inputs.reverse.lookup name

theorem lookup_of_agree {α : Type} {pairs : List (String × α)} {value : String → Option α}
    (agree : ∀ pair ∈ pairs, value pair.1 = some pair.2) {key : String}
    (listed : ∀ a, value key = some a → (key, a) ∈ pairs) : pairs.lookup key = value key := by
  cases found : pairs.lookup key with
  | some a => exact (agree _ (mem_of_lookup found)).symm
  | none =>
    cases given : value key with
    | none => rfl
    | some a =>
      have fresh := List.lookup_eq_none_iff.mp found _ (listed a given)
      simp at fresh

theorem find_answers {ids : List String} (answers : String → Value) {id : String}
    (member : id ∈ ids) :
    Record.find (ids.map fun id => (id, some (answers id))) id = some (answers id) := by
  refine find_of_mem (List.mem_map.mpr ⟨id, member, rfl⟩) fun field listed same => ?_
  obtain ⟨other, _, rfl⟩ := List.mem_map.mp listed
  rw [← same]

section Submit

variable (numberText : Number → String) (answers : String → Value)

/-- The inputs that a callback reads from members. -/
def inputsOf (members : Members) : Inputs :=
  (members.filter (·.1 != tokenDataKey)).filterMap fun member =>
    (inputAsString numberText member.2).map (member.1, ·)

theorem mem_inputsOf {members : Members} {name text : String} :
    (name, text) ∈ inputsOf numberText members ↔
      ∃ v, (name, v) ∈ members ∧ name ≠ tokenDataKey ∧ inputAsString numberText v = some text := by
  simp only [inputsOf, List.mem_filterMap, List.mem_filter, bne_iff_ne]
  constructor
  · rintro ⟨⟨key, v⟩, ⟨listed, other⟩, made⟩
    obtain ⟨shown, read, same⟩ := Option.map_eq_some_iff.mp made
    cases same
    exact ⟨v, listed, other, read⟩
  · rintro ⟨v, listed, other, read⟩
    exact ⟨(name, v), ⟨listed, other⟩, Option.map_eq_some_iff.mpr ⟨text, read, rfl⟩⟩

theorem lookup_inputsOf_sent {ids : List String} (fresh : tokenDataKey ∉ ids)
    (token name : String) :
    (inputsOf numberText (Record.members (sent answers ids token))).reverse.lookup name =
      answered numberText answers ids name := by
  apply lookup_of_agree
  · rintro ⟨key, text⟩ member
    obtain ⟨v, listed, other, read⟩ := (mem_inputsOf numberText).mp (List.mem_reverse.mp member)
    rcases List.mem_cons.mp (field_of_mem_members listed) with first | later
    · exact absurd (congrArg Prod.fst first) other
    · obtain ⟨id, there, same⟩ := List.mem_map.mp later
      simp only [Prod.mk.injEq, Option.some.injEq] at same
      obtain ⟨rfl, rfl⟩ := same
      exact (if_pos there).trans read
  · intro text given
    obtain ⟨there, read⟩ := Option.ite_none_right_eq_some.mp given
    have other : name ≠ tokenDataKey := by
      rintro rfl
      exact fresh there
    have found : Members.get (Record.members (sent answers ids token)) name =
        some (answers name) := by
      rw [Record.get_members, sent, Record.find, if_neg other, find_answers answers there]
    exact List.mem_reverse.mpr
      ((mem_inputsOf numberText).mpr ⟨answers name, mem_of_lookup found, other, read⟩)

/-- A callback gives back the token, and the answer of each input as a text. -/
theorem extractCallback_submission {card : List Value} (fresh : tokenDataKey ∉ inputIds card)
    (token : String) :
    ∃ inputs, extractCallback numberText (submission answers card token) .execute =
        some (token, inputs) ∧
      ∀ name, inputs.reverse.lookup name =
        answered numberText answers (inputIds card) name := by
  refine ⟨inputsOf numberText (Record.members (sent answers (inputIds card) token)), ?_,
    lookup_inputsOf_sent numberText answers fresh token⟩
  have data : ((submission answers card token).get "action").bind (·.get "data") =
      some (.object (Record.members (sent answers (inputIds card) token))) := by
    simp only [submission, Record.get_object, Record.find, if_true, Option.some_or,
      Option.bind_some]
    rfl
  have signed : Members.get (Record.members (sent answers (inputIds card) token)) tokenDataKey =
      some (.string token) := by
    simp [Record.get_members, sent, str]
  rw [extractCallback]
  simp only [data, signed]
  rfl

end Submit

section Card

variable (sign : Sign) (isAllowedLink : String → Bool)

theorem mem_expected {before : ℕ} {forms : List TemplateForm} {c : Control} :
    c ∈ expected sign before forms ↔
      ∃ (k : ℕ) (form : TemplateForm), forms[k]? = some form ∧
        c ∈ form.controls sign (before + k + 1) := by
  induction forms generalizing before with
  | nil => simp [expected]
  | cons first rest ih =>
    rw [expected, List.mem_append, ih]
    constructor
    · rintro (here | ⟨k, form, listed, there⟩)
      · exact ⟨0, first, rfl, here⟩
      · refine ⟨k + 1, form, listed, ?_⟩
        rwa [show before + (k + 1) + 1 = before + 1 + k + 1 by omega]
    · rintro ⟨k, form, listed, there⟩
      cases k with
      | zero =>
        cases listed
        exact .inl there
      | succ k =>
        refine .inr ⟨k, form, listed, ?_⟩
        rwa [show before + 1 + k + 1 = before + (k + 1) + 1 by omega]

theorem input_mem_controls {form : TemplateForm} {k : ℕ} {id : String}
    (member : .input id ∈ form.controls sign k) :
    ∃ name ∈ form.names, id = namespaceOf k ++ name := by
  have input : .input id ∈ form.inputControls k := by
    unfold TemplateForm.controls at member
    split at member
    · simpa using member
    · split at member
      · cases member
      · exact member
  obtain ⟨name, listed, same⟩ := List.mem_map.mp input
  cases same
  exact ⟨name, listed, rfl⟩

theorem mem_inputIds {card : List Value} {id : String} :
    id ∈ inputIds card ↔ .input id ∈ controls card := by
  rw [inputIds, List.mem_filterMap]
  constructor
  · rintro ⟨c, listed, found⟩
    cases c with
    | input other =>
      cases found
      exact listed
    | submit token => cases found
  · intro listed
    exact ⟨_, listed, rfl⟩

section

variable {surface : Surface} {front back : List Value}

/-- The inputs of a card are those of its template components, when nothing else on it
is an input. -/
theorem mem_inputIds_card (noLegacy : inputIds (front ++ back) = []) {id : String} :
    id ∈ inputIds (front ++ elements sign isAllowedLink surface ++ back) ↔
      ∃ (k : ℕ) (form : TemplateForm), (surfaceForms surface)[k]? = some form ∧
        .input id ∈ form.controls sign (k + 1) := by
  have around : .input id ∉ controls front ∧ .input id ∉ controls back := by
    rw [← not_or, ← List.mem_append, ← controls_append, ← mem_inputIds, noLegacy]
    exact List.not_mem_nil
  rw [mem_inputIds, controls_append, controls_append, List.mem_append, List.mem_append,
    mem_controls_elements, mem_expected]
  simp [around.1, around.2]

/-- In the namespace of a component that has its submit there are its own inputs
only. -/
theorem namespaced_mem_inputIds (noLegacy : inputIds (front ++ back) = []) {k : ℕ}
    {form : TemplateForm} {token : String} (listed : (surfaceForms surface)[k]? = some form)
    (signed : sign Message.sendMessageTool (form.args (k + 1)) = some token) {name : String} :
    namespaceOf (k + 1) ++ name ∈
        inputIds (front ++ elements sign isAllowedLink surface ++ back) ↔ name ∈ form.names := by
  rw [mem_inputIds_card sign isAllowedLink noLegacy]
  constructor
  · rintro ⟨j, other, there, input⟩
    obtain ⟨own, member, same⟩ := input_mem_controls sign input
    obtain ⟨number, rfl⟩ := namespaceOf_append_inj same
    cases Nat.succ.inj number
    rw [listed] at there
    cases there
    exact member
  · intro member
    refine ⟨k, form, listed, ?_⟩
    rw [TemplateForm.controls, signed]
    exact List.mem_append_left _ (List.mem_map.mpr ⟨name, member, rfl⟩)

/-- When a template component is submitted, its token comes back, and its message is
that of its own template with its own answers. What is missing is reported under the
names of its namespace. -/
theorem forms_do_not_interfere (numberText : Number → String) (answers : String → Value)
    (noLegacy : inputIds (front ++ back) = []) {k : ℕ} {form : TemplateForm} {token : String}
    (listed : (surfaceForms surface)[k]? = some form)
    (signed : sign Message.sendMessageTool (form.args (k + 1)) = some token) :
    .submit token ∈ controls (elements sign isAllowedLink surface) ∧
      ∃ inputs,
        extractCallback numberText (submission answers
          (front ++ elements sign isAllowedLink surface ++ back) token) .execute =
            some (token, inputs) ∧
        clickMessage (form.args (k + 1)) inputs =
          (Message.resolve (Message.templateArgs form.template)
            (answered numberText (fun name => answers (namespaceOf (k + 1) ++ name))
              form.names)).mapError (Message.MessageError.renamed (namespaceOf (k + 1) ++ ·)) := by
  constructor
  · rw [mem_controls_elements, mem_expected]
    refine ⟨k, form, listed, ?_⟩
    rw [Nat.zero_add, TemplateForm.controls, signed]
    exact List.mem_append_right _ List.mem_cons_self
  · have fresh : tokenDataKey ∉
        inputIds (front ++ elements sign isAllowedLink surface ++ back) := by
      intro member
      obtain ⟨k, form, _, input⟩ := (mem_inputIds_card sign isAllowedLink noLegacy).mp member
      obtain ⟨name, _, same⟩ := input_mem_controls sign input
      have parts := splitOnce_namespaceOf (k + 1) name
      rw [← same] at parts
      cases parts
    obtain ⟨inputs, extracted, read⟩ :=
      extractCallback_submission numberText answers fresh token
    refine ⟨inputs, extracted, ?_⟩
    have own : (fun name => inputs.reverse.lookup name) ∘ (namespaceOf (k + 1) ++ ·) =
        answered numberText (fun name => answers (namespaceOf (k + 1) ++ name)) form.names := by
      funext name
      rw [Function.comp_apply, read, answered, answered]
      simp only [namespaced_mem_inputIds sign isAllowedLink noLegacy listed signed]
    rw [clickMessage, TemplateForm.args, namespaced,
      Message.resolve_renamePlaceholders (isName_namespaceOf (k + 1))
        (fun _ _ same => (namespaceOf_append_inj same).2), own]

end

end Card

/-- Two selections that both ask for a city. -/
def twoCities : Surface :=
  ⟨[.selection "From" [] "" "city" .radio (some ⟨"Send", "From \x7bcity\x7d", none⟩),
    .selection "To" [] "" "city" .radio (some ⟨"Send", "To \x7bcity\x7d", none⟩)]⟩

def toCity : TemplateForm := ⟨["city"], "To \x7bcity\x7d", false⟩

/-- The second reads its own city, whatever the first holds. -/
theorem second_selection_reads_its_own_city :
    .submit "__send_message" ∈
        controls (elements (fun tool _ => some tool) (fun _ => true) twoCities) ∧
      ∃ inputs,
        extractCallback (fun _ => "") (submission (fun id => .string id)
          ([] ++ elements (fun tool _ => some tool) (fun _ => true) twoCities ++ [])
            "__send_message") .execute = some ("__send_message", inputs) ∧
        clickMessage (toCity.args (1 + 1)) inputs =
          (Message.resolve (Message.templateArgs toCity.template)
            (answered (fun _ => "") (fun name => .string (namespaceOf (1 + 1) ++ name))
              toCity.names)).mapError
            (Message.MessageError.renamed (namespaceOf (1 + 1) ++ ·)) := by
  have second : (surfaceForms twoCities)[1]? = some toCity := rfl
  have noLegacy : inputIds ([] ++ []) = [] := rfl
  have signed : (fun tool _ => some tool : Sign) Message.sendMessageTool (toCity.args (1 + 1)) =
      some "__send_message" := rfl
  exact forms_do_not_interfere (fun tool _ => some tool) (fun _ => true) (fun _ => "")
    (fun id => .string id) noLegacy second signed

end Triton.Chat.Msteams
