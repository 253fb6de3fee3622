/-
# A card is a tree

A card is drawn from its root downwards, so its components have to form a tree.
The ids the builder hands out and has not yet put below another component are its
open ids: each function uses up the ids it is given and leaves open the ids it
returns. At the end the root column takes all of them, and the card takes the root
column. The messages that were given to a button are told along the way.

Ids are distinct because each has a number of its own in it.
-/

import Triton.A2ui.GeControls
import Triton.Lib.Forest

namespace Triton.A2ui.Ge

open Triton.Lib Triton.Correlation
open Triton.Lib.Record (str)

/-- The ids a component names as its children. -/
def childrenOf (comp : Value) : List (Option String) :=
  (((comp.get "children").bind Value.asArray).getD []).map Value.asStr

/-- One open id. -/
def one (id : String) : Multiset (Option String) := {some id}

abbrev refs : List String → Multiset (Option String) := total one

/-! ## Numbers in ids -/

/-- The text that stands for the number: it follows the first letter of an action's
id, and the dash of any other. -/
def serialIn (head tail : String) : String :=
  if head.toList.head? = some 'a' then String.ofList head.toList.tail else tail

def serialOf (id : Option String) : Option String :=
  (id.bind (Text.splitOnce '-')).map fun parts => serialIn parts.1 parts.2

/-- What an id without an action may begin with. -/
def IsStem (stem : String) : Prop := stem.toList.head? ≠ some 'a' ∧ '-' ∉ stem.toList

instance (stem : String) : Decidable (IsStem stem) := inferInstanceAs (Decidable (_ ∧ _))

theorem serialOf_stem {stem : String} (isStem : IsStem stem) (n : ℕ) :
    serialOf (some (stem ++ "-" ++ toString n)) = some (toString n) := by
  have whole : stem ++ "-" ++ toString n =
      String.ofList (stem.toList ++ '-' :: (toString n).toList) := by
    apply String.toList_inj.mp
    simp
  rw [whole, serialOf, Option.bind_some, Text.splitOnce_ofList isStem.2, Option.map_some,
    String.ofList_toList, String.ofList_toList, serialIn, if_neg isStem.1]

theorem serialOf_actionId (n : ℕ) (token : String) :
    serialOf (some (ActionSigner.actionId n token)) = some (toString n) := by
  have whole : ActionSigner.actionId n token =
      String.ofList ('a' :: (toString n).toList ++ '-' :: token.toList) := by
    apply String.toList_inj.mp
    simp [ActionSigner.actionId]
  have first : '-' ∉ 'a' :: (toString n).toList := by
    rw [List.mem_cons, not_or]
    refine ⟨by decide, ?_⟩
    intro member
    cases Text.isDigit_of_mem_toString member
  rw [whole, serialOf, Option.bind_some, Text.splitOnce_ofList first, Option.map_some, serialIn,
    String.toList_ofList, if_pos List.head?_cons, List.tail_cons, String.ofList_toList]

theorem isSendButton_stem {stem : String} (isStem : IsStem stem) (n : ℕ)
    (comp : List (String × Option Value)) :
    isSendButton (Record.object (("id", str (stem ++ "-" ++ toString n)) :: comp)) = false := by
  have other : Text.startsWith (stem ++ "-" ++ toString n) "a" = false := by
    rw [Text.startsWith, String.toList_append, String.toList_append]
    cases letters : stem.toList with
    | nil => rfl
    | cons c rest =>
      have differs : c ≠ 'a' := fun same => isStem.1 (by rw [letters, same]; rfl)
      have first : ('a' == c) = false := beq_false_of_ne (Ne.symm differs)
      simp only [show "a".toList = ['a'] from rfl, List.cons_append, List.isPrefixOf_cons_cons,
        first, Bool.false_and]
  rw [isSendButton, idOf_object, Option.any_some, other, Bool.false_and]

/-! ## The open ids of a card -/

/-- The components so far are trees below the open ids, have numbers up to the
counter, and hold the buttons of the messages told. -/
structure Card.Open (env : Env) (card : Card) (told : List String)
    (roots : Multiset (Option String)) : Prop where
  forest : Forest idOf childrenOf card.flat roots
  numbered : ∀ comp ∈ card.flat, ∃ k ≤ card.n, serialOf (idOf comp) = some (toString k)
  buttons : Buttons env told card.flat

section Walk

variable {env : Env} {card : Card} {told : List String} {roots : Multiset (Option String)}
  {id : String} {comp : List (String × Option Value)}

theorem Card.Open.start (env : Env) : Card.Open env ⟨[], 0, 0⟩ [] 0 where
  forest := .nil
  numbered _ member := by cases member
  buttons := .nil

theorem Card.Open.later (isOpen : card.Open env told roots) {n : ℕ} (more : card.n ≤ n)
    (forms : ℕ) : Card.Open env ⟨card.flat, n, forms⟩ told roots where
  forest := isOpen.forest
  numbered comp member := by
    obtain ⟨k, small, serial⟩ := isOpen.numbered comp member
    exact ⟨k, Nat.le_trans small more, serial⟩
  buttons := isOpen.buttons

/-- A component with a new number takes its children and is open itself. -/
theorem Card.Open.push {comp : Value} {more : List String}
    (isOpen : card.Open env told (roots + ↑(childrenOf comp)))
    (serial : serialOf (idOf comp) = some (toString (card.n + 1)))
    (carried : Buttons env more [comp]) :
    Card.Open env ⟨card.flat ++ [comp], card.n + 1, card.forms⟩ (told ++ more)
      (roots + {idOf comp}) where
  forest := by
    apply Forest.snoc isOpen.forest
    intro member
    obtain ⟨old, listed, same⟩ := List.mem_map.mp member
    obtain ⟨k, small, earlier⟩ := isOpen.numbered old listed
    rw [same, serial] at earlier
    have number := Text.toString_inj (Option.some.inj earlier)
    omega
  numbered other member := by
    rcases List.mem_append.mp member with earlier | added
    · obtain ⟨k, small, serial⟩ := isOpen.numbered other earlier
      exact ⟨k, Nat.le_succ_of_le small, serial⟩
    · cases List.mem_singleton.mp added
      exact ⟨card.n + 1, Nat.le_refl _, serial⟩
  buttons := isOpen.buttons.append carried

theorem coe_map_some (ids : List String) :
    (↑(ids.map some) : Multiset (Option String)) = refs ids := by
  induction ids with
  | nil => rfl
  | cons id rest ih =>
    rw [refs, total_cons, List.map_cons, ← Multiset.cons_coe, ih, one, Multiset.singleton_add]

@[simp]
theorem refs_singleton (id : String) : refs [id] = one id := by
  simp [refs]

/-! ## Single components -/

theorem childrenOf_object {ids : List String}
    (named : Record.find comp "children" = idList ids) :
    childrenOf (Record.object (("id", str id) :: comp)) = ids.map some := by
  simp [childrenOf, named, idList, Value.asArray]

theorem childrenOf_leaf (leaf : Record.find comp "children" = none) :
    childrenOf (Record.object (("id", str id) :: comp)) = [] := by
  simp [childrenOf, leaf]

theorem Card.Open.add {ids more : List String} (isOpen : card.Open env told (roots + refs ids))
    (named : childrenOf (Record.object (("id", str id) :: comp)) = ids.map some)
    (serial : serialOf (some id) = some (toString (card.n + 1)))
    (carried : Buttons env more [Record.object (("id", str id) :: comp)]) :
    Card.Open env ⟨card.flat ++ [Record.object (("id", str id) :: comp)], card.n + 1, card.forms⟩
      (told ++ more) (roots + one id) := by
  rw [← coe_map_some, ← named] at isOpen
  have pushed := isOpen.push (by rw [idOf_object]; exact serial) carried
  rw [idOf_object] at pushed
  exact pushed

theorem Card.Open.addLeaf {more : List String} (isOpen : card.Open env told (roots + 0))
    (leaf : Record.find comp "children" = none)
    (serial : serialOf (some id) = some (toString (card.n + 1)))
    (carried : Buttons env more [Record.object (("id", str id) :: comp)]) :
    Card.Open env ⟨card.flat ++ [Record.object (("id", str id) :: comp)], card.n + 1, card.forms⟩
      (told ++ more) (roots + one id) :=
  @Card.Open.add _ _ _ _ _ _ [] _ isOpen (childrenOf_leaf leaf) serial carried

/-- The program uses up the ids it takes, leaves open those it gives, and adds the
buttons of the messages it tells. -/
abbrev Opens {α : Type} (env : Env) (program : Build α) (takes : Multiset (Option String))
    (told : List String) (gives : α → Multiset (Option String)) : Prop :=
  Trades (Card.Open env) program takes told gives

theorem trades_addParent {stem : String} {ids : List String}
    (isStem : IsStem stem) (named : Record.find comp "children" = idList ids) :
    Opens env (add stem comp) (refs ids) [] one := by
  intro card told frame isOpen
  exact isOpen.add (childrenOf_object named) (serialOf_stem isStem _)
    (buttons_other (isSendButton_stem isStem _ comp))

theorem trades_addLeaf {stem : String} (isStem : IsStem stem)
    (leaf : Record.find comp "children" = none) : Opens env (add stem comp) 0 [] one := by
  intro card told frame isOpen
  exact isOpen.addLeaf leaf (serialOf_stem isStem _)
    (buttons_other (isSendButton_stem isStem _ comp))

theorem trades_addSigned {token : String} (leaf : Record.find comp "children" = none)
    (carried : ∀ n, Buttons env told
      [Record.object (("id", str (ActionSigner.actionId n token)) :: comp)]) :
    Opens env (addSigned token comp) 0 told one := by
  intro card log frame isOpen
  exact isOpen.addLeaf leaf (serialOf_actionId _ token) (carried _)

theorem trades_text (content hint : String) : Opens env (text content hint) 0 [] one :=
  trades_addLeaf (by decide) rfl

theorem trades_icon (name color : String) : Opens env (icon name color) 0 [] one :=
  trades_addLeaf (by decide) rfl

theorem trades_column (ids : List String) : Opens env (column ids) (refs ids) [] one :=
  trades_addParent (by decide) rfl

theorem trades_row (ids : List String) : Opens env (row ids) (refs ids) [] one :=
  trades_addParent (by decide) rfl

/-- A program that adds one component, as one that answers with a list. -/
theorem trades_single {program : Build String} {takes : Multiset (Option String)}
    (single : Opens env program takes told one) :
    Opens env (do return [← program]) takes told refs :=
  single.map fun id => (refs_singleton id).symm

theorem trades_optionally {α : Type} (value : Option α) {make : α → Build String}
    (each : ∀ a, Opens env (make a) 0 [] one) :
    Opens env (optionally value make) 0 [] refs := by
  cases value with
  | none => exact .answer rfl
  | some a => exact trades_single (each a)

/-- A line of text that may be missing. -/
theorem trades_line (value : Option String) (hint : String) :
    Opens env (optionally value fun content => text content hint) 0 [] refs :=
  trades_optionally value fun content => trades_text content hint

theorem refs_flatten_pairs (ids : List String) : total refs (pairs ids) = refs ids := by
  induction ids using pairs.induct with
  | case1 => rfl
  | case2 a => simp [pairs, refs]
  | case3 a b rest ih =>
    rw [pairs, total_cons, ih]
    simp only [refs, total_cons, total_nil]
    abel

theorem trades_buttonRows (ids : List String) :
    Opens env (buttonRows ids) (refs ids) [] refs :=
  .gather (fun chunk => trades_single (trades_row chunk)) (refs_flatten_pairs ids) (by simp)

/-! ## Controls -/

theorem find_button (label variant : String) (action : Option Value) :
    Record.find (button label variant action) "children" = none := by
  simp [button]

theorem trades_sendButton (label message variant : String) :
    Opens env (sendButton env label message variant) 0 [message] fun id => refs id.toList := by
  unfold sendButton
  split
  · rename_i unsigned
    intro card told frame isOpen
    refine ⟨isOpen.forest, isOpen.numbered, ?_⟩
    have told_too := isOpen.buttons.append (buttons_unsigned unsigned)
    rwa [List.append_nil] at told_too
  · rename_i token signed
    have added := trades_addSigned (find_button _ _ _) (buttons_signed signed label variant)
    exact added.map fun id => (refs_singleton id).symm

/-- The number of a dropped button is not used again. -/
theorem trades_docButton (caption label skill id url : String) :
    Opens env (docButton env caption label skill id url) 0 [] fun id => refs id.toList := by
  intro card told frame isOpen
  unfold docButton
  split
  · rw [List.append_nil]
    exact isOpen.later (Nat.le_succ _) _
  · rename_i signed signing
    obtain ⟨token, _, rfl⟩ := Option.map_eq_some_iff.mp signing
    have other := isSendButton_event caption "outlined" "open_doc" [] (card.n + 1) token
    show Card.Open env _ _ (frame + refs [ActionSigner.actionId (card.n + 1) token])
    rw [refs_singleton]
    exact isOpen.addLeaf (find_button _ _ _) (serialOf_actionId _ token) (buttons_other other)

theorem trades_actionButton (label : String) (a : Action) (variant : String) :
    Opens env (actionButton env label a variant) 0 (actionMessages (some a))
      fun id => refs id.toList := by
  cases a with
  | sendMessage message => exact trades_sendButton label message variant
  | openUrl url =>
    rw [actionButton, urlButton]
    split
    · exact .answer rfl
    · exact (trades_addLeaf (by decide) (find_button _ _ _)).map fun id =>
        (refs_singleton id).symm

theorem trades_sendButtons (requests : List (String × String)) :
    Opens env (sendButtons env requests) 0 (requests.map Prod.snd) refs :=
  .gather (fun request => (trades_sendButton request.1 request.2 "stroked").map fun _ => rfl)
    (by simp [total]) List.map_eq_flatMap.symm

/-- Buttons are put into rows. -/
theorem trades_sendRows {α : Type} (requests : List (String × String)) {f : List String → α}
    {takes : Multiset (Option String)} {gives : α → Multiset (Option String)}
    (same : ∀ rows, refs rows + takes = gives (f rows)) :
    Opens env (do
      let btns ← sendButtons env requests
      let rows ← buttonRows btns
      return f rows) takes (requests.map Prod.snd) gives :=
  (trades_sendButtons requests).last fun btns =>
    (trades_buttonRows btns).bind takes rfl fun rows => .answer (same rows)

/-! ## Lists and trees -/

theorem trades_orText (made : Option String) (content hint : String) :
    Opens env (orText made content hint) (refs made.toList) [] one := by
  cases made with
  | none => exact trades_text content hint
  | some id => exact .answer (refs_singleton id)

theorem trades_itemControl (it : ListItem) :
    Opens env (itemControl env it) 0 (actionMessages it.action)
      fun made => refs made.1.toList + refs made.2.toList := by
  unfold itemControl
  cases it.action with
  | none => exact .answer rfl
  | some a =>
    cases it.actionLabel with
    | none => exact (trades_actionButton it.label a "basic").map fun id => by simp
    | some caption => exact (trades_actionButton caption a "stroked").map fun id => by simp

theorem trades_listItem (it : ListItem) :
    Opens env (listItem env it) 0 (actionMessages it.action) one := by
  apply (trades_itemControl it).last
  rintro ⟨head, tail⟩
  apply (trades_orText head it.label "body1").bind (refs tail.toList) (by simp)
  intro first
  apply (trades_line _ "caption").seq
  intro detail
  apply (trades_column (first :: detail)).bind (refs tail.toList)
  · simp only [refs, total_cons]
    abel
  intro col
  cases tail with
  | none => exact .answer (by simp)
  | some btn =>
    have both : one col + refs [btn] = refs [col, btn] := by simp [refs]
    rw [Option.toList_some, both]
    exact trades_row [col, btn]

theorem trades_nodeAction (caption : String) (action : Option Action) :
    Opens env (nodeAction env caption action) 0 (actionMessages action)
      fun id => refs id.toList := by
  cases action with
  | none => exact .answer rfl
  | some a => exact trades_actionButton caption a "basic"

theorem chipMessages_eq (chips : List Chip) :
    chipMessages chips = (chips.map fun ch => (ch.label, ch.message)).map Prod.snd := by
  simp [chipMessages]

mutual

theorem trades_treeNode (node : TreeNode) :
    Opens env (treeNode env node) 0 (nodeMessages node) one := by
  obtain ⟨label, counts, gap, expanded, chips, action, actionLabel, children⟩ := node
  rw [treeNode, nodeMessages]
  split
  · apply (trades_nodeAction _ _).last
    intro made
    rw [add_zero]
    exact trades_orText made _ "body2"
  · rw [chipMessages_eq]
    apply (trades_sendButtons _).tell
    intro btns
    apply (trades_buttonRows btns).bind 0 rfl
    intro rows
    apply (trades_nodeAction _ action).tell
    intro control
    apply (trades_treeNodes children).last
    intro below
    have inner : refs below + (refs control.toList + (refs rows + 0)) =
        refs (rows ++ control.toList ++ below) := by
      simp only [refs, total_append]
      abel
    rw [inner, nodePanel]
    split
    · rename_i empty
      rw [List.isEmpty_iff.mp empty]
      exact trades_text _ "body2"
    · exact trades_addParent (by decide) rfl

theorem trades_treeNodes (nodes : List TreeNode) :
    Opens env (treeNodes env nodes) 0 (nodesMessages nodes) refs := by
  cases nodes with
  | nil => exact .answer rfl
  | cons node rest =>
    rw [treeNodes, nodesMessages]
    apply (trades_treeNode node).tell
    intro id
    apply (trades_treeNodes rest).done
    intro others
    simp only [refs, total_cons]
    abel

end

/-! ## Forms -/

theorem trades_fieldInputs (ns : String) (fields : List FormField) :
    Opens env (fieldInputs ns fields) 0 [] refs := by
  have input (f : FormField) :
      Opens env (add "in" (fieldInput (ns ++ "/" ++ f.name) f)) 0 [] one := by
    apply trades_addLeaf (by decide)
    unfold fieldInput
    split <;> rfl
  exact .gather (fun f => trades_single (input f)) (by simp [total]) (by simp)

/-- Inputs are pushed one by one, and nothing else is. -/
theorem fieldInputs_pushes (ns : String) (fields : List FormField) (card : Card) :
    ∃ comps, (fieldInputs ns fields card).2.flat = card.flat ++ comps ∧
      comps.length = (fieldInputs ns fields card).1.length ∧
      card.n ≤ (fieldInputs ns fields card).2.n := by
  induction fields generalizing card with
  | nil => exact ⟨[], (List.append_nil _).symm, rfl, Nat.le_refl _⟩
  | cons f rest ih =>
    let comp := Record.object (("id", str ("in-" ++ toString (card.n + 1))) ::
      fieldInput (ns ++ "/" ++ f.name) f)
    obtain ⟨comps, pushed, counted, later⟩ := ih ⟨card.flat ++ [comp], card.n + 1, card.forms⟩
    refine ⟨comp :: comps, ?_, ?_, Nat.le_of_succ_le later⟩
    · rw [List.append_cons]
      exact pushed
    · rw [List.length_cons, counted]
      rfl

/-- When the inputs are taken back, the card is as before but for its counters. -/
theorem takeBack_fieldInputs {α : Type} (ns : String) (fields : List FormField) (next : Build α)
    (card : Card) :
    ∃ n forms, card.n ≤ n ∧
      (do
        let ids ← fieldInputs ns fields
        takeBack ids.length
        next) card = next ⟨card.flat, n, forms⟩ := by
  obtain ⟨comps, pushed, counted, later⟩ := fieldInputs_pushes ns fields card
  refine ⟨_, (fieldInputs ns fields card).2.forms, later, ?_⟩
  have restored : takeBack (fieldInputs ns fields card).1.length (fieldInputs ns fields card).2 =
      ((), { (fieldInputs ns fields card).2 with flat := card.flat }) := by
    simp [takeBack, pushed, ← counted]
  exact congrArg (fun made => next made.2) restored

theorem trades_templateForm (title : String) (fields : List FormField) (template : String)
    (previewLabel : Option String) :
    Opens env (templateForm env title fields template previewLabel) 0
      (templateMessages fields template) refs := by
  apply (trades_line _ "subtitle2").seq
  intro heading
  unfold templateMessages
  cases onlySelect fields template with
  | some f => exact trades_sendRows _ fun rows => by simp [add_comm]
  | none =>
    apply (trades_optionally _ fun _ => trades_text _ "body2").done
    simp [add_comm]

theorem trades_fieldForm (inputs : env.opts.formFields = true) (fields : List FormField)
    (template submitLabel : String) :
    Opens env (fieldForm env fields template submitLabel) 0 (formMessages env fields template)
      refs := by
  have counted : Opens env nextForm 0 [] fun _ => 0 := by
    intro card told frame isOpen
    rw [List.append_nil]
    exact isOpen.later (Nat.le_refl _) _
  apply counted.seq
  intro ns
  rw [add_zero, formMessages, inputs, Bool.true_and]
  cases signed : env.signer.signTemplate template (fields.map fun f => (f.name, f.label)) with
  | none =>
    dsimp only
    intro card log frame isOpen
    obtain ⟨n, forms, later, same⟩ := takeBack_fieldInputs ns fields _ card
    rw [same]
    exact trades_templateForm "" fields template none _ log frame (isOpen.later later forms)
  | some token =>
    dsimp only
    apply (trades_fieldInputs ns fields).seq
    intro ids
    refine Trades.done (trades_addSigned (find_button _ _ _) ?_) (by simp [add_comm])
    exact fun n => buttons_other (isSendButton_event _ _ "submit" _ n token)

theorem formMessages_of_plain (plain : ¬env.opts.formFields = true) (fields : List FormField)
    (template : String) : formMessages env fields template = templateMessages fields template := by
  simp [formMessages, plain]

theorem trades_groupForm (submitLabel : String) (g : FormGroup) :
    Opens env (groupForm env submitLabel g) 0 (formMessages env g.fields g.sendTemplate) refs := by
  unfold groupForm
  split
  case isTrue inputs => exact trades_fieldForm inputs _ _ _
  case isFalse plain =>
    rw [formMessages_of_plain plain]
    exact trades_templateForm _ _ _ _

theorem trades_formGroup (submitLabel : String) (note : Option String) (g : FormGroup) (k : ℕ) :
    Opens env (formGroup env submitLabel note g k) 0 (formMessages env g.fields g.sendTemplate)
      one := by
  apply (trades_groupForm submitLabel g).last
  intro ids
  apply (trades_line _ "caption").seq
  intro remark
  have both : refs remark + (refs ids + 0) = refs (ids ++ remark) := by simp [add_comm]
  rw [both]
  exact trades_addParent (by decide) rfl

theorem trades_formGroups (title : Option String) (groups : List FormGroup) (submitLabel : String)
    (note : Option String) :
    Opens env (formGroups env title groups submitLabel note) 0
      (groups.flatMap fun g => formMessages env g.fields g.sendTemplate) refs := by
  apply (trades_line _ "subtitle2").seq
  intro heading
  have unnumbered : (groups.zipIdx.flatMap fun numbered =>
      formMessages env numbered.1.fields numbered.1.sendTemplate) =
        groups.flatMap fun g => formMessages env g.fields g.sendTemplate := by
    nth_rewrite 2 [← List.zipIdx_map_fst 0 groups]
    rw [List.flatMap_map]
  have each (group : FormGroup × ℕ) : Opens env (do
      return [← formGroup env submitLabel note group.1 group.2]) 0 _ refs :=
    trades_single (trades_formGroup submitLabel note group.1 group.2)
  have free : total (fun _ => 0) groups.zipIdx = (0 : Multiset (Option String)) := by
    simp [total]
  exact (Trades.gather each free unnumbered).done (by simp [add_comm])

/-! ## Components -/

/-- An icon and a text beside it. -/
theorem trades_iconRow (name color content hint : String) :
    Opens env (do
      let iconId ← icon name color
      let textId ← text content hint
      row [iconId, textId]) 0 [] one := by
  apply (trades_icon name color).seq
  intro iconId
  apply (trades_text content hint).seq
  intro textId
  have both : one textId + (one iconId + 0) = refs [iconId, textId] := by simp [refs, add_comm]
  rw [both]
  exact trades_row [iconId, textId]

/-- A component leaves open the ids it answers with, and tells its messages. -/
theorem trades_component (c : Component) :
    Opens env (component env c) 0 (componentMessages env c) refs := by
  induction c with
  | list title items =>
    apply (trades_line _ "subtitle1").seq
    intro heading
    have cells : Opens env (gather (fun it => do return [← listItem env it]) items) 0 _ refs :=
      .gather (fun it => trades_single (trades_listItem it)) (by simp [total]) rfl
    exact cells.done (by simp [add_comm])
  | table title columns rows | keyValue title kvs =>
    exact trades_single (trades_addLeaf (by decide) rfl)
  | chips prompt chips =>
    apply (trades_line _ "body2").seq
    intro heading
    rw [componentMessages, chipMessages_eq]
    exact trades_sendRows _ (by simp [add_comm])
  | tree title nodes gapsToggle =>
    apply (trades_line _ "subtitle1").seq
    intro heading
    exact (trades_treeNodes nodes).done (by simp [add_comm])
  | notice tone title content => cases tone <;> exact trades_single (trades_iconRow _ _ _ _)
  | progress title steps fraction =>
    apply (trades_line _ "subtitle2").seq
    intro heading
    apply (trades_addLeaf (by decide) rfl).seq
    intro bar
    have rows : Opens env (gather (fun s => do return [← progressStep s]) steps) 0 [] refs :=
      .gather (fun s => trades_single (trades_iconRow _ _ _ _)) (by simp [total]) (by simp)
    apply rows.done
    intro ids
    simp only [refs, total_append, total_cons, total_nil]
    abel
  | selection prompt options tool argsKey style submit =>
    cases submit with
    | none => exact .answer rfl
    | some submit =>
      apply (trades_text prompt "body2").seq
      intro heading
      exact trades_sendRows _ (by simp [add_comm])
  | form title fields submitLabel tool sendTemplate previewLabel =>
    cases sendTemplate with
    | none => exact .answer rfl
    | some template =>
      rw [component, componentMessages]
      split
      case isTrue inputs =>
        apply (trades_line _ "subtitle2").seq
        intro heading
        exact (trades_fieldForm inputs fields template submitLabel).done (by simp [add_comm])
      case isFalse plain =>
        rw [formMessages_of_plain plain]
        exact trades_templateForm title fields template previewLabel
  | header title context stamp => exact trades_line _ "caption"
  | formGroups title groups submitLabel note =>
    exact trades_formGroups title groups submitLabel note
  | button label tool args action resource primary =>
    cases action with
    | none => exact .answer rfl
    | some a => exact (trades_actionButton label a "flat").map fun _ => rfl
  | embed url title height fallback ih => exact ih
  | text value pills => exact trades_single (trades_text value "body1")
  | narration content => exact trades_single (trades_text content "caption")
  | dashboard | report | diff | sources => exact .answer rfl

/-! ## The whole card -/

/-- The ids a layout has open. -/
def Layout.ids (layout : Layout) : Multiset (Option String) :=
  refs layout.rootChildren + refs layout.actionBtnIds + refs layout.sourceBtnIds

theorem trades_componentIds (c : Value) :
    Opens env (componentIds env c) 0 (parsedMessages env c) refs := by
  unfold componentIds parsedMessages
  cases parse env c with
  | none => exact .answer rfl
  | some comp => exact trades_component comp

theorem trades_askButton (label : String) (question : Option String) :
    Opens env (askButton env label question) 0 question.toList fun id => refs id.toList := by
  cases question with
  | none => exact .answer rfl
  | some q => exact trades_sendButton label q "flat"

theorem trades_orButton (made : Option String) (label tool : String) :
    Opens env (orButton made label tool) (refs made.toList) [] one := by
  cases made with
  | none => exact trades_addLeaf (by decide) (find_button _ _ _)
  | some id => exact .answer (refs_singleton id)

theorem trades_sourceButtons (items : List Value) (ids : List String) :
    Opens env (sourceButtons env items ids) (refs ids) [] refs := by
  induction items generalizing ids with
  | nil => exact .answer rfl
  | cons it rest ih =>
    rw [sourceButtons]
    split
    · exact ih ids
    · apply (trades_docButton _ _ _ _ _).seq
      intro made
      rw [add_comm, ← total_append]
      split
      · exact .answer rfl
      · exact ih _

section Place

variable (layout : Layout) (c : Value)

theorem trades_placeReport : Opens env (placeReport layout c) layout.ids [] Layout.ids := by
  have placed (id : String) : one id + layout.ids =
      Layout.ids { layout with rootChildren := layout.rootChildren ++ [id] } := by
    simp only [Layout.ids, total_append, refs_singleton, refs]
    abel
  unfold placeReport
  split
  · exact (trades_addLeaf (by decide) rfl).done placed
  · exact (trades_addLeaf (by decide) rfl).done placed
  · exact .answer rfl

theorem trades_placeButton :
    Opens env (placeButton env layout c) layout.ids (buttonMessages env c) Layout.ids := by
  have placed (ids : List String) : refs ids + layout.ids =
      Layout.ids { layout with actionBtnIds := layout.actionBtnIds ++ ids } := by
    simp only [Layout.ids, refs, total_append]
    abel
  unfold placeButton buttonMessages
  split
  · exact (trades_componentIds c).done placed
  · apply (trades_askButton _ _).last
    intro made
    apply (trades_orButton made _ _).bind layout.ids rfl
    intro id
    apply Trades.answer
    rw [← placed, refs_singleton]

theorem trades_placeSources :
    Opens env (placeSources env layout c) layout.ids [] Layout.ids := by
  unfold placeSources
  split
  · apply (trades_sourceButtons _ _).bind
      (refs layout.rootChildren + refs layout.actionBtnIds) (add_comm _ _)
    intro ids
    exact .answer (add_comm _ _)
  · exact .answer rfl

theorem trades_placeComponent :
    Opens env (placeComponent env layout c) layout.ids (parsedMessages env c) Layout.ids := by
  apply (trades_componentIds c).done
  intro ids
  simp only [Layout.ids, refs, total_append]
  abel

theorem trades_placeEmbed :
    Opens env (placeEmbed env layout c) layout.ids (embedMessages env c) Layout.ids := by
  have placed : Opens env _ _ _ _ := trades_placeComponent layout c
  unfold placeEmbed embedMessages
  cases parse env c with
  | none => exact placed
  | some comp =>
    cases comp with
    | embed url title height fallback =>
      dsimp only
      split
      · exact .answer rfl
      · exact placed
    | _ => exact placed

theorem trades_place :
    Opens env (place env layout c) layout.ids (placedMessages env c) Layout.ids := by
  unfold place placedMessages
  dsimp only
  split_ifs
  · exact .answer rfl
  · exact trades_placeReport layout c
  · exact trades_placeButton layout c
  · exact trades_placeSources layout c
  · exact trades_placeEmbed layout c
  · exact trades_placeComponent layout c

end Place

theorem trades_placeAll (components : List Value) :
    Opens env (placeAll env components) 0 (components.flatMap (placedMessages env))
      fun layout => refs layout.rootChildren := by
  have placed : Opens env (components.foldlM (place env) ⟨[], [], [], []⟩) 0 _ Layout.ids :=
    .foldlM trades_place components ⟨[], [], [], []⟩
  apply placed.last
  intro layout
  apply (trades_buttonRows layout.actionBtnIds).bind
    (refs layout.rootChildren + refs layout.sourceBtnIds)
  · rw [Layout.ids]
    abel
  intro actionRows
  apply (trades_buttonRows layout.sourceBtnIds).bind
    (refs layout.rootChildren + refs actionRows) (by abel)
  intro sourceRows
  apply Trades.answer
  simp only [refs, total_append]
  abel

/-- An id without a number is no id of the builder. -/
theorem Card.Open.fresh (isOpen : card.Open env told roots)
    (plain : ∀ k : ℕ, serialOf (some id) ≠ some (toString k)) : some id ∉ card.flat.map idOf := by
  intro member
  obtain ⟨comp, listed, same⟩ := List.mem_map.mp member
  obtain ⟨k, _, serial⟩ := isOpen.numbered comp listed
  exact plain k (same ▸ serial)

/-- The root column takes every open id, and the card takes the root column. -/
theorem forest_card {ids : List String} (isOpen : card.Open env told (refs ids)) :
    Forest idOf childrenOf (card.flat ++ [rootColumn ids, rootCard]) {some "root"} := by
  have noColumn : some "root-col" ∉ card.flat.map idOf := by
    apply isOpen.fresh
    intro k same
    have serial : serialOf (some "root-col") = some "col" := by decide +kernel
    rw [serial] at same
    have read := Text.parseUnsigned_toString (Nat.le_refl k)
    rw [← Option.some.inj same] at read
    cases read
  have noRoot : some "root" ∉ card.flat.map idOf := by
    apply isOpen.fresh
    intro k same
    have serial : serialOf (some "root") = none := by decide +kernel
    rw [serial] at same
    cases same
  have column : Forest idOf childrenOf (card.flat ++ [rootColumn ids]) {some "root-col"} := by
    refine Forest.close (idOf_object _ _) ?_ noColumn
    have taken : childrenOf (rootColumn ids) = ids.map some := childrenOf_object rfl
    rw [taken, coe_map_some]
    exact isOpen.forest
  rw [List.append_cons]
  apply Forest.close (idOf_object _ _)
  · exact column
  · rw [List.map_append, List.mem_append, not_or]
    refine ⟨noRoot, ?_⟩
    rw [List.map_singleton, rootColumn, idOf_object]
    decide

end Walk

theorem forest_embedCanvas (url title : String) (height : UInt32) (autoOpen : Bool) :
    Forest idOf childrenOf (embedCanvas url title height autoOpen) {some "root"} := by
  have frame : Forest idOf childrenOf ([] ++ [canvasFrame url height]) {some "frame"} := by
    refine Forest.close (idOf_object _ _) ?_ List.not_mem_nil
    have leaf : childrenOf (canvasFrame url height) = [] := childrenOf_leaf rfl
    rw [leaf]
    exact .nil
  have fresh : some "root" ∉ [canvasFrame url height].map idOf := by
    rw [List.map_singleton, canvasFrame, idOf_object]
    decide
  show Forest idOf childrenOf ([canvasFrame url height] ++ [canvasRoot title autoOpen]) _
  refine Forest.close (idOf_object _ _) ?_ fresh
  exact frame

/-- The component lists of the surfaces that messages create. -/
def surfacesOf (messages : List Value) : List (List Value) :=
  messages.filterMap fun message =>
    ((message.get "updateComponents").bind (·.get "components")).bind Value.asArray

theorem surfacesOf_surfacePair (uuid : String) (flat : List Value) :
    surfacesOf (surfacePair uuid flat) = [flat] := by
  simp [surfacesOf, surfacePair, Value.asArray]

theorem forest_surfaces (env : Env) (components : List Value) :
    ∀ flat ∈ surfaces env components, Forest idOf childrenOf flat {some "root"} := by
  have isOpen := trades_placeAll components ⟨[], 0, 0⟩ [] 0 (Card.Open.start env)
  rw [zero_add] at isOpen
  intro flat member
  rw [surfaces] at member
  rcases List.mem_append.mp member with own | canvas
  · split at own
    · cases own
    · cases List.mem_singleton.mp own
      exact forest_card isOpen
  · obtain ⟨page, _, rfl⟩ := List.mem_map.mp canvas
    exact forest_embedCanvas _ _ _ _

/-- Every surface of a tool result is a tree below its root, whatever the result
holds and whatever could be signed. -/
theorem card_surfaces_are_trees (env : Env) (uuids : ℕ → String) (result : Value)
    (messages : List Value) (emitted : cardMessages env uuids result = some messages) :
    ∀ flat ∈ surfacesOf messages, IsTree idOf childrenOf flat (some "root") := by
  intro flat member
  obtain ⟨components, _, sent⟩ := Option.bind_eq_some_iff.mp emitted
  dsimp only at sent
  split at sent
  · cases sent
  · cases sent
    obtain ⟨message, listed, carried⟩ := List.mem_filterMap.mp member
    obtain ⟨⟨other, k⟩, placed, inPair⟩ := List.mem_flatMap.mp listed
    have only : flat ∈ surfacesOf (surfacePair (uuids k) other) :=
      List.mem_filterMap.mpr ⟨message, inPair, carried⟩
    rw [surfacesOf_surfacePair] at only
    cases List.mem_singleton.mp only
    have among : flat ∈ surfaces env components :=
      (List.mem_zipIdx' placed).2 ▸ List.getElem_mem _
    exact (forest_surfaces env components flat among).isTree

/-! ### A form that cannot be signed -/

/-- Nothing can be signed before the epoch. -/
def unsignedEnv : Env where
  signer := ⟨.ofHmac fun _ _ => Vector.replicate 32 7, sampleCodec, none, sampleRing⟩
  opts := ⟨false, false, true⟩
  codec := ⟨fun _ => .error "unused", fun _ _ => .null, fun _ => true⟩
  fromValue := Component.fromValue
  docCanvas := false

def formResult : Value :=
  Record.object [("surface", some (Record.object [("components", some (.array [
    Record.object [("kind", str "form"), ("title", str "Owner"), ("submit_label", str "Send"),
      ("tool", str "ask"), ("send_template", str "Who owns it?"),
      ("fields", some (.array [Record.object [("name", str "note"), ("label", str "Note"),
        ("kind", str "string")]]))]]))]))]

/-- Its title stands alone on the card, without the input. -/
theorem unsigned_form_is_a_tree :
    ∃ messages, cardMessages unsignedEnv (fun _ => "u") formResult = some messages ∧
      (surfacesOf messages).map (·.map idOf) =
        [[some "t-1", some "root-col", some "root"]] ∧
      ∀ flat ∈ surfacesOf messages, IsTree idOf childrenOf flat (some "root") := by
  have shown : ((cardMessages unsignedEnv (fun _ => "u") formResult).map fun messages =>
      (surfacesOf messages).map (·.map idOf)) =
        some [[some "t-1", some "root-col", some "root"]] := by
    decide +kernel
  obtain ⟨messages, emitted, ids⟩ := Option.map_eq_some_iff.mp shown
  exact ⟨messages, emitted, ids, card_surfaces_are_trees _ _ _ messages emitted⟩

end Triton.A2ui.Ge
