/-
# What leaves a tool result

Extraction decodes a surface, checks the structure of its components and drops
every link that is not allowed. The relation `Becomes` says, independently of
how the sanitizer computes it, what may happen to a component on the way: a
refused link is cleared, a button that is only a refused link disappears, a
refused page gives way to its fallback, and nothing else changes.
-/

import Mathlib.Data.List.ReduceOption
import Triton.A2ui.V09

namespace Triton.A2ui

open Triton.Lib

/-! ### Where links hide -/

def Action.links : Action → List String
  | .openUrl url => [url]
  | .sendMessage _ => []

def linksOf (action : Option Action) : List String := action.elim [] Action.links

def TreeNode.links : TreeNode → List String
  | .mk _ _ _ _ _ action _ children => linksOf action ++ children.flatMap TreeNode.links

/-- Every link of a component, at any depth and inside fallbacks. -/
def Component.links : Component → List String
  | .button _ _ _ action _ _ => linksOf action
  | .list _ items => items.flatMap fun item => linksOf item.action
  | .table _ _ rows => rows.flatMap fun row => linksOf row.action
  | .tree _ nodes _ => nodes.flatMap TreeNode.links
  | .embed url _ _ fallback => url :: fallback.links
  | _ => []

variable (codec : Codec)

/-- All the links pass the link rule. -/
def Allowed (urls : List String) : Prop := ∀ url ∈ urls, codec.isAllowedLink url = true

variable {codec}

theorem allowed_append {first second : List String} :
    Allowed codec (first ++ second) ↔ Allowed codec first ∧ Allowed codec second :=
  List.forall_mem_append

theorem allowed_flatMap {α : Type} {items : List α} {links : α → List String} :
    Allowed codec (items.flatMap links) ↔ ∀ item ∈ items, Allowed codec (links item) :=
  List.forall_mem_flatMap

theorem allowed_flatMap_map {α : Type} {items : List α} {links : α → List String} {clean : α → α}
    (cleaned : ∀ item, Allowed codec (links (clean item))) :
    Allowed codec ((items.map clean).flatMap links) := by
  rw [allowed_flatMap, List.forall_mem_map]
  exact fun item _ => cleaned item

/-- What leaves items with allowed links alone leaves a list of them alone. -/
theorem map_of_allowed {α : Type} {items : List α} {links : α → List String} {clean : α → α}
    (fixes : ∀ item ∈ items, Allowed codec (links item) → clean item = item)
    (allowed : Allowed codec (items.flatMap links)) : items.map clean = items := by
  rw [allowed_flatMap] at allowed
  calc
    items.map clean = items.map id :=
      List.map_congr_left fun item member => fixes item member (allowed item member)
    _ = items := List.map_id items

theorem Action.allowed_links (action : Action) :
    Allowed codec action.links ↔ action.isSafe codec = true := by
  cases action <;> simp [Allowed, links, isSafe]

theorem safe_some (action : Action) :
    safe codec (some action) = if action.isSafe codec then some action else none := by
  rw [safe, Option.filter_some]

theorem allowed_linksOf_safe (action : Option Action) :
    Allowed codec (linksOf (safe codec action)) := by
  cases action with
  | none => simp [safe, linksOf, Allowed]
  | some action =>
    rw [safe_some]
    split
    · rename_i permitted
      exact action.allowed_links.mpr permitted
    · simp [linksOf, Allowed]

theorem safe_of_allowed {action : Option Action} (allowed : Allowed codec (linksOf action)) :
    safe codec action = action := by
  cases action with
  | none => rfl
  | some action =>
    have permitted : action.isSafe codec = true := action.allowed_links.mp allowed
    rw [safe_some, if_pos permitted]

/-! ### The sanitizer leaves allowed links only, and keeps those -/

theorem allowed_links_sanitizeNode (node : TreeNode) :
    Allowed codec (sanitizeNode codec node).links := by
  induction node using TreeNode.links.induct with
  | case1 label counts gap expanded chips action actionLabel children ih =>
    rw [sanitizeNode, TreeNode.links, allowed_append, allowed_flatMap, List.forall_mem_map]
    exact ⟨allowed_linksOf_safe action, ih⟩

theorem sanitizeNode_of_allowed {node : TreeNode} (allowed : Allowed codec node.links) :
    sanitizeNode codec node = node := by
  induction node using TreeNode.links.induct with
  | case1 label counts gap expanded chips action actionLabel children ih =>
    rw [TreeNode.links, allowed_append] at allowed
    rw [sanitizeNode, safe_of_allowed allowed.1, map_of_allowed ih allowed.2]

/-- Whatever is kept holds allowed links only. -/
theorem allowed_links_sanitized {component kept : Component}
    (sanitized : component.sanitized codec = some kept) : Allowed codec kept.links := by
  induction component generalizing kept with
  | button label tool args action resource primary =>
    cases action with
    | none =>
      cases sanitized
      simp [Component.links, linksOf, Allowed]
    | some action =>
      rw [Component.sanitized] at sanitized
      split at sanitized
      · rename_i permitted
        cases sanitized
        exact action.allowed_links.mpr permitted
      · cases sanitized
  | list title items =>
    cases sanitized
    rw [Component.links]
    exact allowed_flatMap_map fun item => allowed_linksOf_safe item.action
  | table title columns rows =>
    cases sanitized
    rw [Component.links]
    exact allowed_flatMap_map fun row => allowed_linksOf_safe row.action
  | tree title nodes gapsToggle =>
    cases sanitized
    rw [Component.links]
    exact allowed_flatMap_map allowed_links_sanitizeNode
  | embed url title height fallback ih =>
    rw [Component.sanitized] at sanitized
    split at sanitized
    · rename_i permitted
      obtain ⟨inner, below, rfl⟩ := Option.map_eq_some_iff.mp sanitized
      exact List.forall_mem_cons.mpr ⟨permitted, ih below⟩
    · exact ih sanitized
  | _ =>
    cases sanitized
    simp [Component.links, Allowed]

/-- A component with allowed links only is left alone. -/
theorem sanitized_of_allowed {component : Component} (allowed : Allowed codec component.links) :
    component.sanitized codec = some component := by
  induction component with
  | button label tool args action resource primary =>
    cases action with
    | none => rfl
    | some action =>
      have permitted : action.isSafe codec = true := action.allowed_links.mp allowed
      rw [Component.sanitized, if_pos permitted]
  | list title items =>
    rw [Component.sanitized, map_of_allowed _ allowed]
    intro item _ permitted
    rw [safe_of_allowed permitted]
  | table title columns rows =>
    rw [Component.sanitized, map_of_allowed _ allowed]
    intro row _ permitted
    rw [safe_of_allowed permitted]
  | tree title nodes gapsToggle =>
    rw [Component.sanitized, map_of_allowed _ allowed]
    intro node _ permitted
    exact sanitizeNode_of_allowed permitted
  | embed url title height fallback ih =>
    obtain ⟨permitted, below⟩ := List.forall_mem_cons.mp allowed
    rw [Component.sanitized, if_pos permitted, ih below]
    rfl
  | _ => rfl

/-! ### What may become of a component -/

variable (codec)

/-- An action is kept when it is safe and cleared when it is not. -/
inductive ActionKept : Option Action → Option Action → Prop
  | absent : ActionKept none none
  | same {action : Action} (permitted : action.isSafe codec = true) :
      ActionKept (some action) (some action)
  | cleared {action : Action} (refused : action.isSafe codec = false) :
      ActionKept (some action) none

/-- A row changes in its action only. -/
structure ItemKept (before after : ListItem) : Prop where
  action : ActionKept codec before.action after.action
  rest : after = { before with action := after.action }

structure RowKept (before after : TableRow) : Prop where
  action : ActionKept codec before.action after.action
  rest : after = { before with action := after.action }

/-- So does a node, and every node below it. -/
inductive NodeKept : TreeNode → TreeNode → Prop
  | mk {label : String} {counts : List TreeCount} {gap expanded : Bool} {chips : List Chip}
      {action action' : Option Action} {actionLabel : Option String}
      {children children' : List TreeNode} (kept : ActionKept codec action action')
      (below : List.Forall₂ NodeKept children children') :
      NodeKept (.mk label counts gap expanded chips action actionLabel children)
        (.mk label counts gap expanded chips action' actionLabel children')

/-- What may become of a component: `none` when it is dropped. -/
inductive Becomes : Component → Option Component → Prop
  | unchanged {component : Component} (allowed : Allowed codec component.links) :
      Becomes component (some component)
  | dropped {label tool : String} {args : Value} {action : Action} {resource : Option String}
      {primary : Bool} (refused : action.isSafe codec = false) :
      Becomes (.button label tool args (some action) resource primary) none
  | list {title : Option String} {items items' : List ListItem}
      (kept : List.Forall₂ (ItemKept codec) items items') :
      Becomes (.list title items) (some (.list title items'))
  | table {title : Option String} {columns : List TableColumn} {rows rows' : List TableRow}
      (kept : List.Forall₂ (RowKept codec) rows rows') :
      Becomes (.table title columns rows) (some (.table title columns rows'))
  | tree {title gapsToggle : Option String} {nodes nodes' : List TreeNode}
      (kept : List.Forall₂ (NodeKept codec) nodes nodes') :
      Becomes (.tree title nodes gapsToggle) (some (.tree title nodes' gapsToggle))
  | embed {url title : String} {height : Option UInt32} {fallback fallback' : Component}
      (permitted : codec.isAllowedLink url = true) (below : Becomes fallback (some fallback')) :
      Becomes (.embed url title height fallback) (some (.embed url title height fallback'))
  | droppedWith {url title : String} {height : Option UInt32} {fallback : Component}
      (permitted : codec.isAllowedLink url = true) (below : Becomes fallback none) :
      Becomes (.embed url title height fallback) none
  | replaced {url title : String} {height : Option UInt32} {fallback : Component}
      {outcome : Option Component} (refused : codec.isAllowedLink url = false)
      (below : Becomes fallback outcome) :
      Becomes (.embed url title height fallback) outcome

variable {codec}

theorem actionKept_safe (action : Option Action) :
    ActionKept codec action (safe codec action) := by
  cases action with
  | none => exact .absent
  | some action =>
    rw [safe_some]
    split
    · exact .same ‹_›
    · exact .cleared (Bool.eq_false_iff.mpr ‹_›)

theorem nodeKept_sanitizeNode (node : TreeNode) :
    NodeKept codec node (sanitizeNode codec node) := by
  induction node using TreeNode.links.induct with
  | case1 label counts gap expanded chips action actionLabel children ih =>
    rw [sanitizeNode]
    apply NodeKept.mk (actionKept_safe action)
    rw [List.forall₂_map_right_iff, List.forall₂_same]
    exact ih

/-- The sanitizer does to a component only what may become of it. -/
theorem becomes_sanitized (component : Component) :
    Becomes codec component (component.sanitized codec) := by
  induction component with
  | button label tool args action resource primary =>
    cases action with
    | none => exact .unchanged (by simp [Component.links, linksOf, Allowed])
    | some action =>
      rw [Component.sanitized]
      split
      · rename_i permitted
        exact .unchanged (action.allowed_links.mpr permitted)
      · exact .dropped (Bool.eq_false_iff.mpr ‹_›)
  | list title items =>
    apply Becomes.list
    rw [List.forall₂_map_right_iff, List.forall₂_same]
    exact fun item _ => ⟨actionKept_safe item.action, rfl⟩
  | table title columns rows =>
    apply Becomes.table
    rw [List.forall₂_map_right_iff, List.forall₂_same]
    exact fun row _ => ⟨actionKept_safe row.action, rfl⟩
  | tree title nodes gapsToggle =>
    apply Becomes.tree
    rw [List.forall₂_map_right_iff, List.forall₂_same]
    exact fun node _ => nodeKept_sanitizeNode node
  | embed url title height fallback ih =>
    rw [Component.sanitized]
    split
    · rename_i permitted
      cases outcome : fallback.sanitized codec with
      | none => exact .droppedWith permitted (outcome ▸ ih)
      | some inner => exact .embed permitted (outcome ▸ ih)
    · exact .replaced (Bool.eq_false_iff.mpr ‹_›) ih
  | _ => exact .unchanged (by simp [Component.links, Allowed])

/-! ### Extraction -/

variable (codec)

/-- The result decodes to this surface, and all its components pass the
structural check. -/
def Accepted (result : Value) (decoded : Surface) : Prop :=
  ∃ raw, result.get "surface" = some raw ∧ codec.fromValue raw = .ok decoded ∧
    ∀ component ∈ decoded.components, component.check = .ok ()

variable {codec}

theorem forM_check_eq_ok_iff (components : List Component) :
    components.forM Component.check = .ok () ↔
      ∀ component ∈ components, component.check = .ok () := by
  induction components with
  | nil => simp [pure, Except.pure]
  | cons component rest ih =>
    rw [List.forM, List.forall_mem_cons, ← ih]
    cases component.check with
    | error message | ok passed => simp [bind, Except.bind]

theorem extractSurface_of_accepted {result : Value} {decoded : Surface}
    (accepted : Accepted codec result decoded) :
    extractSurface codec result =
      .ok ⟨decoded.components.filterMap (Component.sanitized codec)⟩ := by
  obtain ⟨raw, field, read, checked⟩ := accepted
  simp only [extractSurface, field, read, (forM_check_eq_ok_iff _).mpr checked]
  rfl

theorem accepted_of_extractSurface {result : Value} {surface : Surface}
    (extracted : extractSurface codec result = .ok surface) :
    ∃ decoded, Accepted codec result decoded ∧
      surface = ⟨decoded.components.filterMap (Component.sanitized codec)⟩ := by
  rw [extractSurface] at extracted
  cases field : result.get "surface" with
  | none => simp [field] at extracted
  | some raw =>
    cases read : codec.fromValue raw with
    | error message => simp [field, read] at extracted
    | ok decoded =>
      simp only [field, read] at extracted
      cases checked : decoded.components.forM Component.check with
      | error message =>
        rw [checked] at extracted
        cases extracted
      | ok passed =>
        rw [checked] at extracted
        cases extracted
        exact ⟨decoded, ⟨raw, field, read, (forM_check_eq_ok_iff _).mp checked⟩, rfl⟩

/-- The derived decoder, with `https://` links only. -/
def httpsCodec : Codec where
  fromValue := decodeSurface fun _ => "invalid component"
  buildEnvelope surface _ := V09.build surface
  isAllowedLink url := Text.startsWith url "https://"

/-- A tool result with these components. -/
def resultWith (components : List Value) : Value :=
  .object [("surface", .object [("components", .array components)])]

/-- A button that opens `url` and also names a legacy tool. -/
def openButton (url : String) : Value :=
  .object [("action", .object [("type", .string "open_url"), ("url", .string url)]),
    ("kind", .string "button"), ("label", .string "Open"), ("tool", .string "open_page")]

/-- The surface of one such button, with the tool it is left with. -/
def openSurface (tool : String) : Surface :=
  ⟨[.button "Open" tool .null (some (.openUrl "https://app.example/")) none false]⟩

/-- No refused link leaves extraction: whatever it returns has allowed links
only, sanitizing again changes nothing, and compared with the decoded surface
every component is in its place, as it was but for refused links. -/
theorem extraction_removes_refused_links (codec : Codec) :
    (∀ component kept : Component, component.sanitized codec = some kept →
      kept.sanitized codec = some kept) ∧
    ∀ (result : Value) (surface : Surface), extractSurface codec result = .ok surface →
      (∀ component ∈ surface.components, Allowed codec component.links) ∧
      surface.components.filterMap (Component.sanitized codec) = surface.components ∧
      ∃ raw decoded outcomes, result.get "surface" = some raw ∧
        codec.fromValue raw = .ok decoded ∧
        List.Forall₂ (Becomes codec) decoded.components outcomes ∧
        surface.components = outcomes.reduceOption := by
  constructor
  · intro component kept sanitized
    exact sanitized_of_allowed (allowed_links_sanitized sanitized)
  · intro result surface extracted
    obtain ⟨decoded, ⟨raw, field, read, _⟩, rfl⟩ := accepted_of_extractSurface extracted
    have allowed : ∀ component ∈ decoded.components.filterMap (Component.sanitized codec),
        Allowed codec component.links := by
      intro component member
      obtain ⟨before, _, sanitized⟩ := List.mem_filterMap.mp member
      exact allowed_links_sanitized sanitized
    refine ⟨allowed, ?_, raw, decoded, decoded.components.map (Component.sanitized codec), field,
      read, ?_, ?_⟩
    · calc
        (decoded.components.filterMap (Component.sanitized codec)).filterMap
              (Component.sanitized codec) =
            (decoded.components.filterMap (Component.sanitized codec)).filterMap some :=
          List.filterMap_congr fun component member => sanitized_of_allowed (allowed _ member)
        _ = decoded.components.filterMap (Component.sanitized codec) := List.filterMap_some
    · rw [List.forall₂_map_right_iff, List.forall₂_same]
      exact fun component _ => becomes_sanitized component
    · rw [List.reduceOption, List.filterMap_map]
      rfl

theorem refused_button_leaves_no_link :
    extractSurface httpsCodec
        (resultWith [openButton "https://app.example/", openButton "javascript:run()"]) =
      .ok (openSurface "open_page") ∧
    ∀ component ∈ (openSurface "open_page").components, Allowed httpsCodec component.links := by
  have extracted : extractSurface httpsCodec
      (resultWith [openButton "https://app.example/", openButton "javascript:run()"]) =
        .ok (openSurface "open_page") := rfl
  exact ⟨extracted, ((extraction_removes_refused_links httpsCodec).2 _ _ extracted).1⟩

/-! ### The structure of what leaves -/

namespace Component

/-- A component and, through embeds, what stands in for it. -/
def parts : Component → List Component
  | .embed url title height fallback => .embed url title height fallback :: fallback.parts
  | other => [other]

/-- The component and every fallback in it pass the structural check. -/
def WellFormed (component : Component) : Prop := ∀ part ∈ component.parts, part.check = .ok ()

def fallback? : Component → Option Component
  | .embed _ _ _ fallback => some fallback
  | _ => none

variable {component kept fallback : Component} {url title : String} {height : Option UInt32}

theorem parts_of_plain (plain : component.isEmbed = false) :
    component.parts = [component] := by
  cases component with
  | embed => cases plain
  | _ => rfl

/-- The sanitizer changes nothing the check looks at outside embeds. -/
theorem sanitized_plain (plain : component.isEmbed = false)
    (sanitized : component.sanitized codec = some kept) :
    kept.isEmbed = false ∧ kept.check = component.check := by
  have becomes : Becomes codec component (some kept) := sanitized ▸ becomes_sanitized component
  cases becomes with
  | unchanged => exact ⟨plain, rfl⟩
  | list | table | tree => exact ⟨rfl, rfl⟩
  | embed | replaced => cases plain

theorem plain_of_check_embed
    (checked : (Component.embed url title height fallback).check = .ok ()) :
    fallback.isEmbed = false := by
  rw [check] at checked
  split at checked
  · cases checked
  · exact Bool.eq_false_iff.mpr ‹_›

theorem wellFormed_of_plain (plain : component.isEmbed = false)
    (checked : component.check = .ok ()) : component.WellFormed := by
  rw [WellFormed, parts_of_plain plain]
  intro part member
  rw [List.mem_singleton.mp member]
  exact checked

/-- What is kept of a checked component with a checked fallback is well-formed. -/
theorem wellFormed_sanitized (checked : component.check = .ok ())
    (below : ∀ fallback ∈ component.fallback?, fallback.check = .ok ())
    (sanitized : component.sanitized codec = some kept) : kept.WellFormed := by
  cases component with
  | embed url title height fallback =>
    have plain := plain_of_check_embed checked
    have passes := below fallback rfl
    rw [Component.sanitized] at sanitized
    split at sanitized
    · obtain ⟨inner, cleaned, rfl⟩ := Option.map_eq_some_iff.mp sanitized
      obtain ⟨stillPlain, same⟩ := sanitized_plain plain cleaned
      rw [WellFormed, parts, List.forall_mem_cons, check, stillPlain]
      exact ⟨rfl, wellFormed_of_plain stillPlain (same.trans passes)⟩
    · obtain ⟨stillPlain, same⟩ := sanitized_plain plain sanitized
      exact wellFormed_of_plain stillPlain (same.trans passes)
  | _ =>
    obtain ⟨stillPlain, same⟩ := sanitized_plain rfl sanitized
    exact wellFormed_of_plain stillPlain (same.trans checked)

/-- A fallback that fails the check is kept, inside its embed or in its place. -/
theorem not_wellFormed_of_failing (plain : fallback.isEmbed = false)
    (failing : fallback.check ≠ .ok ()) :
    ∃ kept, (Component.embed url title height fallback).sanitized codec = some kept ∧
      ¬ kept.WellFormed := by
  -- a component outside embeds that fails the check holds no link
  have cleaned : fallback.sanitized codec = some fallback := by
    cases fallback with
    | embed => cases plain
    | selection | formGroups => rfl
    | _ => exact absurd rfl failing
  rw [Component.sanitized, cleaned]
  split
  · refine ⟨_, rfl, ?_⟩
    intro wellFormed
    exact failing (wellFormed fallback (by rw [parts, parts_of_plain plain]; simp))
  · refine ⟨_, rfl, ?_⟩
    intro wellFormed
    exact failing (wellFormed fallback (by rw [parts_of_plain plain]; simp))

end Component

/-- Every surface that extraction returns is well-formed exactly when no
accepted surface has an embed whose fallback fails the check: the check runs on
the decoded components only, never on their fallbacks. -/
theorem extraction_wellFormed_iff (codec : Codec) (result : Value) :
    (∀ surface, extractSurface codec result = .ok surface →
      ∀ component ∈ surface.components, component.WellFormed) ↔
    ∀ decoded, Accepted codec result decoded →
      ∀ component ∈ decoded.components, ∀ fallback ∈ component.fallback?,
        fallback.check = .ok () := by
  constructor
  · intro wellFormed decoded accepted component member fallback held
    cases component with
    | embed url title height inner =>
      cases held
      have returned := extractSurface_of_accepted accepted
      obtain ⟨_, _, _, checked⟩ := accepted
      have plain := Component.plain_of_check_embed (checked _ member)
      by_contra failing
      obtain ⟨kept, sanitized, broken⟩ : ∃ kept,
          (Component.embed url title height fallback).sanitized codec = some kept ∧
            ¬ kept.WellFormed := Component.not_wellFormed_of_failing plain failing
      exact broken (wellFormed _ returned kept
        (List.mem_filterMap.mpr ⟨_, member, sanitized⟩))
    | _ => cases held
  · intro below surface extracted component member
    obtain ⟨decoded, accepted, rfl⟩ := accepted_of_extractSurface extracted
    obtain ⟨before, there, sanitized⟩ := List.mem_filterMap.mp member
    have fallbacks := below decoded accepted before there
    obtain ⟨_, _, _, checked⟩ := accepted
    exact Component.wellFormed_sanitized (checked before there) fallbacks sanitized

/-- An embed over a selection whose `args_key` is blank. -/
def blankSelectionEmbed (url : String) : Value :=
  .object [("fallback", .object [("args_key", .string " "), ("kind", .string "selection"),
      ("options", .array []), ("prompt", .string "Pick one"),
      ("submit", .object [("label", .string "Send"), ("template", .string "Use it")])]),
    ("kind", .string "embed"), ("title", .string "Map"), ("url", .string url)]

/-- The refused page gives way to a selection that the check would have refused
on its own. -/
theorem blank_selection_leaves_extraction :
    ∃ surface, extractSurface httpsCodec (resultWith [blankSelectionEmbed "http://app.example/"]) =
        .ok surface ∧
      ∃ component ∈ surface.components, component.check =
        .error "invalid A2UI surface: a selection with `submit` needs `args_key`" :=
  ⟨_, rfl, _, List.mem_singleton_self _, rfl⟩

/-! ### The envelope of what leaves -/

theorem Becomes.canonical {component : Component} {outcome : Option Component}
    (becomes : Becomes codec component outcome) (canonical : component.Canonical) :
    ∀ kept ∈ outcome, kept.Canonical := by
  induction becomes with
  | unchanged =>
    rintro _ ⟨⟩
    exact canonical
  | dropped | droppedWith => nofun
  | list | table | tree =>
    rintro _ ⟨⟩
    trivial
  | embed _ _ ih =>
    rintro _ ⟨⟩
    have below := ih canonical _ rfl
    exact below
  | replaced _ _ ih => exact ih canonical

/-- The v0.9 envelope of an extracted surface, bare or under at most six object
keys, reverses to the surface, but for the unused tool and arguments of buttons
that carry a stateless action. -/
theorem extracted_envelope_reverses (codec : Codec)
    (canonical : ∀ raw decoded, codec.fromValue raw = .ok decoded → decoded.Canonical)
    {result : Value} {surface : Surface} (extracted : extractSurface codec result = .ok surface)
    {height : Nat} {value : Value} (wraps : Wraps (V09.build surface) height value)
    (shallow : height ≤ 6) :
    envelopeToSurface value = some ⟨surface.components.map Component.withoutLegacy⟩ := by
  obtain ⟨decoded, ⟨raw, _, read, _⟩, rfl⟩ := accepted_of_extractSurface extracted
  refine envelopeToSurface_build ?_ wraps shallow
  intro component member
  obtain ⟨before, there, sanitized⟩ := List.mem_filterMap.mp member
  exact (becomes_sanitized before).canonical (canonical raw decoded read before there) _ sanitized

theorem canonical_of_httpsCodec {raw : Value} {decoded : Surface}
    (read : httpsCodec.fromValue raw = .ok decoded) : decoded.Canonical := by
  change decodeSurface (fun _ => "invalid component") raw = .ok decoded at read
  unfold decodeSurface at read
  cases found : Surface.fromValue raw with
  | none => simp [found] at read
  | some other =>
    rw [found] at read
    cases read
    exact Surface.canonical_fromValue raw _ found

theorem wrapped_button_envelope_reverses :
    envelopeToSurface (.object [("result", V09.build (openSurface "open_page")),
      ("trace", .string "t1")]) = some (openSurface "") := by
  have extracted : extractSurface httpsCodec (resultWith [openButton "https://app.example/"]) =
      .ok (openSurface "open_page") := rfl
  have wraps : Wraps (V09.build (openSurface "open_page")) 1
      (.object ([] ++ ("result", V09.build (openSurface "open_page")) ::
        [("trace", .string "t1")])) := .under .bare rfl rfl rfl
  exact extracted_envelope_reverses httpsCodec (fun _ _ read => canonical_of_httpsCodec read)
    extracted wraps (by decide)

end Triton.A2ui
