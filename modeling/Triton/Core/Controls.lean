/-
# The dispatcher's controls

A host hands the dispatcher two levers when it builds it: a denylist of callers,
read from a comma-separated text, and restrictions that bind a scope to a set of
tools. Two questions are settled here. Which callers can the text of a denylist
name? And does the verdict on a caller depend on the order of its scopes, or get
wider with one more of them?
-/

import Triton.Core.Dispatcher
import Triton.Lib.Regroup

namespace Triton.Core

open Triton.Lib

/-- What a host decides when it builds a dispatcher. The window for coalescing
anonymous rejections is left out; no function here reads it. -/
structure DispatchControls where
  deniedPrincipals : List (String × String)
  scopeRestrictions : Table String (List String)

/-! ## The text of a denylist -/

/-- One entry of the list: a tenant and a subject around exactly one slash. -/
def parsePrincipal (entry : String) : Option (String × String) :=
  match Text.splitOnce '/' entry with
  | some (tenant, sub) =>
    if !(Text.trim tenant).isEmpty && !(Text.trim sub).isEmpty &&
        entry.toList.count '/' == 1 then
      some (Text.trim tenant, Text.trim sub)
    else none
  | none => none

/-- The callers a comma-separated list names. Entries that are not understood
are dropped. -/
def parsePrincipalSet (raw : String) : List (String × String) :=
  (((Text.split ',' raw).map Text.trim).filter (!·.isEmpty)).filterMap parsePrincipal

def parseDeniedPrincipals (raw : String) : List (String × String) := parsePrincipalSet raw

namespace DispatchControls

/-- Deny nobody, restrict nothing. -/
def unenforced : DispatchControls := ⟨[], ∅⟩

/-- Restrict a scope to a set of tools, in place of any earlier restriction. An
empty set changes nothing. -/
def replaceScopeRestriction (controls : DispatchControls) (scope : String) (tools : List String) :
    DispatchControls :=
  if tools.isEmpty then controls
  else { controls with scopeRestrictions := controls.scopeRestrictions.insert scope tools }

end DispatchControls

/-- A dispatcher without an upstream. `surfaces` are the surfaces it starts
with. -/
def Dispatcher.new (registry : Table String Tool) (env : String) (controls : DispatchControls)
    (surfaces : SurfaceRegistry) (showSet : List String → String) : Dispatcher where
  registry := registry
  env := env
  upstream := none
  denied := controls.deniedPrincipals
  scopeRestrictions := controls.scopeRestrictions
  surfaces := surfaces
  showSet := showSet

/-! ## Which callers a denylist can name -/

/-- A text without the two separators of the list. -/
def Listable (field : String) : Prop := ',' ∉ field.toList ∧ '/' ∉ field.toList

instance (field : String) : Decidable (Listable field) :=
  inferInstanceAs (Decidable (_ ∧ _))

variable {tenant : String}

/-- An entry that is understood names a tenant and a subject without a slash. -/
theorem slash_notMem_of_parsePrincipal {entry sub : String}
    (parsed : parsePrincipal entry = some (tenant, sub)) :
    '/' ∉ tenant.toList ∧ '/' ∉ sub.toList ∧
      (∀ c ∈ tenant.toList, c ∈ entry.toList) ∧ ∀ c ∈ sub.toList, c ∈ entry.toList := by
  rw [parsePrincipal] at parsed
  split at parsed
  · rename_i before after cut
    split at parsed
    · rename_i good
      cases parsed
      have text := Text.toList_of_splitOnce cut
      simp only [Bool.and_eq_true, beq_iff_eq, text, List.count_append, List.count_cons_self]
        at good
      have none_before : '/' ∉ before.toList := List.count_eq_zero.mp (by omega)
      have none_after : '/' ∉ after.toList := List.count_eq_zero.mp (by omega)
      refine ⟨fun found => none_before (Text.mem_of_mem_trim found),
        fun found => none_after (Text.mem_of_mem_trim found), fun c found => ?_, fun c found => ?_⟩
      · simp [text, Text.mem_of_mem_trim found]
      · simp [text, Text.mem_of_mem_trim found]
    · cases parsed
  · cases parsed

/-- A caller that some list names has neither separator in its fields. -/
theorem listable_of_mem {raw sub : String} (named : (tenant, sub) ∈ parseDeniedPrincipals raw) :
    Listable tenant ∧ Listable sub := by
  obtain ⟨entry, listed, parsed⟩ := List.mem_filterMap.mp named
  obtain ⟨piece, between, rfl⟩ := List.mem_map.mp (List.mem_filter.mp listed).1
  obtain ⟨chars, part, rfl⟩ := List.mem_map.mp between
  have noComma : ∀ c ∈ (Text.trim (String.ofList chars)).toList, c ≠ ',' := by
    rintro c found rfl
    have inside := Text.mem_of_mem_trim found
    rw [String.toList_ofList] at inside
    exact Regroup.sep_notMem_of_mem_splitOn ',' part inside
  obtain ⟨tenantSlash, subSlash, tenantChars, subChars⟩ := slash_notMem_of_parsePrincipal parsed
  exact ⟨⟨fun found => noComma _ (tenantChars _ found) rfl, tenantSlash⟩,
    ⟨fun found => noComma _ (subChars _ found) rfl, subSlash⟩⟩

/-- A field the resolver boundary accepts is not empty and has no white space. -/
theorem clean_of_validateField {field value : String}
    (accepted : validateField field value = .ok ()) :
    value.toList ≠ [] ∧ ∀ c ∈ value.toList, Text.isWhitespace c = false := by
  rw [validateField] at accepted
  split at accepted
  · cases accepted
  · split at accepted
    · cases accepted
    · split at accepted
      · cases accepted
      · rename_i nonempty _ plain
        simp only [Bool.not_eq_true, List.any_eq_false, Bool.or_eq_true, not_or] at plain
        refine ⟨?_, fun c found => by simpa using (plain c found).1⟩
        intro empty
        simp [Text.trim, empty] at nonempty

/-- The entry that names exactly this caller. -/
theorem parseDeniedPrincipals_entry {sub : String} (accepted : validateResolved sub tenant = .ok ())
    (tenantOk : Listable tenant) (subOk : Listable sub) :
    parseDeniedPrincipals (tenant ++ "/" ++ sub) = [(tenant, sub)] := by
  rw [validateResolved, bind_eq_ok_iff] at accepted
  obtain ⟨_, subField, tenantField⟩ := accepted
  obtain ⟨tenantSome, tenantClean⟩ := clean_of_validateField tenantField
  obtain ⟨subSome, subClean⟩ := clean_of_validateField subField
  have text : (tenant ++ "/" ++ sub).toList = tenant.toList ++ '/' :: sub.toList := by
    simp [String.toList_append]
  have whole : tenant ++ "/" ++ sub = String.ofList (tenant.toList ++ '/' :: sub.toList) := by
    rw [← text, String.ofList_toList]
  have pieces : Text.split ',' (tenant ++ "/" ++ sub) = [tenant ++ "/" ++ sub] := by
    rw [Text.split, text, List.splitOn_eq_singleton (by simp [tenantOk.1, subOk.1]), whole]
    rfl
  have trimmed : Text.trim (tenant ++ "/" ++ sub) = tenant ++ "/" ++ sub := by
    apply Text.trim_of_no_whitespace
    rw [text]
    intro c found
    rcases List.mem_append.mp found with found | found
    · exact tenantClean c found
    · rcases List.mem_cons.mp found with rfl | found
      · decide
      · exact subClean c found
  have cut : Text.splitOnce '/' (tenant ++ "/" ++ sub) = some (tenant, sub) := by
    rw [whole, Text.splitOnce_ofList tenantOk.2, String.ofList_toList, String.ofList_toList]
  have once : (tenant ++ "/" ++ sub).toList.count '/' = 1 := by
    simp [text, List.count_eq_zero.mpr tenantOk.2, List.count_eq_zero.mpr subOk.2]
  have parsed : parsePrincipal (tenant ++ "/" ++ sub) = some (tenant, sub) := by
    simp only [parsePrincipal, cut, Text.trim_of_no_whitespace tenantClean,
      Text.trim_of_no_whitespace subClean, once]
    simp [← String.toList_inj, tenantSome, subSome]
  simp [parseDeniedPrincipals, parsePrincipalSet, pieces, trimmed, parsed]

/-- An accepted caller can be named, alone, by a denylist exactly when neither
its tenant nor its subject has a comma or a slash. -/
theorem revocable_iff {tenant sub : String} (accepted : validateResolved sub tenant = .ok ()) :
    (∃ raw, ∀ pair, pair ∈ parseDeniedPrincipals raw ↔ pair = (tenant, sub)) ↔
      Listable tenant ∧ Listable sub := by
  constructor
  · rintro ⟨raw, only⟩
    exact listable_of_mem ((only (tenant, sub)).mpr rfl)
  · rintro ⟨tenantOk, subOk⟩
    refine ⟨tenant ++ "/" ++ sub, fun pair => ?_⟩
    rw [parseDeniedPrincipals_entry accepted tenantOk subOk, List.mem_singleton]

/-- Alice of acme can be named. -/
theorem alice_revocable :
    ∃ raw, ∀ pair, pair ∈ parseDeniedPrincipals raw ↔ pair = ("acme", "alice") :=
  (revocable_iff (by decide)).mpr (by decide)

/-- No denylist names the subject `users/99`, which the resolver boundary
accepts. -/
theorem resource_name_not_revocable :
    validateResolved "users/99" "acme" = .ok () ∧
      ¬ ∃ raw, ∀ pair, pair ∈ parseDeniedPrincipals raw ↔ pair = ("acme", "users/99") := by
  refine ⟨by decide, ?_⟩
  rintro ⟨raw, only⟩
  exact absurd (listable_of_mem ((only ("acme", "users/99")).mpr rfl)).2 (by decide)

/-! ## Restrictions and the order of scopes -/

namespace Dispatcher

variable (d : Dispatcher)

def Permits (principal : Principal) (tool : String) : Prop := d.canInvoke principal tool = .ok ()

instance (principal : Principal) (tool : String) : Decidable (d.Permits principal tool) :=
  match verdict : d.canInvoke principal tool with
  | .ok () => isTrue verdict
  | .error _ => isFalse fun ok => by rw [Permits, verdict] at ok; cases ok

def Restricted (scope : String) : Prop := (d.scopeRestrictions.lookup scope).isSome = true

/-- The restriction of the scope, if there is one, lets the tool through. -/
def Allows (scope tool : String) : Prop :=
  ∀ allowed, d.scopeRestrictions.lookup scope = some allowed → tool ∈ allowed

/-- The first restricted scope decides. -/
theorem permits_iff (principal : Principal) (tool : String) :
    d.Permits principal tool ↔
      ∀ held, principal.scopes.find? (fun s => (d.scopeRestrictions.lookup s).isSome) = some held →
        d.Allows held tool := by
  unfold Permits canInvoke Allows
  cases found : principal.scopes.find? fun s => (d.scopeRestrictions.lookup s).isSome with
  | none => simp
  | some held =>
    simp only [Option.some.injEq, forall_eq']
    cases restricted : d.scopeRestrictions.lookup held with
    | none => simp
    | some allowed => by_cases inside : tool ∈ allowed <;> simp [inside]

/-- All restrictions allow the same tools. -/
def UniformRestrictions : Prop :=
  ∀ scope other, d.Restricted scope → d.Restricted other →
    ∀ tool, d.Allows scope tool → d.Allows other tool

/-- Where all restrictions allow the same tools, every restricted scope
decides. -/
theorem permits_iff_forall {d : Dispatcher} (uniform : d.UniformRestrictions)
    (principal : Principal) (tool : String) :
    d.Permits principal tool ↔ ∀ held ∈ principal.scopes, d.Allows held tool := by
  rw [permits_iff]
  constructor
  · intro first scope holds allowed restricted
    have limited : d.Restricted scope := by simp [Restricted, restricted]
    obtain ⟨held, found⟩ : ∃ held, principal.scopes.find?
        (fun s => (d.scopeRestrictions.lookup s).isSome) = some held :=
      Option.isSome_iff_exists.mp (List.find?_isSome.mpr ⟨scope, holds, limited⟩)
    have decides : d.Restricted held := by simpa [Restricted] using List.find?_some found
    exact uniform held scope decides limited tool (first held found) allowed restricted
  · intro all held found
    exact all held (List.mem_of_find?_eq_some found)

/-- The verdict does not depend on the order of the scopes, and for a caller that
holds a restricted scope one scope more never turns a refusal into a
permission. -/
structure ScopesOnlyNarrow : Prop where
  order : ∀ (principal : Principal) (tool : String) (scopes : List String),
    principal.scopes.Perm scopes →
      (d.Permits { principal with scopes := scopes } tool ↔ d.Permits principal tool)
  extra : ∀ (principal : Principal) (tool scope : String) (before after : List String),
    principal.scopes = before ++ after → (∃ held ∈ principal.scopes, d.Restricted held) →
      ¬ d.Permits principal tool →
        ¬ d.Permits { principal with scopes := before ++ scope :: after } tool

/-- Scopes behave so exactly when all restrictions allow the same tools. -/
theorem scopesOnlyNarrow_iff : d.ScopesOnlyNarrow ↔ d.UniformRestrictions := by
  constructor
  · intro narrow scope other first second tool allows
    -- a caller with both scopes is permitted in one order, so also in the other
    let caller : Principal := ⟨"", [scope, other], [], "", "", "", none, none, none⟩
    have permitted : d.Permits caller tool := by
      rw [permits_iff]
      intro held found
      rw [Restricted] at first
      obtain rfl : scope = held := by simpa [caller, first] using found
      exact allows
    have swapped := (narrow.order caller tool [other, scope] (.swap ..)).mpr permitted
    rw [permits_iff] at swapped
    rw [Restricted] at second
    exact swapped other (by simp [second])
  · intro uniform
    refine ⟨fun principal tool scopes reordered => ?_,
      fun principal tool scope before after held _ refused permitted => refused ?_⟩
    · rw [permits_iff_forall uniform, permits_iff_forall uniform]
      exact ⟨fun all held holds => all held (reordered.mem_iff.mp holds),
        fun all held holds => all held (reordered.mem_iff.mpr holds)⟩
    · rw [permits_iff_forall uniform] at permitted ⊢
      intro other holds
      rw [held] at holds
      refine permitted other ?_
      rcases List.mem_append.mp holds with holds | holds <;> simp [holds]

/-- Two restrictions that allow different tools: with the first of the two scopes
a caller is refused the menu, with the second put before it the caller may open
it, and with the two swapped it is refused again. -/
theorem second_restriction_widens :
    let controls := (DispatchControls.unenforced.replaceScopeRestriction "pairing" ["enrol"])
      |>.replaceScopeRestriction "kiosk" ["menu"]
    let d := Dispatcher.new ∅ "test" controls ∅ plainSet
    let caller (scopes : List String) : Principal :=
      ⟨"alice", scopes, [], "acme", "", "trace", none, none, none⟩
    ¬ d.Permits (caller ["pairing"]) "menu" ∧ d.Permits (caller ["kiosk", "pairing"]) "menu" ∧
      ¬ d.Permits (caller ["pairing", "kiosk"]) "menu" := by
  decide

end Dispatcher

end Triton.Core
