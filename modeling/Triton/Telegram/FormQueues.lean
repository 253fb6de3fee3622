/-
# The queues of the form store

Every tenant's queue should list the keys of its forms. The store keeps two
structures in step by hand: a new form enters both, a finished, cancelled or
evicted one leaves both, and a form that takes another's place leaves the queues
alone. The last is right only as long as both forms belong to one tenant.
-/

import Triton.Lib.Run
import Triton.Telegram.FormState

namespace Triton.Telegram.FormStateStore

open Triton.Lib Triton.A2ui

/-- The queue of a tenant; empty when there is none. -/
def queue (s : FormStateStore) (tenant : String) : List FormKey :=
  (s.perTenantOrder.lookup tenant).getD []

/-- The key has a form, and the form belongs to the tenant. -/
def Holds (s : FormStateStore) (tenant : String) (key : FormKey) : Prop :=
  ∃ form, s.forms.lookup key = some form ∧ form.tenant = tenant

/-- Every queue lists the keys of its tenant's forms, each once, and is no
longer than the cap. -/
structure WellFormed (s : FormStateStore) : Prop where
  nodup : ∀ tenant, (s.queue tenant).Nodup
  mem_iff : ∀ tenant key, key ∈ s.queue tenant ↔ s.Holds tenant key
  bounded : ∀ tenant, (s.queue tenant).length ≤ s.capPerTenant

theorem wellFormed_withCap (cap : Nat) : (withCap cap).WellFormed where
  nodup tenant := by simp [queue, withCap]
  mem_iff tenant key := by simp [queue, Holds, withCap]
  bounded tenant := by simp [queue, withCap]

/-! ## The three ways to change the store -/

/-- Put a form where there is one already. -/
def replaceForm (s : FormStateStore) (key : FormKey) (form : ActiveForm) : FormStateStore :=
  { s with forms := s.forms.insert key form }

/-- Take a form out of the map and out of its tenant's queue. -/
def removeForm (s : FormStateStore) (key : FormKey) (tenant : String) : FormStateStore :=
  { s with
    forms := s.forms.erase key
    perTenantOrder := s.perTenantOrder.insert tenant ((s.queue tenant).erase key) }

/-- Put a form where there was none. -/
def addForm (s : FormStateStore) (key : FormKey) (form : ActiveForm) : FormStateStore :=
  { s with
    forms := s.forms.insert key form
    perTenantOrder := s.perTenantOrder.insert form.tenant (s.queue form.tenant ++ [key]) }

variable {s : FormStateStore} {key : FormKey} {form : ActiveForm}

@[simp]
theorem queue_replaceForm (tenant : String) :
    (s.replaceForm key form).queue tenant = s.queue tenant :=
  rfl

theorem queue_removeForm (tenant other : String) :
    (s.removeForm key tenant).queue other =
      if other = tenant then (s.queue tenant).erase key else s.queue other := by
  simp only [queue, removeForm, Table.lookup_insert_eq]
  split <;> rfl

theorem queue_addForm (other : String) :
    (s.addForm key form).queue other =
      if other = form.tenant then s.queue form.tenant ++ [key] else s.queue other := by
  simp only [queue, addForm, Table.lookup_insert_eq]
  split <;> rfl

theorem holds_replaceForm (tenant : String) (other : FormKey) :
    (s.replaceForm key form).Holds tenant other ↔
      if other = key then form.tenant = tenant else s.Holds tenant other := by
  simp only [Holds, replaceForm, Table.lookup_insert_eq]
  split <;> simp

theorem holds_removeForm (tenant owner : String) (other : FormKey) :
    (s.removeForm key owner).Holds tenant other ↔ other ≠ key ∧ s.Holds tenant other := by
  simp only [Holds, removeForm, Table.lookup_erase_eq]
  split <;> simp_all

theorem holds_addForm (tenant : String) (other : FormKey) :
    (s.addForm key form).Holds tenant other ↔
      if other = key then form.tenant = tenant else s.Holds tenant other :=
  s.holds_replaceForm tenant other

/-- A form is of one tenant only. -/
theorem Holds.unique {tenant other : String} (first : s.Holds tenant key)
    (second : s.Holds other key) : tenant = other := by
  obtain ⟨form, found, rfl⟩ := first
  obtain ⟨again, foundAgain, rfl⟩ := second
  rw [found] at foundAgain
  cases foundAgain
  rfl

theorem lookup_addForm_of_ne {other : FormKey} (different : other ≠ key) :
    (s.addForm key form).forms.lookup other = s.forms.lookup other :=
  AList.lookup_insert_ne different

theorem lookup_removeForm_of_ne {other : FormKey} (different : other ≠ key) (tenant : String) :
    (s.removeForm key tenant).forms.lookup other = s.forms.lookup other :=
  AList.lookup_erase_ne different

/-! ## The operations in these terms -/

variable {fields : List FormField}

theorem install_of_refused {error : InstallError} (refused : checkFields fields = some error)
    (key : FormKey) (submitTool sub tenant : String) :
    s.install key submitTool fields sub tenant = (s, .error error) := by
  simp [install, refused]

theorem install_of_active (accepted : checkFields fields = none) {old : ActiveForm}
    (active : s.forms.lookup key = some old) (submitTool sub tenant : String) :
    s.install key submitTool fields sub tenant =
      (s.replaceForm key (.new submitTool fields sub tenant), .ok .installed) := by
  simp [install, accepted, hasActive, active, replaceForm, installOutcome]

theorem install_of_fresh (accepted : checkFields fields = none) (fresh : s.forms.lookup key = none)
    (submitTool sub tenant : String) :
    s.install key submitTool fields sub tenant =
      ((s.maybeEvict tenant).1.addForm key (.new submitTool fields sub tenant),
        .ok (installOutcome (s.maybeEvict tenant).2)) := by
  simp [install, accepted, hasActive, fresh, addForm, queue, ActiveForm.new]

/-! ## What each of them does to the invariant -/

section Kept

variable (wf : s.WellFormed)

include wf

/-- Taking another form's place keeps the queues right exactly within one
tenant. -/
theorem wellFormed_replaceForm_iff {old : ActiveForm}
    (active : s.forms.lookup key = some old) :
    (s.replaceForm key form).WellFormed ↔ form.tenant = old.tenant := by
  constructor
  · intro after
    have listed : key ∈ s.queue old.tenant := (wf.mem_iff _ _).mpr ⟨old, active, rfl⟩
    have held := (after.mem_iff old.tenant key).mp listed
    rwa [holds_replaceForm, if_pos rfl] at held
  · intro same
    refine ⟨wf.nodup, fun tenant other => ?_, wf.bounded⟩
    rw [queue_replaceForm, wf.mem_iff, holds_replaceForm]
    split
    · rename_i here
      subst here
      constructor
      · intro held
        exact same.trans (Holds.unique ⟨old, active, rfl⟩ held)
      · rintro rfl
        exact ⟨old, active, same.symm⟩
    · rfl

theorem wellFormed_removeForm {tenant : String} (held : s.Holds tenant key) :
    (s.removeForm key tenant).WellFormed where
  nodup other := by
    rw [queue_removeForm]
    split
    · exact (wf.nodup tenant).erase key
    · exact wf.nodup other
  mem_iff other k := by
    rw [queue_removeForm, holds_removeForm]
    split
    · rename_i here
      subst here
      rw [(wf.nodup other).mem_erase_iff, wf.mem_iff]
    · rename_i different
      rw [wf.mem_iff]
      constructor
      · intro listed
        refine ⟨?_, listed⟩
        rintro rfl
        exact different (listed.unique held)
      · exact And.right
  bounded other := by
    rw [queue_removeForm]
    split
    · exact (List.length_erase_le).trans (wf.bounded tenant)
    · exact wf.bounded other

theorem wellFormed_addForm (fresh : s.forms.lookup key = none)
    (room : (s.queue form.tenant).length < s.capPerTenant) : (s.addForm key form).WellFormed := by
  have absent : ∀ tenant, ¬ s.Holds tenant key := by
    rintro tenant ⟨old, found, _⟩
    rw [fresh] at found
    cases found
  refine ⟨fun other => ?_, fun other k => ?_, fun other => ?_⟩
  · rw [queue_addForm]
    split
    · refine List.nodup_append.mpr ⟨wf.nodup _, List.nodup_singleton key, ?_⟩
      rintro a listed b single rfl
      cases List.mem_singleton.mp single
      exact absent _ ((wf.mem_iff _ _).mp listed)
    · exact wf.nodup other
  · rw [queue_addForm, holds_addForm]
    by_cases here : k = key
    · subst here
      rw [if_pos rfl]
      split
      · rename_i same
        simp [same]
      · rename_i different
        rw [wf.mem_iff]
        exact ⟨fun held => absurd held (absent other), fun same => absurd same.symm different⟩
    · rw [if_neg here]
      split
      · rename_i same
        subst same
        simp [here, wf.mem_iff]
      · exact wf.mem_iff other k
  · rw [queue_addForm]
    split
    · rw [List.length_append, List.length_singleton]
      exact room
    · exact wf.bounded other

theorem maybeEvict_cases (tenant : String) :
    (s.maybeEvict tenant = (s, none) ∧ (s.queue tenant).length < s.capPerTenant) ∨
      ∃ oldest form, s.forms.lookup oldest = some form ∧ form.tenant = tenant ∧
        s.maybeEvict tenant =
          (s.removeForm oldest tenant, some (oldest, form.sub, form.tenant)) := by
  have positive := s.cap_pos
  cases found : s.perTenantOrder.lookup tenant with
  | none =>
    left
    exact ⟨by simp [maybeEvict, found], by simp [queue, found]; omega⟩
  | some keys =>
    have same : s.queue tenant = keys := by simp [queue, found]
    by_cases room : keys.length < s.capPerTenant
    · left
      exact ⟨by simp [maybeEvict, found, room], by rwa [same]⟩
    · right
      cases keys with
      | nil => simp at room; omega
      | cons oldest rest =>
        have listed : oldest ∈ s.queue tenant := by simp [same]
        obtain ⟨form, active, owner⟩ := (wf.mem_iff _ _).mp listed
        refine ⟨oldest, form, active, owner, ?_⟩
        simp only [maybeEvict, found, if_neg room, active]
        simp [removeForm, same]

theorem dropForm_eq (active : s.forms.lookup key = some form) :
    s.dropForm key = s.removeForm key form.tenant := by
  have listed : key ∈ s.queue form.tenant := (wf.mem_iff _ _).mpr ⟨form, active, rfl⟩
  cases found : s.perTenantOrder.lookup form.tenant with
  | none => simp [queue, found] at listed
  | some keys => simp [dropForm, active, found, removeForm, queue]

/-! ## The invariant over whole runs -/

/-- An installation the store accepts for a key that has a form is for the
tenant of that form. -/
def KeepsTenant (s : FormStateStore) : Op → Prop
  | .install key _ fields _ tenant =>
    checkFields fields = none → ∀ old, s.forms.lookup key = some old → old.tenant = tenant
  | _ => True

/-- An installation leaves the forms of other tenants alone, and a reported
eviction is of a form of its own tenant, under the form's own names. -/
def RespectsTenants (s : FormStateStore) : Op → Prop
  | .install key submitTool fields sub tenant =>
    let (after, outcome) := s.install key submitTool fields sub tenant
    (∀ other form, s.forms.lookup other = some form → form.tenant ≠ tenant →
      after.forms.lookup other = some form) ∧
    ∀ evicted evictedSub evictedTenant,
      outcome = .ok (.installedEvicted evicted evictedSub evictedTenant) →
      after.forms.lookup evicted = none ∧ evictedTenant = tenant ∧
        ∃ form, s.forms.lookup evicted = some form ∧ form.sub = evictedSub ∧
          form.tenant = evictedTenant
  | _ => True

/-- After the eviction there is room, and nothing of another tenant is gone. -/
theorem maybeEvict_spec (key : FormKey) (tenant : String) :
    (s.maybeEvict tenant).1.WellFormed ∧
      ((s.maybeEvict tenant).1.queue tenant).length < (s.maybeEvict tenant).1.capPerTenant ∧
      (s.forms.lookup key = none → (s.maybeEvict tenant).1.forms.lookup key = none) ∧
      ∀ other form, s.forms.lookup other = some form → form.tenant ≠ tenant →
        (s.maybeEvict tenant).1.forms.lookup other = some form := by
  rcases maybeEvict_cases wf tenant with ⟨kept, room⟩ | ⟨oldest, form, active, owner, evicted⟩
  · rw [kept]
    exact ⟨wf, room, id, fun _ _ found _ => found⟩
  · have held : s.Holds tenant oldest := ⟨form, active, owner⟩
    have listed : oldest ∈ s.queue tenant := (wf.mem_iff _ _).mpr held
    rw [evicted]
    refine ⟨wellFormed_removeForm wf held, ?_, fun fresh => ?_, fun other kept found foreign => ?_⟩
    · rw [queue_removeForm, if_pos rfl, List.length_erase_of_mem listed]
      have nonempty := List.length_pos_of_mem listed
      have bounded := wf.bounded tenant
      change (s.queue tenant).length - 1 < s.capPerTenant
      omega
    · rwa [lookup_removeForm_of_ne]
      rintro rfl
      rw [active] at fresh
      cases fresh
    · rwa [lookup_removeForm_of_ne]
      rintro rfl
      rw [active] at found
      cases found
      exact foreign owner

theorem respectsTenants_install_fresh (accepted : checkFields fields = none)
    (fresh : s.forms.lookup key = none) (submitTool sub tenant : String) :
    s.RespectsTenants (.install key submitTool fields sub tenant) := by
  obtain ⟨_, _, _, others⟩ := maybeEvict_spec wf key tenant
  simp only [RespectsTenants, install_of_fresh accepted fresh]
  refine ⟨fun other form found foreign => ?_, fun evicted evictedSub evictedTenant reported => ?_⟩
  · rw [lookup_addForm_of_ne]
    · exact others other form found foreign
    · rintro rfl
      rw [fresh] at found
      cases found
  · rcases maybeEvict_cases wf tenant with ⟨kept, _⟩ | ⟨oldest, form, active, owner, gone⟩
    · rw [kept] at reported
      cases reported
    · rw [gone] at reported ⊢
      cases reported
      refine ⟨?_, owner, form, active, rfl, rfl⟩
      rw [lookup_addForm_of_ne]
      · exact AList.lookup_erase _ _
      · rintro rfl
        rw [active] at fresh
        cases fresh

/-- Taking a form's place for another tenant leaves its key in the old queue;
otherwise an installation keeps everything in order. -/
theorem install_step_iff (key : FormKey) (submitTool : String) (fields : List FormField)
    (sub tenant : String) :
    ((s.install key submitTool fields sub tenant).1.WellFormed ∧
        s.RespectsTenants (.install key submitTool fields sub tenant)) ↔
      s.KeepsTenant (.install key submitTool fields sub tenant) := by
  cases check : checkFields fields with
  | some error =>
    refine iff_of_true ?_ (fun accepted => by rw [check] at accepted; cases accepted)
    simp only [RespectsTenants, install_of_refused check]
    exact ⟨wf, fun _ _ found _ => found, fun _ _ _ reported => by cases reported⟩
  | none =>
    cases active : s.forms.lookup key with
    | none =>
      obtain ⟨after, room, stillFresh, _⟩ := maybeEvict_spec wf key tenant
      refine iff_of_true
        ⟨?_, respectsTenants_install_fresh wf check active submitTool sub tenant⟩ ?_
      · rw [install_of_fresh check active]
        exact wellFormed_addForm after (stillFresh active) room
      intro _ old found
      rw [active] at found
      cases found
    | some old =>
      have installed := install_of_active check active submitTool sub tenant
      rw [installed, wellFormed_replaceForm_iff wf active]
      constructor
      · rintro ⟨same, _⟩ _ again found
        rw [active] at found
        cases found
        exact same.symm
      · intro keeps
        have same : old.tenant = tenant := keeps check old active
        refine ⟨same.symm, ?_⟩
        simp only [RespectsTenants, installed]
        refine ⟨fun other form found foreign => ?_, fun _ _ _ reported => by cases reported⟩
        change (s.forms.insert key _).lookup other = some form
        rw [AList.lookup_insert_ne]
        · exact found
        · rintro rfl
          rw [active] at found
          cases found
          exact foreign same

theorem wellFormed_dropForm (key : FormKey) : (s.dropForm key).WellFormed := by
  cases active : s.forms.lookup key with
  | none => simpa [dropForm, active] using wf
  | some form =>
    rw [dropForm_eq wf active]
    exact wellFormed_removeForm wf ⟨form, active, rfl⟩

theorem wellFormed_advance (key : FormKey) (message : String) :
    (s.advance key message).1.WellFormed := by
  unfold advance
  split
  · exact wf
  · rename_i form active
    split
    · exact wellFormed_dropForm wf key
    · split
      · exact wf
      · rename_i field _ _ value _
        -- the answered form is still its tenant's
        have answered : (s.replaceForm key { form with
            args := form.args.insert field.name value, step := form.step + 1 }).WellFormed :=
          (wellFormed_replaceForm_iff wf active).mpr rfl
        simp only []
        split
        · exact wellFormed_dropForm answered key
        · exact answered

theorem wellFormed_cancel (key : FormKey) : (s.cancel key).1.WellFormed := by
  unfold cancel
  split
  · exact wellFormed_dropForm wf key
  · exact wf

theorem step_iff (op : Op) :
    ((s.step op).WellFormed ∧ s.RespectsTenants op) ↔ s.KeepsTenant op := by
  cases op with
  | install key submitTool fields sub tenant =>
    exact install_step_iff wf key submitTool fields sub tenant
  | advance key message =>
    exact iff_of_true ⟨wellFormed_advance wf key message, trivial⟩ trivial
  | cancel key => exact iff_of_true ⟨wellFormed_cancel wf key, trivial⟩ trivial

end Kept

/-- Along every run, the queues stay right and no tenant loses a form to another
exactly when no form takes the place of another tenant's. -/
theorem run_wellFormed_iff (cap : Nat) (ops : List Op) :
    EveryStep step (fun s op => (s.step op).WellFormed ∧ s.RespectsTenants op) (withCap cap) ops ↔
      EveryStep step KeepsTenant (withCap cap) ops :=
  everyStep_congr_of_invariant (fun _ _ _ kept => kept.1) (fun _ op wf => step_iff wf op)
    (wellFormed_withCap cap)

/-- A user whose one-field form is replaced under another tenant. -/
def movedUser : List Op :=
  let field : FormField := ⟨"name", "Your name", .string, true, none, none, [], .radio⟩
  [.install ⟨1, 42⟩ "echo" [field] "alice" "acme", .install ⟨1, 42⟩ "echo" [field] "alice" "globex"]

/-- The key stays in the old tenant's queue, and the old tenant's next form, at a
cap of one, evicts the form of the other tenant. -/
theorem moved_user_breaks_queues :
    ¬ (run step (withCap 1) movedUser).WellFormed ∧
      ¬ (run step (withCap 1) movedUser).RespectsTenants
        (.install ⟨2, 7⟩ "echo" [⟨"name", "Your name", .string, true, none, none, [], .radio⟩]
          "bob" "acme") := by
  constructor
  · intro wf
    have listed : (⟨1, 42⟩ : FormKey) ∈ (run step (withCap 1) movedUser).queue "acme" := by decide
    obtain ⟨form, found, owner⟩ := (wf.mem_iff _ _).mp listed
    cases found
    revert owner
    decide
  · rintro ⟨_, named⟩
    have := (named ⟨1, 42⟩ "alice" "globex" rfl).2.1
    revert this
    decide

end Triton.Telegram.FormStateStore
