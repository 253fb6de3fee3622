/-
# Whose task it is

A stored task names its owner by one text: issuer, subject and tenant joined by
a bar. Nothing keeps a bar out of the three parts, and a caller without a
provider is written like one whose provider is called `-`, so the text does not
always determine the caller. This module says for which callers it does.
-/

import Triton.Core.Principal
import Triton.Lib.Regroup

namespace Triton.Tasks

open Triton.Lib
open Triton.Core

/-- The verified issuer, or else the provider's name, or else nothing. -/
def issuerOf (p : Principal) : Option String :=
  p.idp.bind fun i => i.issuer.or (some i.name)

/-- The key a task's reader must match. -/
def ownerKey (p : Principal) : String :=
  (issuerOf p).getD "-" ++ "|" ++ p.sub ++ "|" ++ p.tenant

/-- The three things that tell callers apart. -/
def identity (p : Principal) : Option String × String × String := (issuerOf p, p.sub, p.tenant)

/-- The subject and the tenant of a regrouping pass the resolver boundary. -/
def Acceptable (sub tenant : List Char) : Prop :=
  validateResolved (String.ofList sub) (String.ofList tenant) = .ok ()

/-- A caller is unmistakable when a provider vouches for it under another name
than `-`, and its three parts cannot be cut at other bars into a subject and a
tenant that the resolver boundary accepts. -/
structure Unmistakable (p : Principal) : Prop where
  vouched : ∃ issuer, issuerOf p = some issuer ∧ issuer ≠ "-"
  unambiguous : Regroup.Unambiguous '|' Acceptable ((issuerOf p).getD "-").toList
    p.sub.toList p.tenant.toList

/-- The same caller under other parts; an issuer is the name of a provider that
asserts nothing else. -/
def relabel (p : Principal) (issuer : Option String) (sub tenant : String) : Principal :=
  { p with
    sub := sub
    tenant := tenant
    idp := issuer.map fun name => ⟨name, none, none, none⟩ }

@[simp]
theorem identity_relabel (p : Principal) (issuer : Option String) (sub tenant : String) :
    identity (relabel p issuer sub tenant) = (issuer, sub, tenant) := by
  cases issuer <;> rfl

theorem accepted_relabel (p : Principal) (issuer : Option String) (sub tenant : String) :
    (relabel p issuer sub tenant).Accepted ↔ validateResolved sub tenant = .ok () := Iff.rfl

theorem ownerKey_eq_of_identity {p : Principal} {issuer : Option String} {sub tenant : String}
    (h : identity p = (issuer, sub, tenant)) :
    ownerKey p = issuer.getD "-" ++ "|" ++ sub ++ "|" ++ tenant := by
  obtain ⟨rfl, rfl, rfl⟩ : issuerOf p = issuer ∧ p.sub = sub ∧ p.tenant = tenant := by
    simpa [identity] using h
  rfl

/-- Callers whose issuers are written alike have one key. -/
theorem ownerKey_relabel_issuer (p : Principal) {issuer : Option String}
    (alike : issuer.getD "-" = (issuerOf p).getD "-") :
    ownerKey (relabel p issuer p.sub p.tenant) = ownerKey p := by
  rw [ownerKey_eq_of_identity (identity_relabel p issuer p.sub p.tenant), alike]
  rfl

/-- The key of an accepted caller is its own exactly when the caller is
unmistakable. -/
theorem ownerKey_injective_at_iff {p : Principal} (accepted : p.Accepted) :
    (∀ q : Principal, q.Accepted → ownerKey q = ownerKey p → identity q = identity p) ↔
      Unmistakable p := by
  constructor
  · intro injective
    have vouched : ∃ issuer, issuerOf p = some issuer ∧ issuer ≠ "-" := by
      cases known : issuerOf p with
      | none =>
        -- a provider called `-` writes the same key
        have same := injective (relabel p (some "-") p.sub p.tenant) accepted
          (ownerKey_relabel_issuer p (by rw [known]; rfl))
        rw [identity_relabel] at same
        simp [identity, known] at same
      | some issuer =>
        refine ⟨issuer, rfl, ?_⟩
        rintro rfl
        -- so does a caller without a provider
        have same := injective (relabel p none p.sub p.tenant) accepted
          (ownerKey_relabel_issuer p (by rw [known]; rfl))
        rw [identity_relabel] at same
        simp [identity, known] at same
    refine ⟨vouched, (Regroup.unambiguous_iff '|' Acceptable _ _ _).mpr ?_⟩
    intro issuer sub tenant acceptable same
    have key : ownerKey (relabel p (some (String.ofList issuer)) (String.ofList sub)
        (String.ofList tenant)) = ownerKey p := by
      rw [ownerKey_eq_of_identity (identity_relabel ..), ← String.toList_inj]
      simpa [ownerKey, Regroup.join] using same
    have identical := injective _ ((accepted_relabel ..).mpr acceptable) key
    obtain ⟨known, eq_known, _⟩ := vouched
    rw [identity_relabel, identity, eq_known] at identical
    obtain ⟨rfl, eq_sub, eq_tenant⟩ : String.ofList issuer = known ∧
        String.ofList sub = p.sub ∧ String.ofList tenant = p.tenant := by
      simpa using identical
    simp [eq_known, ← eq_sub, ← eq_tenant]
  · rintro ⟨⟨issuer, known, named⟩, unambiguous⟩ q acceptable same
    rw [Regroup.unambiguous_iff] at unambiguous
    have passes : Acceptable q.sub.toList q.tenant.toList := by
      rw [Acceptable, String.ofList_toList, String.ofList_toList]
      exact acceptable
    rw [← String.toList_inj] at same
    have parts := unambiguous ((issuerOf q).getD "-").toList q.sub.toList q.tenant.toList passes
      (by simpa [ownerKey, Regroup.join] using same)
    simp only [known, Option.getD_some, Prod.mk.injEq, String.toList_inj] at parts
    obtain ⟨eq_issuer, eq_sub, eq_tenant⟩ := parts
    cases known_q : issuerOf q with
    | none =>
      rw [known_q] at eq_issuer
      exact absurd eq_issuer.symm named
    | some other =>
      rw [known_q, Option.getD_some] at eq_issuer
      simp [identity, known, known_q, eq_sub, eq_tenant, eq_issuer]

end Triton.Tasks
