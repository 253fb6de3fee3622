/-
# Trees written as a list

A tree can be sent as a flat list of nodes, each with an id and the ids of its
children. Here the list is written bottom-up: a node is added under an id that is
new, and takes as its children nodes that no other node has taken. The ids that
are not taken yet are open. When the root is the only open id, the list is a tree.
-/

import Mathlib.Algebra.Order.Group.Multiset
import Mathlib.Tactic.Abel

namespace Triton.Lib

section Flat

variable {ι α : Type} (idOf : α → ι) (childrenOf : α → List ι)

/-- The nodes have been added one after the other, and these ids are open. -/
inductive Forest : List α → Multiset ι → Prop
  | nil : Forest [] 0
  | snoc {nodes : List α} {rest : Multiset ι} {node : α} :
      Forest nodes (rest + ↑(childrenOf node)) → idOf node ∉ nodes.map idOf →
        Forest (nodes ++ [node]) (rest + {idOf node})

/-- A node with the first id has the second among its children. -/
def Parent (nodes : List α) (parent child : ι) : Prop :=
  ∃ node ∈ nodes, idOf node = parent ∧ child ∈ childrenOf node

/-- The nodes are a tree below the root: ids are distinct, every child is there,
every node but the root is the child of exactly one node, and all of them are
reached from the root. -/
structure IsTree [DecidableEq ι] (nodes : List α) (root : ι) : Prop where
  distinct : (nodes.map idOf).Nodup
  present : root ∈ nodes.map idOf
  closed : ∀ node ∈ nodes, ∀ child ∈ childrenOf node, child ∈ nodes.map idOf
  once : ∀ node ∈ nodes, idOf node ≠ root → (nodes.flatMap childrenOf).count (idOf node) = 1
  top : root ∉ nodes.flatMap childrenOf
  reached : ∀ node ∈ nodes, Relation.ReflTransGen (Parent idOf childrenOf nodes) root (idOf node)

end Flat

namespace Forest

variable {ι α : Type} {idOf : α → ι} {childrenOf : α → List ι} {nodes : List α}
  {roots : Multiset ι}

/-- A node that takes every open id is the only one open. -/
theorem close {node : α} {id : ι} (named : idOf node = id)
    (forest : Forest idOf childrenOf nodes ↑(childrenOf node)) (fresh : id ∉ nodes.map idOf) :
    Forest idOf childrenOf (nodes ++ [node]) {id} := by
  subst named
  rw [← zero_add (↑(childrenOf node) : Multiset ι)] at forest
  rw [← zero_add ({idOf node} : Multiset ι)]
  exact forest.snoc fresh

theorem distinct (forest : Forest idOf childrenOf nodes roots) : (nodes.map idOf).Nodup := by
  induction forest with
  | nil => exact List.nodup_nil
  | snoc _ fresh ih =>
    rw [List.map_append, List.map_singleton]
    exact List.nodup_append.mpr ⟨ih, List.nodup_singleton _, by
      rintro a member b single rfl
      exact fresh (List.mem_singleton.mp single ▸ member)⟩

/-- Every id is open or taken, and never both or twice. -/
theorem balance (forest : Forest idOf childrenOf nodes roots) :
    roots + ↑(nodes.flatMap childrenOf) = (↑(nodes.map idOf) : Multiset ι) := by
  induction forest with
  | nil => rfl
  | @snoc nodes rest node _ _ ih =>
    rw [List.flatMap_append, List.map_append, ← Multiset.coe_add, ← Multiset.coe_add, ← ih]
    simp only [List.flatMap_singleton, List.map_singleton, Multiset.coe_singleton]
    abel

theorem parent_mono {more : List α} {parent child : ι} (within : nodes ⊆ more)
    (edge : Parent idOf childrenOf nodes parent child) :
    Parent idOf childrenOf more parent child := by
  obtain ⟨node, member, named, taken⟩ := edge
  exact ⟨node, within member, named, taken⟩

/-- A node is reached from an open id. The node added last is the parent of what
it takes, so a path that began at a child now begins there. -/
theorem reached (forest : Forest idOf childrenOf nodes roots) :
    ∀ node ∈ nodes, ∃ root ∈ roots,
      Relation.ReflTransGen (Parent idOf childrenOf nodes) root (idOf node) := by
  induction forest with
  | nil =>
    intro node member
    cases member
  | @snoc nodes rest last _ _ ih =>
    have grown : nodes ⊆ nodes ++ [last] := List.subset_append_left _ _
    intro node member
    rcases List.mem_append.mp member with earlier | added
    · obtain ⟨root, isOpen, path⟩ := ih node earlier
      have path := Relation.ReflTransGen.mono (fun _ _ => parent_mono grown) _ _ path
      rcases Multiset.mem_add.mp isOpen with kept | taken
      · exact ⟨root, Multiset.mem_add.mpr (.inl kept), path⟩
      · have edge : Parent idOf childrenOf (nodes ++ [last]) (idOf last) root :=
          ⟨last, List.mem_append_right _ List.mem_cons_self, rfl, Multiset.mem_coe.mp taken⟩
        exact ⟨idOf last, Multiset.mem_add.mpr (.inr (Multiset.mem_singleton_self _)),
          path.head edge⟩
    · cases List.mem_singleton.mp added
      exact ⟨idOf last, Multiset.mem_add.mpr (.inr (Multiset.mem_singleton_self _)), .refl⟩

theorem isTree [DecidableEq ι] {root : ι} (forest : Forest idOf childrenOf nodes {root}) :
    IsTree idOf childrenOf nodes root := by
  have balance := forest.balance
  have count (id : ι) : Multiset.count id {root} + (nodes.flatMap childrenOf).count id =
      (nodes.map idOf).count id := by
    rw [← Multiset.coe_count, ← Multiset.coe_count, ← Multiset.count_add, balance]
  constructor
  case distinct => exact forest.distinct
  case present =>
    rw [← Multiset.mem_coe, ← balance]
    exact Multiset.mem_add.mpr (.inl (Multiset.mem_singleton_self root))
  case closed =>
    intro node member child taken
    rw [← Multiset.mem_coe, ← balance]
    exact Multiset.mem_add.mpr
      (.inr (Multiset.mem_coe.mpr (List.mem_flatMap.mpr ⟨node, member, taken⟩)))
  case once =>
    intro node member other
    have once := List.count_eq_one_of_mem forest.distinct (List.mem_map_of_mem member)
    rw [← count, Multiset.count_singleton, if_neg other, Nat.zero_add] at once
    exact once
  case top =>
    intro taken
    have twice := count root
    have most := List.nodup_iff_count_le_one.mp forest.distinct root
    have some_time := List.count_pos_iff.mpr taken
    rw [Multiset.count_singleton_self] at twice
    omega
  case reached =>
    intro node member
    obtain ⟨first, isOpen, path⟩ := forest.reached node member
    rwa [Multiset.mem_singleton.mp isOpen] at path

end Forest

end Triton.Lib
