/-
# Texts joined at a separator

Three sequences joined by a separator that may also occur inside them can be cut
apart in several ways. All the ways are regroupings of the same pieces: the
stretches between the separators. The lemmas here say that a triple and its
regroupings are exactly the triples with the same joined form.
-/

import Mathlib.Data.List.Basic

namespace Triton.Lib.Regroup

universe u

variable {α : Type u} [DecidableEq α] (sep : α)

omit [DecidableEq α] in
/-- The first separator tells where a part without one ends. -/
theorem append_sep_inj {x x' y y' : List α} (clean : sep ∉ x) (clean' : sep ∉ x') :
    x ++ sep :: y = x' ++ sep :: y' ↔ x = x' ∧ y = y' := by
  induction x generalizing x' with
  | nil =>
    cases x' with
    | nil => simp
    | cons d x' => simp [List.ne_of_not_mem_cons clean']
  | cons c x ih =>
    cases x' with
    | nil => simp [(List.ne_of_not_mem_cons clean).symm]
    | cons d x' =>
      have step := ih (List.not_mem_of_not_mem_cons clean)
        (List.not_mem_of_not_mem_cons clean')
      simp [step, and_assoc]

/-- Three sequences joined by the separator. -/
def join (x y z : List α) : List α := x ++ sep :: (y ++ sep :: z)

/-- The stretches between the separators of the joined form. -/
def pieces (x y z : List α) : List (List α) := x.splitOn sep ++ (y.splitOn sep ++ z.splitOn sep)

/-- The stretches of a piece list from one cut to the next, joined again. -/
def group (parts : List (List α)) (a b : Nat) : List α × List α × List α :=
  ([sep].intercalate (parts.take a), [sep].intercalate ((parts.drop a).take b),
    [sep].intercalate (parts.drop (a + b)))

theorem splitOn_join (x y z : List α) : (join sep x y z).splitOn sep = pieces sep x y z := by
  simp [join, pieces, List.splitOn_append_cons_self]

theorem join_eq_iff {x y z x' y' z' : List α} :
    join sep x y z = join sep x' y' z' ↔ pieces sep x y z = pieces sep x' y' z' := by
  rw [← splitOn_join, ← splitOn_join]
  constructor
  · exact congrArg _
  · intro same
    calc
      join sep x y z = [sep].intercalate ((join sep x y z).splitOn sep) :=
        (List.intercalate_splitOn sep).symm
      _ = [sep].intercalate ((join sep x' y' z').splitOn sep) := by rw [same]
      _ = join sep x' y' z' := List.intercalate_splitOn sep

/-- No stretch between separators contains one. -/
theorem sep_notMem_of_mem_splitOn {x part : List α} (mem : part ∈ x.splitOn sep) :
    sep ∉ part := by
  induction x generalizing part with
  | nil => simp_all
  | cons head tail ih =>
    rw [List.splitOn_cons_eq_if_modifyHead] at mem
    by_cases cut : head = sep
    · simp only [cut, beq_self_eq_true, if_true, List.mem_cons] at mem
      rcases mem with rfl | mem
      · exact List.not_mem_nil
      · exact ih mem
    · simp only [beq_iff_eq, cut, if_false] at mem
      cases parts : tail.splitOn sep with
      | nil => exact absurd parts (List.splitOn_ne_nil sep tail)
      | cons first rest =>
        rw [parts, List.modifyHead_cons, List.mem_cons] at mem
        rcases mem with rfl | mem
        · have clean : sep ∉ first := ih (parts ▸ List.mem_cons_self)
          simp [clean, Ne.symm cut]
        · exact ih (parts ▸ List.mem_cons_of_mem first mem)

theorem sep_notMem_of_mem_pieces {x y z part : List α} (mem : part ∈ pieces sep x y z) :
    sep ∉ part := by
  rw [← splitOn_join] at mem
  exact sep_notMem_of_mem_splitOn sep mem

omit [DecidableEq α] in
theorem intercalate_append {first second : List (List α)} (left : first ≠ [])
    (right : second ≠ []) :
    [sep].intercalate (first ++ second) =
      [sep].intercalate first ++ sep :: [sep].intercalate second := by
  induction first with
  | nil => exact absurd rfl left
  | cons part parts ih =>
    cases parts with
    | nil => simp [List.intercalate_cons_of_ne_nil right]
    | cons next rest =>
      rw [List.cons_append, List.cons_append, List.intercalate_cons_cons,
        ← List.cons_append, ih (by simp), List.intercalate_cons_cons]
      simp

/-- A division of the pieces into three non-empty stretches. -/
structure Divides (parts : List (List α)) (a b : Nat) : Prop where
  first : 0 < a
  second : 0 < b
  third : a + b < parts.length

omit [DecidableEq α] in
/-- Regrouping does not change the joined form. -/
theorem join_group {parts : List (List α)} {a b : Nat} (divides : Divides parts a b) :
    join sep (group sep parts a b).1 (group sep parts a b).2.1 (group sep parts a b).2.2 =
      [sep].intercalate parts := by
  have := divides.first
  have := divides.second
  have := divides.third
  have third : parts.drop (a + b) ≠ [] := by
    rw [Ne, List.drop_eq_nil_iff]
    omega
  have second : (parts.drop a).take b ≠ [] := by
    rw [Ne, List.take_eq_nil_iff, List.drop_eq_nil_iff]
    omega
  have first : parts.take a ≠ [] := by
    rw [Ne, List.take_eq_nil_iff, ← List.length_eq_zero_iff]
    omega
  have tail : parts.drop a = (parts.drop a).take b ++ parts.drop (a + b) := by
    rw [← List.drop_drop, List.take_append_drop]
  have rest : parts.drop a ≠ [] := by
    rw [Ne, List.drop_eq_nil_iff]
    omega
  conv_rhs =>
    rw [← List.take_append_drop a parts, intercalate_append sep first rest, tail,
      intercalate_append sep second third]
  rfl

/-- Cutting the pieces of a triple where the triple was joined gives it back. -/
theorem group_pieces (x y z : List α) :
    group sep (pieces sep x y z) (x.splitOn sep).length (y.splitOn sep).length = (x, y, z) := by
  have inner : (pieces sep x y z).drop (x.splitOn sep).length =
      y.splitOn sep ++ z.splitOn sep := by
    simp [pieces]
  have outer : (pieces sep x y z).drop ((x.splitOn sep).length + (y.splitOn sep).length) =
      z.splitOn sep := by
    rw [← List.drop_drop, inner, List.drop_left]
  rw [group, inner, outer, List.take_left]
  simp [pieces, List.intercalate_splitOn]

/-- A regrouping is recognised by how many pieces its first two parts hold. -/
theorem length_splitOn_group {x y z : List α} {a b : Nat}
    (divides : Divides (pieces sep x y z) a b) :
    ((group sep (pieces sep x y z) a b).1.splitOn sep).length = a ∧
      ((group sep (pieces sep x y z) a b).2.1.splitOn sep).length = b := by
  have := divides.first
  have := divides.second
  have := divides.third
  constructor
  · have clean : ∀ part ∈ (pieces sep x y z).take a, sep ∉ part := fun part mem =>
      sep_notMem_of_mem_pieces sep (List.mem_of_mem_take mem)
    rw [group, List.splitOn_intercalate sep clean, List.length_take]
    · omega
    · rw [Ne, List.take_eq_nil_iff, ← List.length_eq_zero_iff]
      omega
  · have clean : ∀ part ∈ ((pieces sep x y z).drop a).take b, sep ∉ part := fun part mem =>
      sep_notMem_of_mem_pieces sep (List.mem_of_mem_drop (List.mem_of_mem_take mem))
    rw [group, List.splitOn_intercalate sep clean, List.length_take, List.length_drop]
    · omega
    · rw [Ne, List.take_eq_nil_iff, List.drop_eq_nil_iff]
      omega

theorem divides_pieces (x y z : List α) :
    Divides (pieces sep x y z) (x.splitOn sep).length (y.splitOn sep).length := by
  have nonempty : ∀ w : List α, 0 < (w.splitOn sep).length := fun w =>
    List.length_pos_iff.mpr (List.splitOn_ne_nil sep w)
  refine ⟨nonempty x, nonempty y, ?_⟩
  have := nonempty z
  simp only [pieces, List.length_append]
  omega

/-- No regrouping of the pieces other than the triple itself passes the test on
its last two parts. -/
def Unambiguous (test : List α → List α → Prop) (x y z : List α) : Prop :=
  ∀ a b, Divides (pieces sep x y z) a b →
    test (group sep (pieces sep x y z) a b).2.1 (group sep (pieces sep x y z) a b).2.2 →
    (a, b) = ((x.splitOn sep).length, (y.splitOn sep).length)

/-- A triple is the only one of its joined form that passes the test exactly when
no regrouping of its own pieces does. -/
theorem unambiguous_iff (test : List α → List α → Prop) (x y z : List α) :
    Unambiguous sep test x y z ↔
      ∀ x' y' z', test y' z' → join sep x' y' z' = join sep x y z → (x', y', z') = (x, y, z) := by
  constructor
  · intro unambiguous x' y' z' passes same
    have same_pieces := (join_eq_iff sep).mp same
    have cut := group_pieces sep x' y' z'
    have where_ := unambiguous (x'.splitOn sep).length (y'.splitOn sep).length
      (same_pieces ▸ divides_pieces sep x' y' z')
      (by rw [← same_pieces, cut]; exact passes)
    obtain ⟨first, second⟩ := Prod.mk.inj where_
    rw [← cut, same_pieces, first, second, group_pieces]
  · intro unique a b divides passes
    have same : join sep (group sep (pieces sep x y z) a b).1
        (group sep (pieces sep x y z) a b).2.1 (group sep (pieces sep x y z) a b).2.2 =
          join sep x y z := by
      rw [join_group sep divides, ← splitOn_join, List.intercalate_splitOn]
    have triple := unique _ _ _ passes same
    obtain ⟨first, rest⟩ := Prod.mk.inj triple
    obtain ⟨second, _⟩ := Prod.mk.inj rest
    obtain ⟨countFirst, countSecond⟩ := length_splitOn_group sep divides
    rw [first] at countFirst
    rw [second] at countSecond
    rw [countFirst, countSecond]

/-- Without a separator inside, there is nothing to regroup. -/
theorem unambiguous_of_notMem (test : List α → List α → Prop) {x y z : List α}
    (hx : sep ∉ x) (hy : sep ∉ y) (hz : sep ∉ z) : Unambiguous sep test x y z := by
  intro a b divides _
  have := divides.first
  have := divides.second
  have third := divides.third
  simp only [pieces, List.splitOn_eq_singleton hx, List.splitOn_eq_singleton hy,
    List.splitOn_eq_singleton hz, List.length_append, List.length_singleton] at third ⊢
  exact Prod.ext (by omega) (by omega)

end Triton.Lib.Regroup
