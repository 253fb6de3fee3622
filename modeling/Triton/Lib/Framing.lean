/-
# Input cut into frames

A stream of symbols is cut into frames by separators, each frame ending where
the first separator starts. A reader gets the stream in pieces and has to find
the frames in what it has so far. When no separator occurs inside another one,
what has been read settles every frame that ends within it, and the pieces make
no difference.
-/

import Mathlib.Data.List.Infix

namespace Triton.Lib

universe u

variable {α : Type u}

/-- A separator of length `width` starts at position `stop`. -/
def Separated (separators : List (List α)) (input : List α) (stop width : ℕ) : Prop :=
  ∃ separator ∈ separators, separator.length = width ∧ separator <+: input.drop stop

/-- The first separator of an input. -/
structure FirstSeparator (separators : List (List α)) (input : List α) (stop width : ℕ) : Prop where
  here : Separated separators input stop width
  first : ∀ earlier < stop, ∀ width', ¬ Separated separators input earlier width'

/-- Separators together with a search for the first one. -/
structure Framing (α : Type u) where
  separators : List (List α)
  nonempty : [] ∉ separators
  unnested : ∀ p ∈ separators, ∀ q ∈ separators, p <:+: q → p = q
  cut : List α → Option (ℕ × ℕ)
  sound : ∀ {input stop width}, cut input = some (stop, width) →
    FirstSeparator separators input stop width
  complete : ∀ {input}, cut input = none → ∀ stop width, ¬ Separated separators input stop width

theorem Separated.append {separators : List (List α)} {input : List α} {stop width : ℕ}
    (separated : Separated separators input stop width) (bound : stop ≤ input.length)
    (more : List α) : Separated separators (input ++ more) stop width := by
  obtain ⟨separator, mem, length, starts⟩ := separated
  refine ⟨separator, mem, length, ?_⟩
  rw [List.drop_append_of_le_length bound]
  exact starts.trans (List.prefix_append _ _)

/-- A separator that ends within the first part of an input is in that part. -/
theorem Separated.of_append {separators : List (List α)} {input more : List α} {stop width : ℕ}
    (separated : Separated separators (input ++ more) stop width)
    (bound : stop + width ≤ input.length) : Separated separators input stop width := by
  obtain ⟨separator, mem, length, starts⟩ := separated
  refine ⟨separator, mem, length, ?_⟩
  rw [List.drop_append_of_le_length (by omega)] at starts
  apply List.prefix_of_prefix_length_le starts (List.prefix_append _ _)
  rw [List.length_drop]
  omega

namespace Framing

variable (framing : Framing α) {input more : List α} {stop width : ℕ}

theorem separated_inside (separated : Separated framing.separators input stop width) :
    0 < width ∧ stop + width ≤ input.length := by
  obtain ⟨separator, mem, rfl, starts⟩ := separated
  have positive : 0 < separator.length := by
    apply List.length_pos_of_ne_nil
    rintro rfl
    exact framing.nonempty mem
  have fits := starts.length_le
  rw [List.length_drop] at fits
  omega

/-- Of two separators the one that starts no later does not reach beyond the
other: it would contain it. -/
theorem separated_le {stop' width' : ℕ} (separated : Separated framing.separators input stop width)
    (other : Separated framing.separators input stop' width') (order : stop ≤ stop') :
    stop + width ≤ stop' + width' := by
  obtain ⟨separator, mem, rfl, starts⟩ := separated
  obtain ⟨separator', mem', rfl, starts'⟩ := other
  by_contra beyond
  have offset : input.drop stop' = (input.drop stop).drop (stop' - stop) := by
    rw [List.drop_drop, Nat.add_sub_cancel' order]
  have tail : separator.drop (stop' - stop) <+: input.drop stop' := by
    rw [offset]
    exact starts.drop _
  have inside : separator' <+: separator.drop (stop' - stop) := by
    apply List.prefix_of_prefix_length_le starts' tail
    rw [List.length_drop]
    omega
  have same : separator' = separator :=
    framing.unnested _ mem' _ mem (inside.isInfix.trans (List.drop_suffix _ _).isInfix)
  subst same
  omega

theorem cut_eq_some_iff :
    framing.cut input = some (stop, width) ↔
      FirstSeparator framing.separators input stop width := by
  constructor
  · exact framing.sound
  · intro first
    cases found : framing.cut input with
    | none => exact absurd first.here (framing.complete found _ _)
    | some answer =>
      obtain ⟨stop', width'⟩ := answer
      have one := framing.sound found
      have same : stop' = stop := by
        apply Nat.le_antisymm
        · exact Nat.le_of_not_lt fun lt => one.first _ lt _ first.here
        · exact Nat.le_of_not_lt fun lt => first.first _ lt _ one.here
      have le := framing.separated_le one.here first.here same.le
      have ge := framing.separated_le first.here one.here same.ge
      have same' : width' = width := by omega
      rw [same, same']

theorem cut_inside (found : framing.cut input = some (stop, width)) :
    0 < width ∧ stop + width ≤ input.length :=
  framing.separated_inside (framing.sound found).here

/-- A frame that ends within the first part of an input is found in that part,
and no input that follows changes the answer. -/
theorem cut_append_iff (bound : stop + width ≤ input.length) :
    framing.cut (input ++ more) = some (stop, width) ↔
      framing.cut input = some (stop, width) := by
  rw [cut_eq_some_iff, cut_eq_some_iff]
  constructor
  · intro first
    refine ⟨first.here.of_append bound, fun earlier lt width' separated => ?_⟩
    exact first.first earlier lt width' (separated.append (by omega) more)
  · intro first
    have here := first.here.append (by omega) more
    refine ⟨here, fun earlier lt width' separated => ?_⟩
    have within := framing.separated_le separated here lt.le
    exact first.first earlier lt width' (separated.of_append (by omega))

/-- Cut an input into frames, each with its separator, and an unfinished rest. -/
def split (input : List α) : List (List α × List α) × List α :=
  match _found : framing.cut input with
  | none => ([], input)
  | some (stop, width) =>
    let later := split (input.drop (stop + width))
    ((input.take stop, (input.drop stop).take width) :: later.1, later.2)
termination_by input.length
decreasing_by
  have inside := framing.cut_inside _found
  rw [List.length_drop]
  omega

theorem split_of_none (found : framing.cut input = none) : framing.split input = ([], input) := by
  rw [split]
  split
  · rfl
  · simp_all

theorem split_of_some (found : framing.cut input = some (stop, width)) :
    framing.split input =
      ((input.take stop, (input.drop stop).take width) ::
          (framing.split (input.drop (stop + width))).1,
        (framing.split (input.drop (stop + width))).2) := by
  rw [split]
  split
  · simp_all
  · rename_i found'
    rw [found] at found'
    cases found'
    rfl

/-- What is left after the last frame holds no frame. -/
theorem cut_rest (input : List α) : framing.cut (framing.split input).2 = none := by
  induction input using split.induct framing with
  | case1 input found => rw [framing.split_of_none found, found]
  | case2 input stop width found ih => rw [framing.split_of_some found]; exact ih

/-- Cutting may stop anywhere and go on with the rest. -/
theorem split_append (input more : List α) :
    framing.split (input ++ more) =
      ((framing.split input).1 ++ (framing.split ((framing.split input).2 ++ more)).1,
        (framing.split ((framing.split input).2 ++ more)).2) := by
  induction input using split.induct framing with
  | case1 input found => simp [framing.split_of_none found]
  | case2 input stop width found ih =>
    have inside := (framing.cut_inside found).2
    have found' : framing.cut (input ++ more) = some (stop, width) :=
      (framing.cut_append_iff inside).mpr found
    have separator : ((input ++ more).drop stop).take width = (input.drop stop).take width := by
      rw [List.drop_append_of_le_length (by omega),
        List.take_append_of_le_length (by rw [List.length_drop]; omega)]
    rw [framing.split_of_some found, framing.split_of_some found',
      List.take_append_of_le_length (by omega), separator,
      List.drop_append_of_le_length inside, ih]
    rfl

/-- A frame with its separator in front of an input is the first one of the whole. -/
theorem split_frame_append {frame separator : List α}
    (found : framing.cut (frame ++ separator) = some (frame.length, separator.length))
    (more : List α) :
    framing.split (frame ++ separator ++ more) =
      ((frame, separator) :: (framing.split more).1, (framing.split more).2) := by
  have found' : framing.cut (frame ++ separator ++ more) =
      some (frame.length, separator.length) :=
    (framing.cut_append_iff (by simp)).mpr found
  rw [framing.split_of_some found', ← List.length_append, List.drop_left, List.append_assoc,
    List.take_left, List.drop_left, List.take_left]

/-- Every frame together with its separator, and the rest, is at most `cap` long. -/
structure Fits (cap : ℕ) (input : List α) : Prop where
  frames : ∀ piece ∈ (framing.split input).1, piece.1.length + piece.2.length ≤ cap
  rest : (framing.split input).2.length ≤ cap

theorem fits_of_length_le {cap : ℕ} (short : input.length ≤ cap) : framing.Fits cap input := by
  induction input using split.induct framing with
  | case1 input found =>
    constructor
    · simp [framing.split_of_none found]
    · rw [framing.split_of_none found]
      exact short
  | case2 input stop width found ih =>
    have inside := (framing.cut_inside found).2
    obtain ⟨frames, rest⟩ := ih (by rw [List.length_drop]; omega)
    constructor
    · intro piece mem
      rw [framing.split_of_some found, List.mem_cons] at mem
      rcases mem with rfl | mem
      · simp only [List.length_take, List.length_drop]
        omega
      · exact frames piece mem
    · rw [framing.split_of_some found]
      exact rest

/-- What a reader holds back never exceeds what the frames of the whole input
need. -/
theorem length_rest_le {cap : ℕ} (fits : framing.Fits cap (input ++ more)) :
    (framing.split input).2.length ≤ cap := by
  obtain ⟨frames, rest⟩ := fits
  have held := framing.cut_rest input
  rw [split_append] at frames rest
  set left := (framing.split input).2
  cases found : framing.cut (left ++ more) with
  | none =>
    rw [framing.split_of_none found, List.length_append] at rest
    omega
  | some answer =>
    obtain ⟨stop, width⟩ := answer
    have inside := (framing.cut_inside found).2
    have first := frames ((left ++ more).take stop, ((left ++ more).drop stop).take width)
      (by simp [framing.split_of_some found])
    rw [List.length_take, List.length_take, List.length_drop] at first
    -- a separator within what is held would have been found there
    by_contra beyond
    have found' := (framing.cut_append_iff (by omega)).mp found
    rw [held] at found'
    cases found'

/-- The frames still to come fit as well. -/
theorem Fits.rest_append {cap : ℕ} (fits : framing.Fits cap (input ++ more)) :
    framing.Fits cap ((framing.split input).2 ++ more) := by
  obtain ⟨frames, rest⟩ := fits
  rw [split_append] at frames rest
  exact ⟨fun piece mem => frames piece (List.mem_append_right _ mem), rest⟩

end Framing

section Search

variable [DecidableEq α] {pattern input : List α}

/-- Where a pattern first occurs in an input. -/
def position (pattern input : List α) : Option ℕ := input.tails.findIdx? pattern.isPrefixOf

theorem position_eq_some {i : ℕ} (found : position pattern input = some i) :
    pattern <+: input.drop i ∧ ∀ j < i, ¬ pattern <+: input.drop j := by
  obtain ⟨bound, here, first⟩ := List.findIdx?_eq_some_iff_getElem.mp found
  simp only [List.getElem_tails, List.isPrefixOf_iff_prefix] at here first
  exact ⟨here, first⟩

theorem position_eq_none (nonempty : pattern ≠ []) (found : position pattern input = none)
    (i : ℕ) : ¬ pattern <+: input.drop i := by
  intro here
  have bound : i < input.tails.length := by
    have fits := here.length_le
    have := List.length_pos_of_ne_nil nonempty
    rw [List.length_drop] at fits
    rw [List.length_tails]
    omega
  have absent := List.findIdx?_eq_none_iff.mp found _ (List.getElem_mem bound)
  rw [List.getElem_tails] at absent
  rw [List.isPrefixOf_iff_prefix.mpr here] at absent
  cases absent

omit [DecidableEq α] in
/-- A pattern does not start where its first symbol does not occur. -/
theorem not_starts_of_notMem {c : α} {front : List α} (absent : c ∉ front) {i : ℕ}
    (lt : i < front.length) (pattern more : List α) :
    ¬ c :: pattern <+: (front ++ more).drop i := by
  intro starts
  rw [List.drop_append_of_le_length lt.le, List.drop_eq_getElem_cons lt, List.cons_append,
    List.cons_prefix_cons] at starts
  exact absent (starts.1 ▸ List.getElem_mem lt)

end Search

end Triton.Lib
