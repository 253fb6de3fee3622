/-
# Text that remembers where it comes from

A text put together from parts of two sources: every character carries a mark that
tells whether it was produced elsewhere. Forgetting the marks gives the text itself.
-/

import Triton.Lib.Text

namespace Triton.Lib

/-- Characters, each with a mark that is set when it was produced elsewhere. -/
abbrev Marked := List (Char × Bool)

namespace Marked

/-- Text of one's own. -/
def own (s : String) : Marked := s.toList.map (·, false)

/-- Text produced elsewhere. -/
def produced (s : String) : Marked := s.toList.map (·, true)

/-- The text without its marks. -/
def plain (m : Marked) : String := String.ofList (m.map Prod.fst)

/-- Length in UTF-8 bytes. -/
def len : Marked → ℕ
  | [] => 0
  | x :: rest => x.1.utf8Size + len rest

/-- The longest run of whole characters that fits into `budget` bytes. -/
def clip : ℕ → Marked → Marked
  | _, [] => []
  | budget, x :: rest =>
    if x.1.utf8Size ≤ budget then x :: clip (budget - x.1.utf8Size) rest else []

theorem plain_append (m n : Marked) : plain (m ++ n) = plain m ++ plain n := by
  simp [plain]

theorem plain_own (s : String) : plain (own s) = s := by
  simp [plain, own, List.map_map, Function.comp_def]

theorem plain_produced (s : String) : plain (produced s) = s := by
  simp [plain, produced, List.map_map, Function.comp_def]

@[simp]
theorem own_append (s t : String) : own (s ++ t) = own s ++ own t := by
  simp [own]

@[simp]
theorem len_nil : len [] = 0 := rfl

@[simp]
theorem len_cons (x : Char × Bool) (m : Marked) : len (x :: m) = x.1.utf8Size + len m := by
  rw [len]

theorem len_append (m n : Marked) : len (m ++ n) = len m + len n := by
  induction m with
  | nil => simp
  | cons x m ih => rw [List.cons_append, len_cons, ih, len_cons, Nat.add_assoc]

theorem mem_own {x : Char × Bool} {s : String} (member : x ∈ own s) :
    x.2 = false ∧ x.1 ∈ s.toList := by
  obtain ⟨c, inside, rfl⟩ := List.mem_map.mp member
  exact ⟨rfl, inside⟩

/-- A text is clipped by cutting off its end. -/
theorem clip_isPrefix (budget : ℕ) (m : Marked) : clip budget m <+: m := by
  induction m generalizing budget with
  | nil => exact List.prefix_rfl
  | cons x rest ih =>
    rw [clip]
    split
    · exact List.cons_prefix_cons.mpr ⟨rfl, ih _⟩
    · exact List.nil_prefix

/-- The cut falls into the first of two texts or into the second. -/
theorem clip_append (budget : ℕ) (m n : Marked) :
    clip budget (m ++ n) =
      if len m ≤ budget then m ++ clip (budget - len m) n else clip budget m := by
  induction m generalizing budget with
  | nil => simp
  | cons x rest ih =>
    simp only [List.cons_append, clip, len_cons]
    by_cases fits : x.1.utf8Size ≤ budget
    · rw [if_pos fits, if_pos fits, ih]
      by_cases more : len rest ≤ budget - x.1.utf8Size
      · rw [if_pos more, if_pos (by omega), Nat.sub_sub]
      · rw [if_neg more, if_neg (by omega)]
    · rw [if_neg fits, if_neg fits, if_neg (by omega)]

theorem clip_of_len_le {budget : ℕ} {m : Marked} (fits : len m ≤ budget) : clip budget m = m := by
  induction m generalizing budget with
  | nil => rfl
  | cons x rest ih =>
    rw [len_cons] at fits
    rw [clip, if_pos (by omega), ih (by omega)]

end Marked

end Triton.Lib
