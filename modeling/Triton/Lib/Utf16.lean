/-
# Texts as a script engine sees them

The UTF-16 form of a text. A scalar value outside the basic plane becomes a pair
of surrogates, which are no scalar values, so the form of a text determines it. A
test that every unit of a character passes or fails alike can be made on the units
as well as on the characters.
-/

import Triton.Lib.Text

namespace Triton.Lib

abbrev Units := List UInt16

namespace Utf16

/-- The code units of one character. -/
def units (c : Char) : Units :=
  if c.toNat < 0x10000 then [UInt16.ofNat c.toNat]
  else
    let rest := c.toNat - 0x10000
    [UInt16.ofNat (0xD800 + rest / 0x400), UInt16.ofNat (0xDC00 + rest % 0x400)]

def encode (s : String) : Units := s.toList.flatMap units

/-- Remove the units at both ends that pass a test. -/
def trimWhile (p : UInt16 → Bool) (text : Units) : Units := (text.dropWhile p).rdropWhile p

@[simp] theorem encode_empty : encode "" = [] := rfl

@[simp] theorem encode_append (s t : String) : encode (s ++ t) = encode s ++ encode t := by
  simp [encode]

@[simp] theorem encode_push (s : String) (c : Char) : encode (s.push c) = encode s ++ units c := by
  simp [encode]

theorem encode_ofList (text : List Char) : encode (String.ofList text) = text.flatMap units := by
  rw [encode, String.toList_ofList]

theorem units_ne_nil (c : Char) : units c ≠ [] := by
  unfold units
  split <;> exact List.cons_ne_nil _ _

theorem toNat_small {n : ℕ} (small : n < 0x10000) : (UInt16.ofNat n).toNat = n :=
  UInt16.toNat_ofNat_of_lt' small

theorem toNat_lt_planes (c : Char) : c.toNat < 0x110000 := by
  rcases c.valid with low | ⟨_, high⟩
  · exact Nat.lt_trans low (by decide)
  · exact high

/-- No character is a surrogate. -/
theorem not_surrogate (c : Char) : c.toNat < 0xD800 ∨ 0xE000 ≤ c.toNat := by
  rcases c.valid with low | ⟨above, _⟩
  · exact .inl low
  · exact .inr above

/-- The units of a character tell where they end and which character they are. -/
theorem units_append_inj {c d : Char} {rest other : Units}
    (same : units c ++ rest = units d ++ other) : c = d ∧ rest = other := by
  have boundC := toNat_lt_planes c
  have boundD := toNat_lt_planes d
  have scalarC := not_surrogate c
  have scalarD := not_surrogate d
  unfold units at same
  split at same <;> split at same
  case isTrue.isTrue small less =>
    obtain ⟨first, tail⟩ := List.cons.inj same
    have value := congrArg UInt16.toNat first
    rw [toNat_small small, toNat_small less] at value
    exact ⟨Char.toNat_inj.mp value, tail⟩
  case isTrue.isFalse small large =>
    have value := congrArg UInt16.toNat (List.cons.inj same).1
    rw [toNat_small small, toNat_small (by omega)] at value
    omega
  case isFalse.isTrue large small =>
    have value := congrArg UInt16.toNat (List.cons.inj same).1
    rw [toNat_small (by omega), toNat_small small] at value
    omega
  case isFalse.isFalse large more =>
    obtain ⟨first, second⟩ := List.cons.inj same
    obtain ⟨second, tail⟩ := List.cons.inj second
    have high := congrArg UInt16.toNat first
    have low := congrArg UInt16.toNat second
    rw [toNat_small (by omega), toNat_small (by omega)] at high low
    exact ⟨Char.toNat_inj.mp (by omega), tail⟩

theorem encode_inj {s t : String} : encode s = encode t ↔ s = t := by
  have injective : ∀ {first second : List Char},
      first.flatMap units = second.flatMap units → first = second := by
    intro first
    induction first with
    | nil =>
      intro second same
      cases second with
      | nil => rfl
      | cons d rest => simp [units_ne_nil] at same
    | cons c first ih =>
      intro second same
      cases second with
      | nil => simp [units_ne_nil] at same
      | cons d second =>
        obtain ⟨rfl, rest⟩ := units_append_inj same
        rw [ih rest]
  exact ⟨fun same => String.toList_inj.mp (injective same), congrArg encode⟩

theorem encode_eq_nil_iff (s : String) : encode s = [] ↔ s = "" := encode_inj (t := "")

/-! ## Trimming -/

theorem dropWhile_flatMap {α β : Type} {f : α → List β} {p : β → Bool} {q : α → Bool}
    (nonempty : ∀ a, f a ≠ []) (same : ∀ a, ∀ b ∈ f a, p b = q a) (items : List α) :
    (items.flatMap f).dropWhile p = (items.dropWhile q).flatMap f := by
  induction items with
  | nil => rfl
  | cons a rest ih =>
    rw [List.flatMap_cons, List.dropWhile_cons]
    split
    · rename_i dropped
      rw [List.dropWhile_append_of_pos fun b member => (same a b member).trans dropped, ih]
    · rename_i kept
      obtain ⟨b, others, first⟩ := List.exists_cons_of_ne_nil (nonempty a)
      have stays : ¬p b = true := by rwa [same a b (first ▸ List.mem_cons_self)]
      rw [List.flatMap_cons, first, List.cons_append, List.dropWhile_cons_of_neg stays]

theorem rdropWhile_flatMap {α β : Type} {f : α → List β} {p : β → Bool} {q : α → Bool}
    (nonempty : ∀ a, f a ≠ []) (same : ∀ a, ∀ b ∈ f a, p b = q a) (items : List α) :
    (items.flatMap f).rdropWhile p = (items.rdropWhile q).flatMap f := by
  have backwards := dropWhile_flatMap (f := fun a => (f a).reverse)
    (fun a => mt List.reverse_eq_nil_iff.mp (nonempty a))
    (fun a b member => same a b (List.mem_reverse.mp member)) items.reverse
  rw [List.rdropWhile, List.rdropWhile, List.reverse_flatMap]
  exact (congrArg List.reverse backwards).trans (by simp [List.reverse_flatMap, Function.comp_def])

/-- White space is trimmed from the units as from the text. -/
theorem trimWhile_encode {p : UInt16 → Bool}
    (same : ∀ c, ∀ u ∈ units c, p u = Text.isWhitespace c) (s : String) :
    trimWhile p (encode s) = encode (Text.trim s) := by
  rw [trimWhile, encode, dropWhile_flatMap units_ne_nil same, rdropWhile_flatMap units_ne_nil same,
    Text.trim, encode_ofList]

end Utf16

end Triton.Lib
