/-
# Compact JSON texts

The one-line form of a JSON value: no blanks, members in the order the object
keeps them, and in strings the two characters and the controls that have to be
escaped. How a number is written is left open.

Escaping works character by character, so the text of a string grows with the
string, and the escaped form of a beginning is a beginning of the escaped form.
-/

import Mathlib.Data.String.Basic
import Triton.Lib.Json
import Triton.Lib.Text

namespace Triton.Lib

/-- The four-digit escape of a control character. -/
def controlEscape (c : Char) : List Char :=
  ['\\', 'u', '0', '0', (c.toNat / 16).digitChar, (c.toNat % 16).digitChar]

def escapeChar (c : Char) : List Char :=
  if c = '"' then ['\\', '"']
  else if c = '\\' then ['\\', '\\']
  else if c = '\n' then ['\\', 'n']
  else if c = '\r' then ['\\', 'r']
  else if c = '\t' then ['\\', 't']
  else if c.toNat = 8 then ['\\', 'b']
  else if c.toNat = 12 then ['\\', 'f']
  else if c.toNat < 32 then controlEscape c
  else [c]

def escape (text : List Char) : List Char := text.flatMap escapeChar

def quote (s : String) : List Char := '"' :: (escape s.toList ++ ['"'])

/-- Pieces with commas between them. -/
def commas : List (List Char) → List Char := List.intercalate [',']

namespace Value

mutual

/-- The compact text of a value. -/
def compactChars (numberText : Number → String) : Value → List Char
  | .null => "null".toList
  | .bool b => if b then "true".toList else "false".toList
  | .number n => (numberText n).toList
  | .string s => quote s
  | .array items => '[' :: (commas (compactItems numberText items) ++ [']'])
  | .object members => '{' :: (commas (compactMembers numberText members) ++ ['}'])

def compactItems (numberText : Number → String) : List Value → List (List Char)
  | [] => []
  | item :: rest => compactChars numberText item :: compactItems numberText rest

def compactMembers (numberText : Number → String) : List (String × Value) → List (List Char)
  | [] => []
  | (key, value) :: rest =>
    (quote key ++ ':' :: compactChars numberText value) :: compactMembers numberText rest

end

def compact (numberText : Number → String) (value : Value) : String :=
  String.ofList (value.compactChars numberText)

end Value

theorem escape_mono {first second : List Char} (begins : first <+: second) :
    escape first <+: escape second := by
  obtain ⟨rest, rfl⟩ := begins
  rw [escape, escape, List.flatMap_append]
  exact List.prefix_append _ _

theorem escapeChar_ne_nil (c : Char) : escapeChar c ≠ [] := by
  unfold escapeChar controlEscape
  split_ifs <;> simp

/-- Only ASCII characters are escaped. -/
theorem escapeChar_of_wide {c : Char} (wide : 128 ≤ c.toNat) : escapeChar c = [c] := by
  have other : ∀ d : Char, d.toNat < 128 → c ≠ d := by
    intro d narrow same
    exact absurd (same ▸ narrow) (Nat.not_lt.mpr wide)
  unfold escapeChar
  rw [if_neg (other _ (by decide)), if_neg (other _ (by decide)), if_neg (other _ (by decide)),
    if_neg (other _ (by decide)), if_neg (other _ (by decide)), if_neg (by omega),
    if_neg (by omega), if_neg (by omega)]

theorem utf8Size_le_escapeChar (c : Char) : c.utf8Size ≤ String.utf8Len (escapeChar c) := by
  by_cases ascii : c.toNat < 128
  · have single : c.utf8Size = 1 :=
      Char.utf8Size_eq_one_iff.mpr (UInt32.le_iff_toNat_le.mpr (Nat.le_of_lt_succ ascii))
    rw [single]
    exact Nat.pos_of_ne_zero fun empty => escapeChar_ne_nil c (String.utf8Len_eq_zero.mp empty)
  · simp [escapeChar_of_wide (Nat.not_lt.mp ascii)]

theorem len_eq_utf8Len (s : String) : Text.len s = String.utf8Len s.toList := by
  rw [← String.utf8ByteSize_ofList, String.ofList_toList, Text.len]

/-- Escaping makes no text shorter. -/
theorem utf8Len_le_escape (text : List Char) :
    String.utf8Len text ≤ String.utf8Len (escape text) := by
  induction text with
  | nil => exact Nat.le_refl 0
  | cons c rest ih =>
    rw [escape, List.flatMap_cons, String.utf8Len_append, String.utf8Len_cons, Nat.add_comm]
    exact Nat.add_le_add (utf8Size_le_escapeChar c) ih

theorem takeBytes_isPrefix (budget : ℕ) (text : List Char) :
    Text.takeBytes budget text <+: text := by
  induction text generalizing budget with
  | nil => exact List.prefix_rfl
  | cons c rest ih =>
    rw [Text.takeBytes]
    split
    · exact List.cons_prefix_cons.mpr ⟨rfl, ih _⟩
    · exact List.nil_prefix

theorem takeBytes_mono {few more : ℕ} (le : few ≤ more) (text : List Char) :
    Text.takeBytes few text <+: Text.takeBytes more text := by
  induction text generalizing few more with
  | nil => exact List.prefix_rfl
  | cons c rest ih =>
    rw [Text.takeBytes, Text.takeBytes]
    split
    · rw [if_pos (by omega)]
      exact List.cons_prefix_cons.mpr ⟨rfl, ih (by omega)⟩
    · exact List.nil_prefix

/-- Between characters of one byte a text is cut exactly. -/
theorem utf8Len_takeBytes_of_narrow {budget : ℕ} {text : List Char}
    (narrow : ∀ c ∈ text, c.utf8Size = 1) (fills : budget ≤ String.utf8Len text) :
    String.utf8Len (Text.takeBytes budget text) = budget := by
  induction text generalizing budget with
  | nil => exact (Nat.le_zero.mp fills).symm
  | cons c rest ih =>
    obtain ⟨one, others⟩ := List.forall_mem_cons.mp narrow
    rw [String.utf8Len_cons, one] at fills
    rw [Text.takeBytes, one]
    split
    · rw [String.utf8Len_cons, one, ih others (by omega)]
      omega
    · simp only [String.utf8Len_nil]
      omega

theorem takeBytes_eq_self_iff {budget : ℕ} {text : List Char} :
    Text.takeBytes budget text = text ↔ String.utf8Len text ≤ budget := by
  induction text generalizing budget with
  | nil => simp [Text.takeBytes]
  | cons c rest ih =>
    have wide := Char.utf8Size_pos c
    rw [Text.takeBytes, String.utf8Len_cons]
    split
    · rw [List.cons_inj_right, ih]
      omega
    · exact iff_of_false (by simp) (by omega)

/-- What follows does not matter to a cut that the beginning fills. -/
theorem takeBytes_append {budget : ℕ} {first : List Char} (fills : budget ≤ String.utf8Len first)
    (second : List Char) :
    Text.takeBytes budget (first ++ second) = Text.takeBytes budget first := by
  induction first generalizing budget with
  | nil =>
    have none_left : budget = 0 := Nat.le_zero.mp fills
    cases second with
    | nil => rfl
    | cons c rest =>
      have wide := Char.utf8Size_pos c
      simp [Text.takeBytes, none_left, Nat.not_le.mpr wide]
  | cons c rest ih =>
    rw [String.utf8Len_cons] at fills
    rw [List.cons_append, Text.takeBytes, Text.takeBytes, ih (by omega)]

end Triton.Lib
