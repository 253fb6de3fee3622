/-
# Base64 for URLs

The URL-safe alphabet without padding. Three bytes make four symbols; one or two
bytes left over make two or three. The reader is strict: it refuses a symbol
outside the alphabet, a lone last symbol, and bits that no byte accounts for.
-/

import Triton.Lib.Record
import Triton.Lib.Utf8

namespace Triton.Lib.Base64

/-- The symbol of a six-bit value. -/
def symbol (n : ℕ) : Char :=
  if n < 26 then Char.ofNat ('A'.toNat + n)
  else if n < 52 then Char.ofNat ('a'.toNat + (n - 26))
  else if n < 62 then Char.ofNat ('0'.toNat + (n - 52))
  else if n = 62 then '-'
  else '_'

/-- The value of a symbol. -/
def value (c : Char) : Option ℕ :=
  if 'A' ≤ c ∧ c ≤ 'Z' then some (c.toNat - 'A'.toNat)
  else if 'a' ≤ c ∧ c ≤ 'z' then some (c.toNat - 'a'.toNat + 26)
  else if '0' ≤ c ∧ c ≤ '9' then some (c.toNat - '0'.toNat + 52)
  else if c = '-' then some 62
  else if c = '_' then some 63
  else none

/-- The bits of some bytes in groups of six, the last group filled with zeros. -/
def sextets : Bytes → List ℕ
  | a :: b :: c :: rest =>
    a.toNat / 4 :: (a.toNat % 4 * 16 + b.toNat / 16) :: (b.toNat % 16 * 4 + c.toNat / 64) ::
      c.toNat % 64 :: sextets rest
  | [a, b] => [a.toNat / 4, a.toNat % 4 * 16 + b.toNat / 16, b.toNat % 16 * 4]
  | [a] => [a.toNat / 4, a.toNat % 4 * 16]
  | [] => []

/-- The bytes of groups of six bits. Filling bits have to be zero. -/
def ofSextets : List ℕ → Option Bytes
  | w :: x :: y :: z :: rest =>
    (ofSextets rest).map fun later =>
      UInt8.ofNat (w * 4 + x / 16) :: UInt8.ofNat (x % 16 * 16 + y / 4) ::
        UInt8.ofNat (y % 4 * 64 + z) :: later
  | [w, x, y] =>
    if y % 4 = 0 then some [UInt8.ofNat (w * 4 + x / 16), UInt8.ofNat (x % 16 * 16 + y / 4)]
    else none
  | [w, x] => if x % 16 = 0 then some [UInt8.ofNat (w * 4 + x / 16)] else none
  | [_] => none
  | [] => some []

def encode (bytes : Bytes) : String := String.ofList ((sextets bytes).map symbol)

def decode (text : String) : Option Bytes := (text.toList.mapM value).bind ofSextets

theorem value_symbol {n : ℕ} (small : n < 64) : value (symbol n) = some n := by
  have all : ∀ n : Fin 64, value (symbol n) = some n.val := by decide
  exact all ⟨n, small⟩

/-- The alphabet has no full stop. -/
theorem symbol_ne_dot {n : ℕ} (small : n < 64) : symbol n ≠ '.' := by
  have all : ∀ n : Fin 64, symbol n ≠ '.' := by decide
  exact all ⟨n, small⟩

theorem symbol_graphic {n : ℕ} (small : n < 64) : Text.isAsciiGraphic (symbol n) = true := by
  have all : ∀ n : Fin 64, Text.isAsciiGraphic (symbol n) = true := by decide
  exact all ⟨n, small⟩

variable (bytes : Bytes)

theorem sextets_lt : ∀ n ∈ sextets bytes, n < 64 := by
  fun_induction sextets bytes with
  | case1 a b c rest ih =>
    have := a.toNat_lt
    have := b.toNat_lt
    have := c.toNat_lt
    intro n mem
    simp only [List.mem_cons] at mem
    rcases mem with rfl | rfl | rfl | rfl | mem
    · omega
    · omega
    · omega
    · omega
    · exact ih n mem
  | case2 a b =>
    have := a.toNat_lt
    have := b.toNat_lt
    simp only [List.forall_mem_cons]
    exact ⟨by omega, by omega, by omega, by simp⟩
  | case3 a =>
    have := a.toNat_lt
    simp only [List.forall_mem_cons]
    exact ⟨by omega, by omega, by simp⟩
  | case4 => simp

theorem length_sextets : (sextets bytes).length = (4 * bytes.length + 2) / 3 := by
  fun_induction sextets bytes with
  | case1 a b c rest ih =>
    simp only [List.length_cons, ih]
    omega
  | case2 a b | case3 a => simp
  | case4 => rfl

/-- A byte put together from the parts it was taken apart into. -/
theorem ofNat_of_eq {a : UInt8} {n : ℕ} (same : n = a.toNat) : UInt8.ofNat n = a := by
  rw [same, UInt8.ofNat_toNat]

theorem ofSextets_sextets : ofSextets (sextets bytes) = some bytes := by
  fun_induction sextets bytes with
  | case1 a b c rest ih =>
    have := a.toNat_lt
    have := b.toNat_lt
    have := c.toNat_lt
    rw [ofSextets, ih, Option.map_some, ofNat_of_eq (show _ = a.toNat by omega),
      ofNat_of_eq (show _ = b.toNat by omega), ofNat_of_eq (show _ = c.toNat by omega)]
  | case2 a b =>
    have := a.toNat_lt
    have := b.toNat_lt
    rw [ofSextets, if_pos (by omega), ofNat_of_eq (show _ = a.toNat by omega),
      ofNat_of_eq (show _ = b.toNat by omega)]
  | case3 a =>
    have := a.toNat_lt
    rw [ofSextets, if_pos (by omega), ofNat_of_eq (show _ = a.toNat by omega)]
  | case4 => rfl

theorem decode_encode : decode (encode bytes) = some bytes := by
  have values : ((sextets bytes).map symbol).mapM value = some (sextets bytes) :=
    Record.mapM_map fun n mem => value_symbol (sextets_lt bytes n mem)
  rw [decode, encode, String.toList_ofList, values, Option.bind_some, ofSextets_sextets]

/-- Three bytes take four symbols. -/
theorem len_encode : Text.len (encode bytes) = (4 * bytes.length + 2) / 3 := by
  rw [encode, Utf8.len_ofList_ascii, List.length_map, length_sextets]
  intro c mem
  obtain ⟨n, value, rfl⟩ := List.mem_map.mp mem
  have graphic := symbol_graphic (sextets_lt bytes n value)
  simp only [Text.isAsciiGraphic, Bool.and_eq_true, decide_eq_true_eq] at graphic
  omega

theorem dot_notMem_encode : '.' ∉ (encode bytes).toList := by
  rw [encode, String.toList_ofList, List.mem_map]
  intro ⟨n, mem, same⟩
  exact symbol_ne_dot (sextets_lt bytes n mem) same

end Triton.Lib.Base64
