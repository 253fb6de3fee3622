/-
# Texts as bytes

The UTF-8 form of a text. A byte below 128 stands for itself and for nothing
else, so a separator that is an ASCII character can be looked for in the bytes
as well as in the text.
-/

import Triton.Lib.Text

namespace Triton.Lib

abbrev Bytes := List UInt8

namespace Utf8

def encode (s : String) : Bytes := s.toList.flatMap String.utf8EncodeChar

/-- The text some bytes are the form of; `none` when they are not well formed. -/
def decode (bytes : Bytes) : Option String := String.fromUTF8? bytes.toByteArray

@[simp] theorem toByteArray_encode (s : String) : (encode s).toByteArray = s.toByteArray :=
  String.utf8Encode_toList

@[simp] theorem encode_empty : encode "" = [] := rfl

@[simp] theorem encode_append (s t : String) : encode (s ++ t) = encode s ++ encode t := by
  simp [encode]

theorem encode_inj {s t : String} : encode s = encode t ↔ s = t := by
  constructor
  · intro same
    have bytes := congrArg List.toByteArray same
    rw [toByteArray_encode, toByteArray_encode] at bytes
    exact String.toByteArray_inj.mp bytes
  · exact congrArg encode

theorem decode_encode (s : String) : decode (encode s) = some s := by
  rw [decode, toByteArray_encode, String.fromUTF8?, dif_pos s.isValidUTF8]
  rfl

theorem length_encode (s : String) : (encode s).length = Text.len s := by
  have size : (encode s).toByteArray.size = (encode s).length := List.size_toByteArray
  rw [← size, toByteArray_encode]
  rfl

theorem len_append (s t : String) : Text.len (s ++ t) = Text.len s + Text.len t := by
  rw [← length_encode, ← length_encode, ← length_encode, encode_append, List.length_append]

theorem len_ofList_cons (c : Char) (rest : List Char) :
    Text.len (String.ofList (c :: rest)) = c.utf8Size + Text.len (String.ofList rest) := by
  simp [Text.len, String.ofList_cons]

/-- Cutting a longer text at a character boundary loses at most three bytes. -/
theorem len_takeBytes {budget : Nat} {text : List Char}
    (long : budget < Text.len (String.ofList text)) :
    budget ≤ Text.len (String.ofList (Text.takeBytes budget text)) + 3 := by
  induction text generalizing budget with
  | nil => simp [Text.len] at long
  | cons c rest ih =>
    rw [Text.takeBytes]
    rw [len_ofList_cons] at long
    split
    case isTrue fits =>
      have shorter := @ih (budget - c.utf8Size) (by omega)
      rw [len_ofList_cons]
      omega
    case isFalse wide =>
      have narrow := c.utf8Size_le_four
      omega

theorem utf8EncodeChar_ascii {c : Char} (ascii : c.toNat < 128) :
    String.utf8EncodeChar c = [UInt8.ofNat c.toNat] := by
  rw [String.utf8EncodeChar.eq_1]
  exact if_pos (Nat.le_of_lt_succ ascii)

/-- A text in ASCII has a byte for every character. -/
theorem encode_ascii {s : String} (ascii : ∀ c ∈ s.toList, c.toNat < 128) :
    encode s = s.toList.map fun c => UInt8.ofNat c.toNat := by
  rw [encode, List.map_eq_flatMap]
  exact List.flatMap_congr fun c mem => utf8EncodeChar_ascii (ascii c mem)

theorem len_ofList_ascii {text : List Char} (ascii : ∀ c ∈ text, c.toNat < 128) :
    Text.len (String.ofList text) = text.length := by
  rw [← length_encode, encode_ascii (by rwa [String.toList_ofList]), List.length_map,
    String.toList_ofList]

theorem len_replicate {c : Char} (ascii : c.toNat < 128) (n : Nat) :
    Text.len (String.ofList (List.replicate n c)) = n := by
  rw [len_ofList_ascii, List.length_replicate]
  intro d member
  rwa [List.eq_of_mem_replicate member]

/-- Every byte of a character outside ASCII has its high bit set. -/
theorem high_of_mem_utf8EncodeChar {c : Char} {b : UInt8} (wide : 128 ≤ c.toNat)
    (mem : b ∈ String.utf8EncodeChar c) : 128 ≤ b.toNat := by
  have narrow : ¬ c.val.toNat ≤ 127 := Nat.not_le_of_lt wide
  rw [String.utf8EncodeChar.eq_1, if_neg narrow] at mem
  -- the marker added to each byte is at least 128, and no sum reaches 256
  split at mem
  · simp only [List.mem_cons, List.not_mem_nil, or_false] at mem
    rcases mem with rfl | rfl <;> rw [UInt8.toNat_ofNat'] <;> omega
  · split at mem <;> simp only [List.mem_cons, List.not_mem_nil, or_false] at mem
    · rcases mem with rfl | rfl | rfl <;> rw [UInt8.toNat_ofNat'] <;> omega
    · rcases mem with rfl | rfl | rfl | rfl <;> rw [UInt8.toNat_ofNat'] <;> omega

theorem mem_utf8EncodeChar_iff {c d : Char} (ascii : c.toNat < 128) :
    UInt8.ofNat c.toNat ∈ String.utf8EncodeChar d ↔ c = d := by
  have byte : (UInt8.ofNat c.toNat).toNat = c.toNat := by
    rw [UInt8.toNat_ofNat']
    omega
  constructor
  · intro mem
    by_cases other : d.toNat < 128
    · rw [utf8EncodeChar_ascii other, List.mem_singleton] at mem
      have same := congrArg UInt8.toNat mem
      rw [byte, UInt8.toNat_ofNat'] at same
      apply Char.toNat_inj.mp
      omega
    · have := high_of_mem_utf8EncodeChar (Nat.le_of_not_lt other) mem
      omega
  · rintro rfl
    rw [utf8EncodeChar_ascii ascii]
    exact List.mem_singleton_self _

/-- An ASCII character occurs in a text where its byte occurs in the bytes. -/
theorem mem_encode_iff (c : Char) (ascii : c.toNat < 128) (s : String) :
    UInt8.ofNat c.toNat ∈ encode s ↔ c ∈ s.toList := by
  simp [encode, List.mem_flatMap, mem_utf8EncodeChar_iff ascii]

end Utf8

end Triton.Lib
