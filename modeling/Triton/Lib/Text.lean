/-
# Text as the standard library sees it

Strings are sequences of Unicode scalar values; a length is a count of UTF-8
bytes. The functions follow the documented behaviour of the standard string
library the modelled code is written against: the Unicode white-space and
control classes, trimming, ASCII case folding, splitting at a separator, cutting
at a character boundary, and the grammar of decimal integers.
-/

import Mathlib.Data.List.DropRight

namespace Triton.Lib.Text

/-- The Unicode `White_Space` property. -/
def isWhitespace (c : Char) : Bool :=
  let n := c.toNat
  (0x09 ≤ n && n ≤ 0x0D) || n == 0x20 || n == 0x85 || n == 0xA0 || n == 0x1680 ||
    (0x2000 ≤ n && n ≤ 0x200A) || n == 0x2028 || n == 0x2029 || n == 0x202F ||
    n == 0x205F || n == 0x3000

/-- The Unicode control class `Cc`. -/
def isControl (c : Char) : Bool :=
  let n := c.toNat
  n < 0x20 || (0x7F ≤ n && n ≤ 0x9F)

/-- The five ASCII white-space characters; the vertical tab is not one. -/
def isAsciiWhitespace (c : Char) : Bool :=
  let n := c.toNat
  n == 0x20 || n == 0x09 || n == 0x0A || n == 0x0C || n == 0x0D

/-- The visible ASCII characters, without the space. -/
def isAsciiGraphic (c : Char) : Bool := 33 ≤ c.toNat && c.toNat ≤ 126

/-- Length in UTF-8 bytes. -/
def len (s : String) : Nat := s.utf8ByteSize

/-- Remove white space at both ends. -/
def trim (s : String) : String :=
  String.ofList ((s.toList.dropWhile isWhitespace).rdropWhile isWhitespace)

/-- Remove white space at the start. -/
def trimStart (s : String) : String := String.ofList (s.toList.dropWhile isWhitespace)

/-- Remove white space at the end. -/
def trimEnd (s : String) : String := String.ofList (s.toList.rdropWhile isWhitespace)

/-- Remove every leading occurrence of one character. -/
def trimStartMatches (c : Char) (s : String) : String :=
  String.ofList (s.toList.dropWhile (· == c))

/-- Remove every trailing occurrence of one character. -/
def trimEndMatches (c : Char) (s : String) : String :=
  String.ofList (s.toList.rdropWhile (· == c))

variable {c : Char} {s : String}

theorem dropWhile_of_notMem {text : List Char} (absent : c ∉ text) :
    text.dropWhile (· == c) = text := by
  rw [List.dropWhile_eq_self_iff]
  intro nonempty
  simp only [beq_iff_eq]
  rintro rfl
  exact absent (List.getElem_mem nonempty)

theorem rdropWhile_of_notMem {text : List Char} (absent : c ∉ text) :
    text.rdropWhile (· == c) = text := by
  rw [List.rdropWhile_eq_self_iff]
  intro nonempty
  simp only [beq_iff_eq]
  rintro rfl
  exact absent (List.getLast_mem nonempty)

theorem mem_of_mem_trim (member : c ∈ (trim s).toList) : c ∈ s.toList := by
  rw [trim, String.toList_ofList] at member
  exact (List.dropWhile_sublist _).mem ((List.rdropWhile_prefix _ _).sublist.mem member)

theorem mem_dropWhile_of_not {α : Type} {p : α → Bool} {a : α} {l : List α} (member : a ∈ l)
    (kept : p a = false) : a ∈ l.dropWhile p := by
  rw [← List.takeWhile_append_dropWhile (p := p) (l := l), List.mem_append] at member
  refine member.resolve_left fun taken => ?_
  rw [List.mem_takeWhile_imp taken] at kept
  cases kept

/-- Trimming takes away white space only. -/
theorem mem_trim (member : c ∈ s.toList) (solid : isWhitespace c = false) :
    c ∈ (trim s).toList := by
  rw [trim, String.toList_ofList, List.rdropWhile, List.mem_reverse]
  apply mem_dropWhile_of_not _ solid
  rw [List.mem_reverse]
  exact mem_dropWhile_of_not member solid

theorem eq_of_mem_repeated {d : Char} {n : Nat}
    (member : d ∈ (String.ofList (List.replicate n c)).toList) : d = c := by
  rw [String.toList_ofList] at member
  exact List.eq_of_mem_replicate member

/-- Without white space there is nothing to remove. -/
theorem trim_of_no_whitespace (clean : ∀ c ∈ s.toList, isWhitespace c = false) : trim s = s := by
  have front : s.toList.dropWhile isWhitespace = s.toList := by
    rw [List.dropWhile_eq_self_iff]
    intro nonempty
    simp [clean _ (List.getElem_mem nonempty)]
  have back : s.toList.rdropWhile isWhitespace = s.toList := by
    rw [List.rdropWhile_eq_self_iff]
    intro nonempty
    simp [clean _ (List.getLast_mem nonempty)]
  rw [trim, front, back, String.ofList_toList]

/-- Fold the ASCII letters to lower case and leave everything else. -/
def toAsciiLowercase (s : String) : String :=
  String.ofList (s.toList.map Char.toLower)

def eqIgnoreAsciiCase (s t : String) : Bool :=
  toAsciiLowercase s == toAsciiLowercase t

theorem toNat_toLower (c : Char) :
    c.toLower.toNat = if 65 ≤ c.toNat ∧ c.toNat ≤ 90 then c.toNat + 32 else c.toNat := by
  have bounds : (c.val ≥ 'A'.val ∧ c.val ≤ 'Z'.val) ↔ (65 ≤ c.toNat ∧ c.toNat ≤ 90) := by
    simp only [ge_iff_le, UInt32.le_iff_toNat_le]
    rfl
  unfold Char.toLower
  by_cases upper : c.val ≥ 'A'.val ∧ c.val ≤ 'Z'.val
  · rw [dif_pos upper, if_pos (bounds.mp upper)]
    have small := (bounds.mp upper).2
    change (c.val + 32).toNat = c.val.toNat + 32
    rw [UInt32.toNat_add]
    change (c.val.toNat + 32) % 4294967296 = c.val.toNat + 32
    have : c.val.toNat ≤ 90 := small
    omega
  · rw [dif_neg upper, if_neg (mt bounds.mpr upper)]

theorem isWhitespace_toLower (c : Char) : isWhitespace c.toLower = isWhitespace c := by
  unfold isWhitespace
  simp only [toNat_toLower]
  split
  case isTrue => grind
  case isFalse => rfl

theorem toLower_toLower (c : Char) : c.toLower.toLower = c.toLower := by
  apply Char.toNat_inj.mp
  rw [toNat_toLower c.toLower, toNat_toLower]
  by_cases upper : 65 ≤ c.toNat ∧ c.toNat ≤ 90
  · rw [if_pos upper, if_neg (by omega)]
  · rw [if_neg upper, if_neg upper]

/-- Trimming looks at white space only, which has no case. -/
theorem trim_toAsciiLowercase (s : String) :
    trim (toAsciiLowercase s) = toAsciiLowercase (trim s) := by
  have same : isWhitespace ∘ Char.toLower = isWhitespace := funext isWhitespace_toLower
  simp only [trim, toAsciiLowercase, String.toList_ofList, List.rdropWhile, List.dropWhile_map,
    ← List.map_reverse, same]

theorem isEmpty_toAsciiLowercase (s : String) : (toAsciiLowercase s).isEmpty = s.isEmpty := by
  rw [Bool.eq_iff_iff, String.isEmpty_iff, String.isEmpty_iff, ← String.toList_eq_nil_iff,
    ← String.toList_eq_nil_iff, toAsciiLowercase, String.toList_ofList, List.map_eq_nil_iff]

theorem toAsciiLowercase_toAsciiLowercase (s : String) :
    toAsciiLowercase (toAsciiLowercase s) = toAsciiLowercase s := by
  have twice : Char.toLower ∘ Char.toLower = Char.toLower := funext toLower_toLower
  simp [toAsciiLowercase, twice]

/-- What is left after trimming starts and ends with a character that stays. -/
theorem trim_trim (s : String) : trim (trim s) = trim s := by
  have start : ((s.toList.dropWhile isWhitespace).rdropWhile isWhitespace).dropWhile
      isWhitespace = (s.toList.dropWhile isWhitespace).rdropWhile isWhitespace := by
    rw [List.dropWhile_eq_self_iff]
    intro nonempty
    have front := List.rdropWhile_prefix isWhitespace (s.toList.dropWhile isWhitespace)
    have first := List.dropWhile_get_zero_not isWhitespace s.toList
      (Nat.lt_of_lt_of_le nonempty front.length_le)
    rwa [List.get_eq_getElem, ← front.getElem nonempty] at first
  rw [trim, trim, String.toList_ofList, start, List.rdropWhile_idempotent]

def startsWith (s head : String) : Bool := head.toList.isPrefixOf s.toList

def endsWith (s tail : String) : Bool := tail.toList.isSuffixOf s.toList

/-- Does `part` occur in `s` as a contiguous piece? -/
def contains (s part : String) : Bool := s.toList.tails.any part.toList.isPrefixOf

def containsChar (s : String) (c : Char) : Bool := s.toList.contains c

/-- The pieces of a string between the occurrences of `c`. -/
def split (c : Char) (s : String) : List String :=
  (s.toList.splitOn c).map String.ofList

/-- What comes before the first occurrence is the first piece. -/
theorem split_append {before separator : String} (first : c ∉ before.toList)
    (single : separator.toList = [c]) (after : String) :
    split c (before ++ (separator ++ after)) = before :: split c after := by
  rw [split, String.toList_append, String.toList_append, single, List.singleton_append,
    List.splitOn_append_cons_self_of_not_mem first, List.map_cons, String.ofList_toList]
  rfl

/-- The words of a string: what stands between white space. -/
def splitWhitespace (s : String) : List String :=
  ((s.toList.splitOnP isWhitespace).filter (!·.isEmpty)).map String.ofList

/-- Split at the first occurrence of `c`. -/
def splitOnce (c : Char) (s : String) : Option (String × String) :=
  if s.toList.contains c then
    some (String.ofList (s.toList.takeWhile (· != c)),
      String.ofList ((s.toList.dropWhile (· != c)).drop 1))
  else none

/-- The first occurrence is the one before which `c` does not come. -/
theorem splitOnce_ofList {before : List Char} (first : c ∉ before) (after : List Char) :
    splitOnce c (String.ofList (before ++ c :: after)) =
      some (String.ofList before, String.ofList after) := by
  have others : ∀ d ∈ before, (d != c) = true := by
    intro d member
    simp only [bne_iff_ne, ne_eq]
    rintro rfl
    exact first member
  simp [splitOnce, List.dropWhile_append_of_pos others, List.takeWhile_append_of_pos others,
    List.dropWhile, List.takeWhile]

/-- The two parts around the first occurrence make up the text. -/
theorem toList_of_splitOnce {before after : String} (cut : splitOnce c s = some (before, after)) :
    s.toList = before.toList ++ c :: after.toList := by
  by_cases found : c ∈ s.toList
  · obtain ⟨front, back, text, first⟩ := List.eq_append_cons_of_mem found
    have whole : s = String.ofList (front ++ c :: back) := by rw [← text, String.ofList_toList]
    rw [whole, splitOnce_ofList first] at cut
    cases cut
    simpa using text
  · simp [splitOnce, found] at cut

/-- Split at the last occurrence of `c`. -/
def rsplitOnce (c : Char) (s : String) : Option (String × String) :=
  if s.toList.contains c then
    some (String.ofList ((s.toList.rdropWhile (· != c)).dropLast),
      String.ofList (s.toList.rtakeWhile (· != c)))
  else none

/-- The last occurrence is the one after which `c` does not come again. -/
theorem rsplitOnce_ofList {after : List Char} (last : c ∉ after) (before : List Char) :
    rsplitOnce c (String.ofList (before ++ c :: after)) =
      some (String.ofList before, String.ofList after) := by
  have others : ∀ d ∈ after.reverse, (d != c) = true := by
    intro d member
    simp only [bne_iff_ne, ne_eq]
    rintro rfl
    exact last (List.mem_reverse.mp member)
  simp [rsplitOnce, List.rdropWhile, List.rtakeWhile, List.dropWhile_append_of_pos others,
    List.takeWhile_append_of_pos others, List.dropWhile, List.takeWhile]

theorem toList_of_rsplitOnce {before after : String} (cut : rsplitOnce c s = some (before, after)) :
    s.toList = before.toList ++ c :: after.toList := by
  by_cases found : c ∈ s.toList
  · obtain ⟨back, front, split, last⟩ := List.eq_append_cons_of_mem (List.mem_reverse.mpr found)
    have text : s.toList = front.reverse ++ c :: back.reverse := by
      simpa using congrArg List.reverse split
    have whole : s = String.ofList (front.reverse ++ c :: back.reverse) := by
      rw [← text, String.ofList_toList]
    rw [whole, rsplitOnce_ofList (by simpa using last)] at cut
    cases cut
    simpa using text
  · simp [rsplitOnce, found] at cut

/-- What follows `head`, when the string starts with it. -/
def stripHead (s head : String) : Option String :=
  if startsWith s head then some (String.ofList (s.toList.drop head.toList.length)) else none

/-- What precedes `tail`, when the string ends with it. -/
def stripTail (s tail : String) : Option String :=
  if endsWith s tail then
    some (String.ofList (s.toList.take (s.toList.length - tail.toList.length)))
  else none

theorem stripHead_append (head rest : String) : stripHead (head ++ rest) head = some rest := by
  have starts : startsWith (head ++ rest) head = true := by
    rw [startsWith, String.toList_append, List.isPrefixOf_iff_prefix]
    exact List.prefix_append _ _
  rw [stripHead, if_pos starts, String.toList_append, List.drop_left, String.ofList_toList]

theorem eq_append_of_stripHead {head rest : String} (stripped : stripHead s head = some rest) :
    s = head ++ rest := by
  unfold stripHead startsWith at stripped
  split at stripped
  case isFalse => cases stripped
  case isTrue starts =>
    obtain ⟨tail, text⟩ := List.isPrefixOf_iff_prefix.mp starts
    cases stripped
    rw [← String.toList_inj, String.toList_append, String.toList_ofList, ← text, List.drop_left]

theorem eq_append_of_stripTail {tail rest : String} (stripped : stripTail s tail = some rest) :
    s = rest ++ tail := by
  unfold stripTail endsWith at stripped
  split at stripped
  case isFalse => cases stripped
  case isTrue ends =>
    obtain ⟨front, text⟩ := List.isSuffixOf_iff_suffix.mp ends
    cases stripped
    rw [← String.toList_inj, String.toList_append, String.toList_ofList, ← text,
      List.length_append, Nat.add_sub_cancel, List.take_left]

/-- Split around the first occurrence of `separator` as a contiguous piece. -/
def splitOnceAt (separator s : String) : Option (String × String) :=
  (s.toList.tails.find? separator.toList.isPrefixOf).map fun found =>
    (String.ofList (s.toList.take (s.toList.length - found.length)),
      String.ofList (found.drop separator.toList.length))

/-- The lines of a text without their endings. A carriage return counts as part of an
ending only before a line feed. -/
def lines (s : String) : List String :=
  let pieces := split '\n' s
  pieces.dropLast.map (fun line => (stripTail line "\r").getD line) ++
    pieces.getLast?.toList.filter (!·.isEmpty)

/-- Replace every occurrence of one character. -/
def replaceChar (c : Char) (text s : String) : String :=
  String.ofList (s.toList.flatMap fun d => if d = c then text.toList else [d])

/-- The longest run of whole characters that fits into `budget` bytes. -/
def takeBytes : Nat → List Char → List Char
  | _, [] => []
  | budget, c :: rest =>
    if c.utf8Size ≤ budget then c :: takeBytes (budget - c.utf8Size) rest else []

/-- The pieces that fit, taken from the front. `total` bytes are used up, and the first
piece needs no separator. -/
def fitting {α : Type} (size : α → Nat) (separator budget : Nat) : Nat → Bool → List α → List α
  | _, _, [] => []
  | total, isFirst, piece :: rest =>
    let cost := (if isFirst then 0 else separator) + size piece
    if budget < total + cost then []
    else piece :: fitting size separator budget (total + cost) false rest

section Fitting

variable {α : Type} {size : α → Nat} {separator budget total : Nat} {pieces rest : List α}
  {piece : α}

/-- The bytes of pieces that each come after a separator. -/
def spread (size : α → Nat) (separator : Nat) (pieces : List α) : Nat :=
  pieces.foldr (fun piece n => separator + size piece + n) 0

theorem spread_fitting_le (room : total ≤ budget) :
    total + spread size separator (fitting size separator budget total false pieces) ≤ budget := by
  induction pieces generalizing total with
  | nil => exact room
  | cons piece rest ih =>
    simp only [fitting, Bool.false_eq_true, if_false]
    split
    · exact room
    · rename_i fits
      simpa [spread, Nat.add_assoc] using ih (Nat.le_of_not_lt fits)

/-- What fits is within the budget. -/
theorem fitting_le (fits : fitting size separator budget 0 true pieces = piece :: rest) :
    size piece + spread size separator rest ≤ budget := by
  cases pieces with
  | nil => cases fits
  | cons first later =>
    simp only [fitting, if_true] at fits
    split at fits
    · cases fits
    · rename_i room
      cases fits
      simpa using spread_fitting_le (Nat.le_of_not_lt room)

/-- What fits stands at the front. -/
theorem fitting_eq_take (size : α → Nat) (separator budget total : Nat) (isFirst : Bool)
    (pieces : List α) :
    ∃ k, fitting size separator budget total isFirst pieces = pieces.take k := by
  fun_induction fitting size separator budget total isFirst pieces with
  | case1 => exact ⟨0, rfl⟩
  | case2 => exact ⟨0, rfl⟩
  | case3 total isFirst piece rest cost fits ih =>
    obtain ⟨k, front⟩ := ih
    exact ⟨k + 1, by rw [front, List.take_succ_cons]⟩

end Fitting

/-- What is left after this many bytes; `none` when the cut falls inside a
character or beyond the end. -/
def dropBytes : Nat → List Char → Option (List Char)
  | 0, text => some text
  | _ + 1, [] => none
  | count + 1, c :: rest =>
    if c.utf8Size ≤ count + 1 then dropBytes (count + 1 - c.utf8Size) rest else none

/-- The decimal value of a digit sequence; `none` unless every character is an
ASCII digit and there is at least one. -/
def parseDigits (digits : List Char) : Option Nat :=
  if digits.isEmpty || !digits.all Char.isDigit then none
  else some (digits.foldl (fun value d => 10 * value + (d.toNat - '0'.toNat)) 0)

/-- An unsigned decimal integer of at most `max`: an optional plus sign, then
digits. -/
def parseUnsigned (max : Nat) (s : String) : Option Nat :=
  let digits :=
    match s.toList with
    | '+' :: rest => rest
    | other => other
  (parseDigits digits).filter (· ≤ max)

theorem isDigit_of_mem_toString {n : Nat} (member : c ∈ (toString n).toList) :
    c.isDigit = true := by
  rw [Nat.toString_eq_ofList_toDigits, String.toList_ofList] at member
  exact Nat.isDigit_of_mem_toDigits (by decide) (by decide) member

/-- The decimal text of a number reads back. -/
theorem parseUnsigned_toString {max n : Nat} (small : n ≤ max) :
    parseUnsigned max (toString n) = some n := by
  have text : (toString n).toList = Nat.toDigits 10 n := by
    rw [Nat.toString_eq_ofList_toDigits, String.toList_ofList]
  have digits : ∀ c ∈ Nat.toDigits 10 n, c.isDigit = true := by
    rw [← text]
    exact fun c => isDigit_of_mem_toString
  have parsed : parseDigits (Nat.toDigits 10 n) = some n := by
    have all : (Nat.toDigits 10 n).all Char.isDigit = true := List.all_eq_true.mpr digits
    have value := Nat.ofDigitChars_ten_toDigits (n := n)
    rw [Nat.ofDigitChars_eq_foldl] at value
    rw [parseDigits, if_neg (by simp [Nat.toDigits_ne_nil, all]), value]
  rw [parseUnsigned, text]
  have unsigned : (match Nat.toDigits 10 n with
      | '+' :: rest => rest
      | other => other) = Nat.toDigits 10 n := by
    split
    · rename_i rest signed
      have digit := digits '+' (signed ▸ List.mem_cons_self)
      cases digit
    · rfl
  simp only [unsigned, parsed, Option.filter_some, small, decide_true, if_true]

theorem toString_inj {k n : Nat} (same : toString k = toString n) : k = n := by
  have first := parseUnsigned_toString (Nat.le_max_left k n)
  rw [same, parseUnsigned_toString (Nat.le_max_right k n)] at first
  exact (Option.some.inj first).symm

/-- Such a text ends with a digit. -/
theorem getLast_of_parseUnsigned {max : Nat} {n : Nat} (parsed : parseUnsigned max s = some n) :
    ∃ d, s.toList.getLast? = some d ∧ d.isDigit = true := by
  have digits_last : ∀ digits : List Char, (parseDigits digits).filter (· ≤ max) = some n →
      ∃ d, digits.getLast? = some d ∧ d.isDigit = true := by
    intro digits kept
    rcases Option.filter_eq_some_iff.mp kept with ⟨value, _⟩
    rw [parseDigits] at value
    split at value
    · cases value
    · rename_i good
      simp only [Bool.or_eq_true, List.isEmpty_iff, Bool.not_eq_true', not_or,
        Bool.not_eq_false] at good
      obtain ⟨nonempty, all⟩ := good
      exact ⟨_, List.getLast?_eq_some_getLast nonempty,
        List.all_eq_true.mp all _ (List.getLast_mem nonempty)⟩
  rw [parseUnsigned] at parsed
  split at parsed
  · rename_i rest signed
    obtain ⟨d, last, digit⟩ := digits_last rest parsed
    exact ⟨d, by simp [signed, List.getLast?_cons, last], digit⟩
  · exact digits_last _ parsed

/-- A signed decimal integer between `min` and `max`: an optional sign, then
digits. -/
def parseSigned (min max : Int) (s : String) : Option Int :=
  let value : Option Int :=
    match s.toList with
    | '+' :: rest => (parseDigits rest).map Int.ofNat
    | '-' :: rest => (parseDigits rest).map fun n => -(n : Int)
    | other => (parseDigits other).map Int.ofNat
  value.filter fun n => min ≤ n && n ≤ max

end Triton.Lib.Text
