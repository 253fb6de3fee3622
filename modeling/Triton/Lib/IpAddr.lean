/-
# IP addresses as text

The grammar of the standard library's address parser: four decimal octets
without a leading zero, or eight hexadecimal groups, of which one run of zeros
may be left out as `::` and the last two may be written as an IPv4 address. A
parse succeeds only when it reads the whole text.
-/

import Mathlib.Data.List.Basic

namespace Triton.Lib.IpAddr

/-- The value of a digit in a radix up to sixteen. -/
def digitValue (radix : Nat) (c : Char) : Option Nat :=
  let value :=
    if c.isDigit then some (c.toNat - '0'.toNat)
    else if 'a' ≤ c && c ≤ 'f' then some (c.toNat - 'a'.toNat + 10)
    else if 'A' ≤ c && c ≤ 'F' then some (c.toNat - 'A'.toNat + 10)
    else none
  value.filter (· < radix)

/-- A number below `bound`, written with at least one and at most `maxDigits`
digits. Without `zeroHead` only zero itself starts with a zero. -/
def readNumber (radix maxDigits bound : Nat) (zeroHead : Bool) (text : List Char) :
    Option (Fin bound × List Char) :=
  let digits := text.takeWhile fun c => (digitValue radix c).isSome
  let value := digits.foldl (fun value c => radix * value + (digitValue radix c).getD 0) 0
  if digits.isEmpty || maxDigits < digits.length ||
      (!zeroHead && digits.head? == some '0' && 1 < digits.length) then none
  else if inRange : value < bound then some (⟨value, inRange⟩, text.drop digits.length)
  else none

/-- The element at `index` of a separated sequence: all but the first follow a
separator. -/
def readSeparated {α : Type} (separator : Char) (index : Nat)
    (inner : List Char → Option (α × List Char)) (text : List Char) :
    Option (α × List Char) :=
  if index = 0 then inner text
  else
    match text with
    | c :: rest => if c == separator then inner rest else none
    | [] => none

structure V4 where
  a : Fin 256
  b : Fin 256
  c : Fin 256
  d : Fin 256
  deriving DecidableEq, Repr

def readV4 (text : List Char) : Option (V4 × List Char) := do
  let octet := readNumber 10 3 256 false
  let (a, text) ← readSeparated '.' 0 octet text
  let (b, text) ← readSeparated '.' 1 octet text
  let (c, text) ← readSeparated '.' 2 octet text
  let (d, text) ← readSeparated '.' 3 octet text
  return (⟨a, b, c, d⟩, text)

/-- The two 16-bit groups an IPv4 address takes inside an IPv6 address. -/
def V4.groups (v4 : V4) : List (Fin 65536) :=
  [⟨256 * v4.a + v4.b, by omega⟩, ⟨256 * v4.c + v4.d, by omega⟩]

/-- Read up to `limit` groups, the first of them at position `index`, and stop
where the text goes on with something else. The flag says that the groups end
with an embedded IPv4 address, which needs room for two. -/
def readGroups : (limit index : Nat) → List Char → List (Fin 65536) × Bool × List Char
  | 0, _, text => ([], false, text)
  | limit + 1, index, text =>
    let ipv4 := if 0 < limit then readSeparated ':' index readV4 text else none
    match ipv4 with
    | some (v4, rest) => (v4.groups, true, rest)
    | none =>
      match readSeparated ':' index (readNumber 16 4 65536 true) text with
      | none => ([], false, text)
      | some (group, rest) =>
        let (groups, embedded, rest) := readGroups limit (index + 1) rest
        (group :: groups, embedded, rest)

theorem readGroups_length_le (limit index : Nat) (text : List Char) :
    (readGroups limit index text).1.length ≤ limit := by
  induction limit generalizing index text with
  | zero => simp [readGroups]
  | succ limit ih =>
    rw [readGroups]
    split
    · rename_i v4 rest found
      have room : 0 < limit := by
        by_contra full
        simp [full] at found
      simp only [V4.groups, List.length_cons, List.length_nil]
      omega
    · split
      · simp
      · rename_i group rest _
        simpa using ih (index + 1) rest

/-- Eight 16-bit groups. -/
structure V6 where
  groups : List (Fin 65536)
  length_eq : groups.length = 8
  deriving DecidableEq

/-- The front groups, the back groups, and zeros in between. -/
def V6.ofEnds (front back : List (Fin 65536)) (fits : front.length + back.length ≤ 8) : V6 where
  groups := front ++ List.replicate (8 - (front.length + back.length)) 0 ++ back
  length_eq := by simp; omega

def readV6 (text : List Char) : Option (V6 × List Char) :=
  let front := readGroups 8 0 text
  have front_le : front.1.length ≤ 8 := readGroups_length_le 8 0 text
  if front.1.length = 8 then
    some (V6.ofEnds front.1 [] (by simpa using front_le), front.2.2)
  -- an embedded IPv4 address is not allowed before the `::`
  else if front.2.1 then none
  else
    match front.2.2 with
    | ':' :: ':' :: rest =>
      let back := readGroups (8 - (front.1.length + 1)) 0 rest
      have back_le : back.1.length ≤ 8 - (front.1.length + 1) := readGroups_length_le _ 0 rest
      some (V6.ofEnds front.1 back.1 (by omega), back.2.2)
    | _ => none

end IpAddr

/-- A parsed address. -/
inductive IpAddr
  | v4 (addr : IpAddr.V4)
  | v6 (addr : IpAddr.V6)
  deriving DecidableEq

namespace IpAddr

/-- Parse a whole text as an address. The IPv6 reader gets its turn only when
the IPv4 reader fails. -/
def parse (text : String) : Option IpAddr :=
  let read : Option (IpAddr × List Char) :=
    match readV4 text.toList with
    | some (addr, rest) => some (.v4 addr, rest)
    | none => (readV6 text.toList).map fun (addr, rest) => (.v6 addr, rest)
  match read with
  | some (addr, []) => some addr
  | _ => none

/-- 127.0.0.0/8 -/
def V4.isLoopback (addr : V4) : Bool := addr.a == 127

/-- 10.0.0.0/8, 172.16.0.0/12 and 192.168.0.0/16 -/
def V4.isPrivate (addr : V4) : Bool :=
  addr.a == 10 || (addr.a == 172 && 16 ≤ addr.b && addr.b ≤ 31) ||
    (addr.a == 192 && addr.b == 168)

/-- ::1 -/
def V6.isLoopback (addr : V6) : Bool := addr.groups == [0, 0, 0, 0, 0, 0, 0, 1]

/-- The first of the sixteen octets. -/
def V6.firstOctet (addr : V6) : Nat := (addr.groups.headD 0).val / 256

end Triton.Lib.IpAddr
