/-
# JSON values

A JSON document as the modelled code holds it in memory. Objects are kept in
key order, as the default map of the JSON library does, so an insertion has one
place to go; reading an object takes the member with the given key.
-/

namespace Triton.Lib

/-- A JSON number keeps the way it was written: a non-negative integer, a
negative integer, or the bit pattern of a double. -/
inductive Number
  | posInt (n : Nat)
  | negInt (n : Int)
  | float (bits : UInt64)
  deriving DecidableEq, Repr

namespace Double

/-- Neither an infinity nor a NaN. -/
def isFinite (bits : UInt64) : Bool := (bits >>> 52) &&& 0x7FF != 0x7FF

/-- The bit pattern of the double nearest a natural number, ties to even. A
carry out of the significand moves into the exponent. -/
def ofNat (n : Nat) : UInt64 :=
  if n = 0 then 0
  else
    let exponent := n.log2
    let significand :=
      if exponent ≤ 52 then n <<< (52 - exponent)
      else
        let shift := exponent - 52
        let kept := n >>> shift
        let lost := n % (1 <<< shift)
        let half := 1 <<< (shift - 1)
        if half < lost ∨ (lost = half ∧ kept % 2 = 1) then kept + 1 else kept
    UInt64.ofNat (((1022 + exponent) <<< 52) + significand)

def ofInt (n : Int) : UInt64 :=
  if n < 0 then ofNat n.natAbs ||| 0x8000000000000000 else ofNat n.natAbs

/-- A double as a 64-bit signed integer: towards zero, to the nearest bound when
it is out of range, and zero for what is not a number. -/
def toI64 (bits : UInt64) : Int :=
  let exponent := ((bits >>> 52) &&& 0x7FF).toNat
  let fraction := (bits &&& 0xFFFFFFFFFFFFF).toNat
  let significand := fraction + 0x10000000000000
  let magnitude : Nat :=
    if exponent = 0 then 0
    else if exponent = 0x7FF then (if fraction = 0 then 0x8000000000000000 else 0)
    else if 1075 ≤ exponent then significand <<< (exponent - 1075)
    else significand >>> (1075 - exponent)
  if bits >>> 63 = 1 then -(min magnitude 0x8000000000000000 : Nat)
  else (min magnitude 0x7FFFFFFFFFFFFFFF : Nat)

end Double

inductive Value
  | null
  | bool (b : Bool)
  | number (n : Number)
  | string (s : String)
  | array (items : List Value)
  | object (members : List (String × Value))
  deriving Repr, Inhabited

/-- The members of a JSON object, in key order. -/
abbrev Members := List (String × Value)

namespace Members

def get (members : Members) (key : String) : Option Value := members.lookup key

/-- Set a member, replacing the one of the same key. -/
def insert (key : String) (value : Value) : Members → Members
  | [] => [(key, value)]
  | (other, old) :: rest =>
    if key = other then (key, value) :: rest
    else if key < other then (key, value) :: (other, old) :: rest
    else (other, old) :: insert key value rest

/-- Remove the member of one key. -/
def remove (key : String) (members : Members) : Members :=
  members.filter (·.1 != key)

end Members

namespace Value

/-- Read a member of an object; `none` on anything else. -/
def get (value : Value) (key : String) : Option Value :=
  match value with
  | .object members => Members.get members key
  | _ => none

def asStr : Value → Option String
  | .string s => some s
  | _ => none

def asU64 : Value → Option Nat
  | .number (.posInt n) => some n
  | _ => none

def asI64 : Value → Option Int
  | .number (.posInt n) => if n ≤ 0x7FFFFFFFFFFFFFFF then some n else none
  | .number (.negInt n) => some n
  | _ => none

def asBool : Value → Option Bool
  | .bool b => some b
  | _ => none

def asArray : Value → Option (List Value)
  | .array items => some items
  | _ => none

def isNull : Value → Bool
  | .null => true
  | _ => false

/-- Any number as a double. Numbers are finite. -/
def asF64 : Value → Option UInt64
  | .number (.posInt n) => (some (Double.ofNat n)).filter Double.isFinite
  | .number (.negInt n) => (some (Double.ofInt n)).filter Double.isFinite
  | .number (.float bits) => (some bits).filter Double.isFinite
  | _ => none

/-- A double as a number; what is not finite becomes `null`. -/
def ofF64 (bits : UInt64) : Value :=
  if Double.isFinite bits then .number (.float bits) else .null

def isObject : Value → Bool
  | .object _ => true
  | _ => false

/-- The number a signed integer becomes. -/
def ofInt (n : Int) : Value :=
  if 0 ≤ n then .number (.posInt n.toNat) else .number (.negInt n)

end Value

/-- A printer and a reader of JSON texts. The reader fails on what is not JSON. -/
structure JsonText where
  print : Value → String
  parse : String → Option Value

/-- The value prints on one line, with line endings escaped, and reads back. -/
structure JsonText.Exact (json : JsonText) (value : Value) : Prop where
  parse_print : json.parse (json.print value) = some value
  noNewline : '\n' ∉ (json.print value).toList
  noReturn : '\r' ∉ (json.print value).toList

end Triton.Lib
