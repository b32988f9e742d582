import EntitySql.Fields
import EntitySql.Number.Binary

/-! # JSON documents

Documents with two kinds of numbers: integers, and floating point numbers as bit patterns of the
64-bit format. -/

namespace EntitySql

/-- A JSON document. Integers lie between `-2 ^ 63` and `2 ^ 64 - 1`; floats are finite. -/
inductive Json where
  | null
  | bool (value : Bool)
  | int (value : Int)
  | float (bits : UInt64)
  | string (text : String)
  | array (items : List Json)
  | object (fields : List (String × Json))
deriving Inhabited, Repr

namespace Json

def isNull : Json → Bool
  | null => true
  | _ => false

/-- Whether an integer has a signed 64-bit form. -/
def fitsLong (n : Int) : Bool := -9223372036854775808 ≤ n && n ≤ 9223372036854775807

/-- The integer in the signed 64-bit range. -/
def asLong? : Json → Option Int
  | int n => if fitsLong n then some n else none
  | _ => none

/-- The number as a 64-bit float; an integer is rounded. -/
def asDouble? : Json → Option UInt64
  | int n => some (UInt64.ofNat (BinaryFormat.binary64.ofInt n))
  | float bits => some bits
  | _ => none

def asByte? : Json → Option UInt8
  | int n => if 0 ≤ n ∧ n < 256 then some (UInt8.ofNat n.toNat) else none
  | _ => none

def asText? : Json → Option String
  | string text => some text
  | _ => none

def asBool? : Json → Option Bool
  | bool value => some value
  | _ => none

/-- The fields of an object; no other document has fields. -/
def fields? : Json → Option (Fields Json)
  | object fields => some fields
  | _ => none

mutual

/-- How deep objects and arrays are nested: 0 for a scalar. -/
def depth : Json → Nat
  | array items => 1 + depthItems items
  | object fields => 1 + depthFields fields
  | _ => 0

def depthItems : List Json → Nat
  | [] => 0
  | item :: items => max (depth item) (depthItems items)

def depthFields : List (String × Json) → Nat
  | [] => 0
  | (_, value) :: fields => max (depth value) (depthFields fields)

end

end Json

end EntitySql
