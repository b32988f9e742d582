import EntitySql.Calendar.Timestamp
import EntitySql.Fields
import EntitySql.Number.Notation
import EntitySql.Text.Quoted
import EntitySql.Uuid

/-! # Run-time values

Values that are bound to placeholders and read from the cells of a result. A list stands for a
collection argument, one slot per element; bytes always take a single slot. -/

namespace EntitySql

/-- A value of a statement parameter or of a result cell. Integers are 32 bits (`int`) or 64 bits
(`long`) wide, floats are bit patterns, a decimal is kept as text. -/
inductive Value where
  | null
  | boolean (value : Bool)
  | int (value : Int)
  | long (value : Int)
  | float (bits : UInt32)
  | double (bits : UInt64)
  | decimal (text : String)
  | string (text : String)
  | uuid (id : Uuid)
  | timestamp (moment : Timestamp)
  | date (day : Date)
  | bytes (bytes : List UInt8)
  | list (items : List Value)
  | object (fields : List (String × Value))
deriving Inhabited, Repr

namespace Value

def isNull : Value → Bool
  | null => true
  | _ => false

/-- The number of elements of a list; no other value has one. -/
def length? : Value → Option Nat
  | list items => some items.length
  | _ => none

/-- The value at the end of a path of field names. -/
def getIn? (value : Value) : List String → Option Value
  | [] => some value
  | name :: names =>
    match value with
    | object fields => (Fields.get? name fields).bind fun inner => inner.getIn? names
    | _ => none

/-- The value under a path with dots between the field names. -/
def get? (value : Value) (path : String) : Option Value :=
  value.getIn? ((Text.pieces '.' path.toList).map String.ofList)

mutual

/-- A description of a value with its kind, for messages. -/
def describe : Value → String
  | null => "Null"
  | boolean b => "Boolean(" ++ (if b then "true" else "false") ++ ")"
  | int n => "Int(" ++ toString n ++ ")"
  | long n => "Long(" ++ toString n ++ ")"
  | float bits => "Float(" ++ NumberStyle.description.format .binary32 bits.toNat ++ ")"
  | double bits => "Double(" ++ NumberStyle.description.format .binary64 bits.toNat ++ ")"
  | decimal text => "Decimal(" ++ Text.quoted text ++ ")"
  | string text => "String(" ++ Text.quoted text ++ ")"
  | uuid id => "Uuid(" ++ id.text ++ ")"
  | timestamp moment => "Timestamp(" ++ moment.text ++ ")"
  | date day => "Date(" ++ day.text ++ ")"
  | bytes bs => "Bytes([" ++ ", ".intercalate (bs.map fun b => toString b.toNat) ++ "])"
  | list items => "List([" ++ ", ".intercalate (describeItems items) ++ "])"
  | object fields => "Object(\x7b" ++ ", ".intercalate (describeFields fields) ++ "\x7d)"

def describeItems : List Value → List String
  | [] => []
  | item :: items => describe item :: describeItems items

def describeFields : List (String × Value) → List String
  | [] => []
  | (name, value) :: fields => (Text.quoted name ++ ": " ++ describe value) :: describeFields fields

end

end Value

end EntitySql
