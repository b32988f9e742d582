import EntitySql.Error
import EntitySql.Json.Printer

/-! # Values and JSON

How a property of a document becomes a value of the declared type, and how a value becomes a document
again. The structural conversions know no type. -/

namespace EntitySql.Value

mutual

/-- The value of a document for which no type is declared. Integers past 64 bits become floats. -/
def ofUntyped : Json → Value
  | .null => .null
  | .bool b => .boolean b
  | .int n =>
    if Json.fitsLong n then .long n
    else .double (UInt64.ofNat (BinaryFormat.binary64.ofInt n))
  | .float bits => .double bits
  | .string text => .string text
  | .array items => .list (ofUntypedItems items)
  | .object fields => .object (ofUntypedFields fields)

def ofUntypedItems : List Json → List Value
  | [] => []
  | item :: items => ofUntyped item :: ofUntypedItems items

def ofUntypedFields : List (String × Json) → List (String × Value)
  | [] => []
  | (name, value) :: fields => (name, ofUntyped value) :: ofUntypedFields fields

end

/-- An integer in the signed 32-bit range. -/
def fitsInt (n : Int) : Bool := -2147483648 ≤ n && n ≤ 2147483647

/-- A decimal number as it is kept: a JSON number in JSON notation, or any text. -/
def decimalText? : Json → Option String
  | .int n => some (toString n)
  | .float bits => some (Json.printFloat bits)
  | .string text => some text
  | _ => none

/-- The bytes that an array of small integers lists. -/
def bytes? : Json → Option (List UInt8)
  | .array items => items.mapM (·.asByte?)
  | _ => none

/-- The value of a document that is not null, if it fits the type. -/
def ofPresent? (type : DataType) (document : Json) : Option Value :=
  match type with
  | .string | .character => document.asText?.map .string
  | .long => document.asLong?.map .long
  | .integer | .short | .byte => (document.asLong?.filter fitsInt).map .int
  | .boolean => document.asBool?.map .boolean
  | .uuid => (document.asText?.bind Uuid.parse?).map .uuid
  | .timestamp => (document.asText?.bind Timestamp.parse?).map .timestamp
  | .date => (document.asText?.bind Date.parse?).map .date
  | .bigDecimal => (decimalText? document).map .decimal
  | .float => document.asDouble?.map fun bits =>
    .float (UInt32.ofNat (BinaryFormat.convert .binary64 .binary32 bits.toNat))
  | .double => document.asDouble?.map .double
  | .byteArray => (bytes? document).map .bytes
  | .json => some (.string document.print)
  | .entity | .object => some (ofUntyped document)

/-- Why a document is no value of the type. -/
def misfit (type : DataType) (document : Json) : ConversionError :=
  match type, document with
  | .timestamp, .string text => .notATimestamp text
  | _, _ => .mismatch type document

/-- The value of a document for a property of the declared type. -/
def ofJson (document : Json) (type : DataType) : Outcome Value :=
  if document.isNull then .ok .null
  else match ofPresent? type document with
    | some value => .ok value
    | none => .error (.conversion (misfit type document))

/-- A float as a document; only finite ones have a notation. -/
def floatJson (bits : UInt64) : Outcome Json :=
  match BinaryFormat.binary64.decode bits.toNat with
  | .finite .. => .ok (.float bits)
  | _ => .error (.conversion (.notFinite bits))

/-- A single-precision float with the bits of the double with the same value. -/
def widen (bits : UInt32) : UInt64 :=
  UInt64.ofNat (BinaryFormat.convert .binary32 .binary64 bits.toNat)

mutual

/-- The document of a value for which no type is declared. -/
def toUntyped : Value → Outcome Json
  | null => .ok .null
  | boolean b => .ok (.bool b)
  | int n => .ok (.int n)
  | long n => .ok (.int n)
  | float bits => floatJson (widen bits)
  | double bits => floatJson bits
  | decimal text => .ok (.string text)
  | string text => .ok (.string text)
  | uuid id => .ok (.string id.text)
  | timestamp moment => .ok (.string moment.text)
  | date day => .ok (.string day.text)
  | bytes bs => .ok (.array (bs.map fun b => .int b.toNat))
  | list items => (toUntypedItems items).map .array
  | object fields => (toUntypedFields fields).map .object

def toUntypedItems : List Value → Outcome (List Json)
  | [] => .ok []
  | item :: items => do return (← toUntyped item) :: (← toUntypedItems items)

def toUntypedFields : List (String × Value) → Outcome (List (String × Json))
  | [] => .ok []
  | (name, value) :: fields => do return (name, ← toUntyped value) :: (← toUntypedFields fields)

end

/-- The document of a result cell for a property of the declared type. A boolean may come as a
number. -/
def toJson (value : Value) (type : DataType) : Outcome Json :=
  match type, value with
  | .boolean, int n => .ok (.bool (n ≠ 0))
  | .boolean, long n => .ok (.bool (n ≠ 0))
  | _, value => value.toUntyped

end EntitySql.Value
