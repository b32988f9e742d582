import EntitySql.Json.Printer

/-! # Shapes of results

The target into which a caller reads a decoded document, and why a document does not fit it. -/

namespace EntitySql

/-- A type of results. -/
inductive Shape where
  /-- Any document as it is. -/
  | any
  /-- Integers of 64, 32 and 8 bits; the last one without sign. -/
  | long
  | int
  | byte
  /-- Any number, as a float. -/
  | double
  | bool
  | text
  /-- A 64-bit integer or null. -/
  | optionalLong
  /-- A record with one text field, read from an object or from an array of one element. -/
  | record (name field : String)
deriving DecidableEq, Repr

/-- How a shape does not fit a document. -/
inductive ShapeError where
  | invalidType (found : Json) (expected : String)
  | invalidInteger (found : Int) (expected : String)
  | missingField (field : String)
  | noElement (record : String)
  | moreElements (length : Nat)
deriving Repr

/-- What kind of document was found where another was expected. -/
def Json.kindText : Json → String
  | .null => "null"
  | .bool value => "boolean \x60" ++ (if value then "true" else "false") ++ "\x60"
  | .int n => "integer \x60" ++ toString n ++ "\x60"
  | .float bits => "floating point \x60" ++ Json.printFloat bits ++ "\x60"
  | .string text => "string " ++ Text.quoted text
  | .array _ => "sequence"
  | .object _ => "map"

def ShapeError.message : ShapeError → String
  | invalidType found expected => "invalid type: " ++ found.kindText ++ ", expected " ++ expected
  | invalidInteger found expected =>
    "invalid value: integer \x60" ++ toString found ++ "\x60, expected " ++ expected
  | missingField field => "missing field \x60" ++ field ++ "\x60"
  | noElement record => "invalid length 0, expected struct " ++ record ++ " with 1 element"
  | moreElements length =>
    "invalid length " ++ toString length ++ ", expected fewer elements in array"

namespace Shape

/-- An integer between two bounds. -/
def readInteger (least greatest : Int) (expected : String) : Json → Except ShapeError Json
  | .int n =>
    if least ≤ n ∧ n ≤ greatest then .ok (.int n) else .error (.invalidInteger n expected)
  | found => .error (.invalidType found expected)

def readLong : Json → Except ShapeError Json :=
  readInteger (-9223372036854775808) 9223372036854775807 "i64"

def readText : Json → Except ShapeError Json
  | .string s => .ok (.string s)
  | found => .error (.invalidType found "a string")

/-- The document as a result of this shape. -/
def read : Shape → Json → Except ShapeError Json
  | any, document => .ok document
  | long, document => readLong document
  | int, document => readInteger (-2147483648) 2147483647 "i32" document
  | byte, document => readInteger 0 255 "u8" document
  | double, document =>
    match document.asDouble? with
    | some bits => .ok (.float bits)
    | none => .error (.invalidType document "f64")
  | bool, .bool value => .ok (.bool value)
  | bool, found => .error (.invalidType found "a boolean")
  | text, document => readText document
  | optionalLong, .null => .ok .null
  | optionalLong, document => readLong document
  | record _ field, .object fields =>
    match Fields.get? field fields with
    | some value => (readText value).map fun content => .object [(field, content)]
    | none => .error (.missingField field)
  | record name _, .array [] => .error (.noElement name)
  | record _ field, .array (first :: rest) => do
    let content ← readText first
    if rest.isEmpty then return .object [(field, content)] else .error (.moreElements (rest.length + 1))
  | record name _, found => .error (.invalidType found ("struct " ++ name))

end Shape

end EntitySql
