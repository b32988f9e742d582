/-! # Data types of properties -/

namespace EntitySql

/-- The semantic type of a property. -/
inductive DataType where
  | string
  /-- Integers of 64, 32, 16 and 8 bits. -/
  | long
  | integer
  | short
  | byte
  | character
  | boolean
  | uuid
  | timestamp
  | date
  /-- A decimal number of any precision, kept as text. -/
  | bigDecimal
  | float
  | double
  | byteArray
  /-- A document kept as JSON text. -/
  | json
  /-- A reference to another entity. -/
  | entity
  /-- Anything else; such a property has no column type. -/
  | object
deriving DecidableEq, Repr

def DataType.name : DataType → String
  | string => "String"
  | long => "Long"
  | integer => "Integer"
  | short => "Short"
  | byte => "Byte"
  | character => "Character"
  | boolean => "Boolean"
  | uuid => "Uuid"
  | timestamp => "Timestamp"
  | date => "Date"
  | bigDecimal => "BigDecimal"
  | float => "Float"
  | double => "Double"
  | byteArray => "ByteArray"
  | json => "Json"
  | entity => "Entity"
  | object => "Object"

end EntitySql
