import EntitySql.Json.Basic
import EntitySql.Number.Notation
import EntitySql.Text.Quoted

/-! # JSON text

The compact text of a document: no blanks, fields in the order of their names. -/

namespace EntitySql.Json

/-- One character inside a JSON string. -/
def printChar (c : Char) : String :=
  match c with
  | '"' => "\\\""
  | '\\' => "\\\\"
  | '\x08' => "\\b"
  | '\x0c' => "\\f"
  | '\n' => "\\n"
  | '\r' => "\\r"
  | '\t' => "\\t"
  | c => if c.toNat < 0x20 then "\\u" ++ Text.hex 4 c.toNat else c.toString

def printString (s : String) : String := "\"" ++ String.join (s.toList.map printChar) ++ "\""

/-- A 64-bit float as a JSON number. -/
def printFloat (bits : UInt64) : String := NumberStyle.json.format .binary64 bits.toNat

mutual

def print : Json → String
  | null => "null"
  | bool value => if value then "true" else "false"
  | int n => toString n
  | float bits => printFloat bits
  | string text => printString text
  | array items => "[" ++ ",".intercalate (printItems items) ++ "]"
  | object fields => "\x7b" ++ ",".intercalate (printFields fields) ++ "\x7d"

def printItems : List Json → List String
  | [] => []
  | item :: items => print item :: printItems items

def printFields : List (String × Json) → List String
  | [] => []
  | (name, value) :: fields => (printString name ++ ":" ++ print value) :: printFields fields

end

end EntitySql.Json
