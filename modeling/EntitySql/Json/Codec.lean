import EntitySql.Json.Parser
import EntitySql.Json.Printer

/-! # Codecs

How documents are kept as text. The failures of a codec are told in its own words. -/

namespace EntitySql

structure Codec where
  encode : Json → Except String String
  decode : String → Except String Json

/-- Compact JSON text. -/
def Codec.json : Codec where
  encode document := .ok document.print
  decode text :=
    match Json.parse? text with
    | some document => .ok document
    | none => .error "malformed JSON"

end EntitySql
