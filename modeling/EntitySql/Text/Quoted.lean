import EntitySql.Text.Case
import EntitySql.Text.HiddenTable

/-! # Quoted text

A text between double quotes in which every character that would not show is escaped. -/

namespace EntitySql.Text

/-- A number as text in hexadecimal, lower-case letters after 9, of at least `width` digits. -/
def hex (width : Nat) (n : Nat) : String :=
  let digits := Nat.toDigits 16 n
  String.ofList (List.replicate (width - digits.length) '0' ++ digits)

/-- Whether a character shows as itself: it is no control character, no separator but the space, is
assigned, is not ignorable by default, and does not merge with the character before it. -/
def isShown (c : Char) : Bool := !inRuns hiddenRuns c.toNat

/-- One character as it stands inside quoted text. -/
def quotedChar (c : Char) : String :=
  match c with
  | '\x00' => "\\0"
  | '\t' => "\\t"
  | '\r' => "\\r"
  | '\n' => "\\n"
  | '"' => "\\\""
  | '\\' => "\\\\"
  | c => if isShown c then c.toString else "\\u\x7b" ++ hex 1 c.toNat ++ "\x7d"

/-- The text between double quotes. -/
def quoted (s : String) : String := "\"" ++ String.join (s.toList.map quotedChar) ++ "\""

end EntitySql.Text
