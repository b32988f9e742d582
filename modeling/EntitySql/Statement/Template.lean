import EntitySql.Statement.Binding
import EntitySql.Text.Search

/-! # Statements

A template is SQL text with placeholders and a table that says what each of them is bound to. A list
of unknown length is compared with by an IN token, which names its slot of the table and its column;
the token becomes text when the values are known. -/

namespace EntitySql

/-- The text of a token that stands for `column IN (…)`, with as many places as the value in the slot
has elements. -/
def inToken (slot : Nat) (column : String) : String := "?$IN(" ++ toString slot ++ ":" ++ column ++ ")"

/-- What every IN token begins with. -/
def inTokenStart : List Char := "?$IN(".toList

structure Template where
  text : String
  /-- One binding for each placeholder and token, in the order of the text. -/
  bindings : List Binding := []
  /-- The declared type of each binding, where it is known. -/
  types : List (Option DataType) := []
  /-- The property paths whose values are bound, for statements that write an entity. -/
  paths : List String := []
deriving DecidableEq, Repr

namespace Template
variable {n : Nat}

/-- Whether some place of the text is the start of an IN token. -/
def hasInToken (t : Template) : Bool := Text.contains inTokenStart t.text.toList

/-- A statement that binds the values of columns, the first argument to the first column. -/
def ofColumns (text : String) (types : List DataType) (paths : List String) : Template :=
  { text := text
    bindings := (List.range types.length).map .argument
    types := types.map some
    paths := paths }

end Template

/-- SQL text without tokens and the values of its placeholders in order. -/
structure Statement where
  sql : String
  args : List Value
deriving Repr

/-- As many placeholders as given, with commas between. -/
def marks : Nat → List Char
  | 0 => []
  | 1 => ['?']
  | count + 1 => '?' :: ',' :: marks count

def placeholders (count : Nat) : String := String.ofList (marks count)

end EntitySql
