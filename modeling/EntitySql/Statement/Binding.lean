import EntitySql.Error
import EntitySql.Text.Split

/-! # Parameter bindings

Where the value of a placeholder comes from, and the text form of that: `2`, `1.title` or
`lastUpdated`. -/

namespace EntitySql

inductive Binding where
  /-- The argument at an index. -/
  | argument (index : Nat)
  /-- A property of the object at an index, under a path that is not empty. -/
  | property (index : Nat) (path : String)
  /-- The current time. -/
  | lastUpdated
deriving DecidableEq, Repr

namespace Binding

/-- The binding of a property; the path may not be empty. -/
def ofProperty (index : Nat) (path : String) : Outcome Binding :=
  if path = "" then .error (.configuration (.emptyBindingPath index)) else .ok (.property index path)

def text : Binding → String
  | argument index => toString index
  | property index path => toString index ++ "." ++ path
  | lastUpdated => "lastUpdated"

/-- The binding that a text names. -/
def parse (text : String) : Outcome Binding :=
  if text = "lastUpdated" then .ok .lastUpdated
  else
    let index (digits : List Char) : Outcome Nat :=
      (Text.readIndex digits).mapError fun cause => .configuration (.invalidBinding text cause)
    match Text.cutFirst '.' text.toList with
    | some (digits, path) => do ofProperty (← index digits) (String.ofList path)
    | none => (index text.toList).map argument

/-- A description with the names of the parts. -/
def describe : Binding → String
  | argument index => s!"Argument({index})"
  | property index path =>
    "Property \x7b argument: " ++ toString index ++ ", path: " ++ Text.quoted path ++ " \x7d"
  | lastUpdated => "LastUpdated"

end Binding

end EntitySql
