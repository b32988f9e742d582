import EntitySql.Query.Column
import EntitySql.Statement.Template

/-! # Conditions

The condition of a WHERE clause as a tree, and its text. An operand that is itself a condition stands
in parentheses, but for a chain of one connective to the left: `a AND b AND c` is `(a AND b) AND c`. -/

namespace EntitySql

inductive Comparison where
  | eq
  | ne
  | gt
  | gte
  | lt
  | lte
  | like
deriving DecidableEq, Repr

def Comparison.operator : Comparison → String
  | eq => "="
  | ne => "<>"
  | gt => ">"
  | gte => ">="
  | lt => "<"
  | lte => "<="
  | like => "LIKE"

inductive Connective where
  | and
  | or
deriving DecidableEq, Repr

def Connective.keyword : Connective → String
  | and => "AND"
  | or => "OR"

inductive Condition where
  | always
  | never
  /-- A column against a placeholder. -/
  | comparison (operator : Comparison) (column : QualifiedColumn)
  /-- A column against the list in a slot of the binding table. -/
  | inList (slot : Nat) (column : QualifiedColumn)
  | isNull (column : QualifiedColumn)
  | isNotNull (column : QualifiedColumn)
  | connected (connective : Connective) (left right : Condition)
  | not (inner : Condition)
deriving DecidableEq, Repr

namespace Condition

def parenthesized (text : String) : String := "(" ++ text ++ ")"

/-- A column as an operand. One that reads like an IN token is parenthesized as a token is. -/
def columnOperand (column : QualifiedColumn) : String :=
  if (Text.dropStart inTokenStart column.text.toList).isSome then parenthesized column.text
  else column.text

/-- Whether a condition needs no parentheses as an operand. -/
def isConstant : Condition → Bool
  | always | never => true
  | _ => false

/-- Whether the condition is a chain of the connective. -/
def isChainOf (connective : Connective) : Condition → Bool
  | connected c _ _ => c = connective
  | _ => false

/-- Puts parentheses around a text unless it may stand bare. -/
def operand (bare : Bool) (text : String) : String := if bare then text else parenthesized text

def text : Condition → String
  | always => "1 = 1"
  | never => "1 = 2"
  | comparison operator column => columnOperand column ++ " " ++ operator.operator ++ " ?"
  | inList slot column => inToken slot column.text
  | isNull column => columnOperand column ++ " IS NULL"
  | isNotNull column => columnOperand column ++ " IS NOT NULL"
  | connected connective left right =>
    operand (left.isConstant || left.isChainOf connective) left.text ++ " " ++ connective.keyword
      ++ " " ++ operand right.isConstant right.text
  | not inner => "NOT " ++ operand inner.isConstant inner.text

/-- The conditions one after the other, connected to the left. -/
def chain (connective : Connective) (empty : Condition) : List Condition → Condition
  | [] => empty
  | first :: others => others.foldl (connected connective) first

end Condition

end EntitySql
