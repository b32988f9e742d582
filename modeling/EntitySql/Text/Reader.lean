/-! # Reading from the front of a text

A reader takes characters off the front of a list and returns what they stand for with the rest of
the list, or fails. Here are the readers of digits, on which numbers, dates and identifiers rest. -/

namespace EntitySql.Text

abbrev Reader (α : Type) := List Char → Option (α × List Char)

/-- The value of a decimal digit. -/
def digit? (c : Char) : Option Nat := if c.isDigit then some (c.toNat - '0'.toNat) else none

/-- The value of a hexadecimal digit in either case. -/
def hexDigit? (c : Char) : Option Nat :=
  if c.isDigit then some (c.toNat - '0'.toNat)
  else if 'a' ≤ c ∧ c ≤ 'f' then some (c.toNat - 'a'.toNat + 10)
  else if 'A' ≤ c ∧ c ≤ 'F' then some (c.toNat - 'A'.toNat + 10)
  else none

/-- The digits at the front, at most `limit` of them. -/
def takeDigits : (limit : Nat) → List Char → List Nat × List Char
  | 0, cs => ([], cs)
  | _ + 1, [] => ([], [])
  | limit + 1, c :: rest =>
    match digit? c with
    | none => ([], c :: rest)
    | some d =>
      let (digits, after) := takeDigits limit rest
      (d :: digits, after)

/-- All digits at the front. -/
def readDigits (cs : List Char) : List Nat × List Char := takeDigits cs.length cs

/-- At least one digit. -/
def readSomeDigits : Reader (List Nat) := fun cs =>
  match readDigits cs with
  | ([], _) => none
  | (digits, rest) => some (digits, rest)

/-- The number that decimal digits write. -/
def digitsToNat (digits : List Nat) : Nat := digits.foldl (fun n d => n * 10 + d) 0

/-- The number written by the digits at the front: at least `least` digits, of which at most `most`
are taken. -/
def readNat (least most : Nat) : Reader Nat := fun cs =>
  let (digits, rest) := takeDigits most cs
  if digits.length < least then none else some (digitsToNat digits, rest)

/-- One given character. -/
def readChar (c : Char) : Reader Unit
  | [] => none
  | first :: rest => if first = c then some ((), rest) else none

/-- White space: control blanks, the space, and the blanks of typography. -/
def isBlank (c : Char) : Bool :=
  let n := c.toNat
  (0x9 ≤ n && n ≤ 0xd) || n = 0x20 || n = 0x85 || n = 0xa0 || n = 0x1680 ||
    (0x2000 ≤ n && n ≤ 0x200a) || n = 0x2028 || n = 0x2029 || n = 0x202f || n = 0x205f || n = 0x3000

def dropBlanks (cs : List Char) : List Char := cs.dropWhile isBlank

/-- A number as decimal digits, with zeros in front up to `width`. -/
def padded (width : Nat) (n : Nat) : String :=
  let digits := Nat.toDigits 10 n
  String.ofList (List.replicate (width - digits.length) '0' ++ digits)

end EntitySql.Text
