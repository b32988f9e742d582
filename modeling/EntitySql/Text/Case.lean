import EntitySql.Text.CaseTable

/-! # Upper and lower case

Case mappings of single characters, which may grow (`ß` has the upper case `SS`), and the lower case
of a text, where a capital sigma at the end of a word becomes `ς`. -/

namespace EntitySql.Text

namespace ShiftRun

def covers (r : ShiftRun) (code : Nat) : Bool :=
  r.first ≤ code && code ≤ r.last && (code - r.first) % r.step == 0

def apply (r : ShiftRun) (code : Nat) : Nat := (code + r.shift).toNat

end ShiftRun

def Stride.covers (r : Stride) (code : Nat) : Bool :=
  r.first ≤ code && code ≤ r.last && (code - r.first) % r.step == 0

/-- Whether one of the runs, ends included, holds the code point. -/
def inRuns (runs : Array (Nat × Nat)) (code : Nat) : Bool :=
  runs.any fun (first, last) => first ≤ code && code ≤ last

/-- The mapping given by the runs and the longer entries; every other character maps to itself. -/
def mapChar (runs : Array ShiftRun) (long : Array (Nat × List Nat)) (c : Char) : List Char :=
  match runs.find? (·.covers c.toNat) with
  | some run => [Char.ofNat (run.apply c.toNat)]
  | none =>
    match long.find? (·.1 == c.toNat) with
    | some (_, codes) => codes.map Char.ofNat
    | none => [c]

def lowerChar (c : Char) : List Char := mapChar CaseTable.toLower CaseTable.toLowerLong c

def upperChar (c : Char) : List Char := mapChar CaseTable.toUpper CaseTable.toUpperLong c

def isUppercase (c : Char) : Bool := CaseTable.uppercase.any (·.covers c.toNat)

def isCaseIgnorable (c : Char) : Bool := inRuns CaseTable.caseIgnorable c.toNat

def isCased (c : Char) : Bool := inRuns CaseTable.cased c.toNat

/-- Whether the first character that is not case-ignorable is cased. -/
def startsCased (cs : List Char) : Bool :=
  match cs.dropWhile isCaseIgnorable with
  | [] => false
  | c :: _ => isCased c

/-- The lower case of a capital sigma after the reversed text `before`: the final form where a cased
letter stands before it and none after it. -/
def lowerSigma (before after : List Char) : Char :=
  if startsCased before && !startsCased after then 'ς' else 'σ'

/-- Lower case of the second text, which follows the reversed first one. -/
def lowerAfter (before : List Char) : List Char → List Char
  | [] => []
  | c :: rest =>
    let mapped := if c = 'Σ' then [lowerSigma before rest] else lowerChar c
    mapped ++ lowerAfter (c :: before) rest

/-- The lower case of a text. -/
def lower (s : String) : String := String.ofList (lowerAfter [] s.toList)

/-- The text with its first character in upper case. -/
def capitalize (s : String) : String :=
  match s.toList with
  | [] => ""
  | c :: rest => String.ofList (upperChar c ++ rest)

/-- The text with its first character in lower case. -/
def decapitalize (s : String) : String :=
  match s.toList with
  | [] => ""
  | c :: rest => String.ofList (lowerChar c ++ rest)

/-- The snake case of a text that follows `written` (reversed, nothing at the start): each capital
is lowered, after an underscore unless one or nothing stands before it. -/
def snakeAfter (written : List Char) : List Char → List Char
  | [] => written.reverse
  | c :: rest =>
    if isUppercase c then
      let gap := match written with
        | [] => []
        | last :: _ => if last = '_' then [] else ['_']
      snakeAfter ((lowerChar c).reverse ++ gap ++ written) rest
    else snakeAfter (c :: written) rest

/-- Words in lower case with underscores between them: `totalPages` becomes `total_pages`. -/
def snakeCase (s : String) : String := String.ofList (snakeAfter [] s.toList)

end EntitySql.Text
