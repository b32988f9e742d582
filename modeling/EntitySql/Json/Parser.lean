import EntitySql.Json.Number
import EntitySql.Text.Reader

/-! # Reading JSON text

Readers for the grammar of JSON. Of two fields with one name the later counts. Objects and arrays may
be nested 127 deep. -/

namespace EntitySql.Json

open Text

/-- The blanks of JSON, fewer than those of other text. -/
def isBlank (c : Char) : Bool := c = ' ' || c = '\n' || c = '\t' || c = '\r'

def skipBlanks (cs : List Char) : List Char := cs.dropWhile Json.isBlank

/-- The digits before the point: no zero stands before another digit. -/
def readWhole : Reader (List Nat) := fun cs =>
  match readDigits cs with
  | ([], _) => none
  | (0 :: _ :: _, _) => none
  | (digits, rest) => some (digits, rest)

def readFraction : Reader (Option (List Nat))
  | '.' :: rest => (readSomeDigits rest).map fun (digits, after) => (some digits, after)
  | cs => some (none, cs)

def readPower : Reader (Option Int) := fun cs =>
  match cs with
  | c :: rest =>
    if c = 'e' ∨ c = 'E' then
      let (negative, digits) := match rest with
        | '-' :: digits => (true, digits)
        | '+' :: digits => (false, digits)
        | digits => (false, digits)
      (readSomeDigits digits).map fun (ds, after) =>
        (some (if negative then -(digitsToNat ds : Int) else digitsToNat ds), after)
    else some (none, cs)
  | [] => some (none, [])

def readNumber (negative : Bool) : Reader Json := fun cs => do
  let (whole, cs) ← readWhole cs
  let (fraction, cs) ← readFraction cs
  let (power, cs) ← readPower cs
  let number ← NumberText.toJson? ⟨negative, whole, fraction, power⟩
  return (number, cs)

/-- Four hexadecimal digits. -/
def readUnit : Reader Nat
  | a :: b :: c :: d :: rest => do
    let a ← hexDigit? a
    let b ← hexDigit? b
    let c ← hexDigit? c
    let d ← hexDigit? d
    return (((a * 16 + b) * 16 + c) * 16 + d, rest)
  | _ => none

/-- The character behind `\u`: one unit, or a high and a low surrogate in two escapes. -/
def readEscapedUnits : Reader Char := fun cs => do
  let (unit, rest) ← readUnit cs
  if 0xD800 ≤ unit ∧ unit < 0xDC00 then
    match rest with
    | '\\' :: 'u' :: rest =>
      let (low, rest) ← readUnit rest
      if 0xDC00 ≤ low ∧ low < 0xE000 then
        return (Char.ofNat (0x10000 + (unit - 0xD800) * 0x400 + (low - 0xDC00)), rest)
      else none
    | _ => none
  else if 0xDC00 ≤ unit ∧ unit < 0xE000 then none
  else return (Char.ofNat unit, rest)

/-- The character behind a backslash. -/
def readEscape : Reader Char
  | '"' :: rest => some ('"', rest)
  | '\\' :: rest => some ('\\', rest)
  | '/' :: rest => some ('/', rest)
  | 'b' :: rest => some ('\x08', rest)
  | 'f' :: rest => some ('\x0c', rest)
  | 'n' :: rest => some ('\n', rest)
  | 'r' :: rest => some ('\r', rest)
  | 't' :: rest => some ('\t', rest)
  | 'u' :: rest => readEscapedUnits rest
  | _ => none

/-- The rest of a string behind its opening quote, in at most `fuel` characters. -/
def readStringWithin : (fuel : Nat) → Reader (List Char)
  | 0, _ => none
  | _ + 1, [] => none
  | fuel + 1, c :: rest =>
    if c = '"' then some ([], rest)
    else if c = '\\' then do
      let (escaped, rest) ← readEscape rest
      let (text, rest) ← readStringWithin fuel rest
      return (escaped :: text, rest)
    else if c.toNat < 0x20 then none
    else do
      let (text, rest) ← readStringWithin fuel rest
      return (c :: text, rest)

def readString : Reader String := fun cs =>
  (readStringWithin cs.length cs).map fun (text, rest) => (String.ofList text, rest)

/-- What follows an element: more elements behind a comma, or the closing bracket. At most `fuel`
elements are read. -/
def readMore {α : Type} (close : Char) (element : Reader α) : (fuel : Nat) → Reader (List α)
  | 0, _ => none
  | fuel + 1, cs =>
    match skipBlanks cs with
    | [] => none
    | c :: rest =>
      if c = close then some ([], rest)
      else if c = ',' then do
        let (item, rest) ← element rest
        let (items, rest) ← readMore close element fuel rest
        return (item :: items, rest)
      else none

/-- The elements between an opening bracket, already read, and the closing one. -/
def readElements {α : Type} (close : Char) (element : Reader α) : Reader (List α) := fun cs =>
  match skipBlanks cs with
  | [] => none
  | c :: rest =>
    if c = close then some ([], rest)
    else do
      let (item, rest) ← element (c :: rest)
      let (items, rest) ← readMore close element rest.length rest
      return (item :: items, rest)

/-- One field of an object: a name, a colon and a value. -/
def readField (value : Reader Json) : Reader (String × Json) := fun cs =>
  match skipBlanks cs with
  | '"' :: rest => do
    let (name, rest) ← readString rest
    match skipBlanks rest with
    | ':' :: rest =>
      let (item, rest) ← value rest
      return ((name, item), rest)
    | _ => none
  | _ => none

/-- A value in which objects and arrays are nested at most `nesting` deep. -/
def readValue (nesting : Nat) : Reader Json := fun cs =>
  match skipBlanks cs with
  | 'n' :: 'u' :: 'l' :: 'l' :: rest => some (.null, rest)
  | 't' :: 'r' :: 'u' :: 'e' :: rest => some (.bool true, rest)
  | 'f' :: 'a' :: 'l' :: 's' :: 'e' :: rest => some (.bool false, rest)
  | '"' :: rest => (readString rest).map fun (text, after) => (.string text, after)
  | '[' :: rest =>
    match nesting with
    | 0 => none
    | inner + 1 =>
      (readElements ']' (readValue inner) rest).map fun (items, after) => (.array items, after)
  | '\x7b' :: rest =>
    match nesting with
    | 0 => none
    | inner + 1 =>
      (readElements '\x7d' (readField (readValue inner)) rest).map fun (fields, after) =>
        (.object (Fields.ofList fields), after)
  | '-' :: rest => readNumber true rest
  | rest => readNumber false rest

/-- How deep a text may nest objects and arrays. -/
def maxNesting : Nat := 127

/-- The document that a text holds, with nothing but blanks around it. -/
def parse? (text : String) : Option Json := do
  let (value, rest) ← readValue maxNesting text.toList
  if (skipBlanks rest).isEmpty then return value else none

end EntitySql.Json
