import EntitySql.Text.Reader

/-! # Calendar dates

Dates of the proleptic Gregorian calendar between the years -262143 and 262142. -/

namespace EntitySql

namespace Date

def isLeapYear (year : Int) : Bool := year % 4 = 0 && (year % 100 != 0 || year % 400 = 0)

def daysInMonth (year : Int) (month : Nat) : Nat :=
  match month with
  | 2 => if isLeapYear year then 29 else 28
  | 4 | 6 | 9 | 11 => 30
  | _ => 31

/-- The year is in range and has such a month with such a day. -/
def Exists (year : Int) (month day : Nat) : Prop :=
  -262143 ≤ year ∧ year ≤ 262142 ∧ 1 ≤ month ∧ month ≤ 12 ∧ 1 ≤ day ∧ day ≤ daysInMonth year month

instance (year : Int) (month day : Nat) : Decidable (Exists year month day) := by
  unfold Exists; infer_instance

end Date

structure Date where
  year : Int
  month : Nat
  day : Nat
  inCalendar : Date.Exists year month day
deriving DecidableEq, Repr

namespace Date

def ofParts? (year : Int) (month day : Nat) : Option Date :=
  if h : Exists year month day then some ⟨year, month, day, h⟩ else none

/-- The day after; `none` at the end of the calendar. -/
def next? (d : Date) : Option Date :=
  (ofParts? d.year d.month (d.day + 1)).or
    ((ofParts? d.year (d.month + 1) 1).or (ofParts? (d.year + 1) 1 1))

/-- The day before; `none` at the start of the calendar. -/
def previous? (d : Date) : Option Date :=
  (ofParts? d.year d.month (d.day - 1)).or
    ((ofParts? d.year (d.month - 1) (daysInMonth d.year (d.month - 1))).or
      (ofParts? (d.year - 1) 12 31))

/-- A year of four digits, or a sign and at least four digits outside of 0 to 9999. -/
def yearText (year : Int) : String :=
  if 0 ≤ year ∧ year ≤ 9999 then Text.padded 4 year.toNat
  else (if year < 0 then "-" else "+") ++ Text.padded 4 year.natAbs

/-- The date as year, month and day with hyphens between. -/
def text (d : Date) : String :=
  yearText d.year ++ "-" ++ Text.padded 2 d.month ++ "-" ++ Text.padded 2 d.day

open Text in
/-- A year behind any blanks: up to four digits, or a sign and any number of digits. -/
def readYear : Reader Int := fun cs =>
  match dropBlanks cs with
  | '-' :: rest => (readSomeDigits rest).map fun (digits, after) => (-(digitsToNat digits : Int), after)
  | '+' :: rest => (readSomeDigits rest).map fun (digits, after) => ((digitsToNat digits : Int), after)
  | rest => (readNat 1 4 rest).map fun (n, after) => ((n : Int), after)

open Text in
/-- One or two digits behind any blanks. -/
def readPart : Reader Nat := fun cs => readNat 1 2 (dropBlanks cs)

open Text in
/-- A date in the lenient notation: blanks may stand before each number, zeros in front may be
missing. -/
def readLenient : Reader Date := fun cs => do
  let (year, cs) ← readYear cs
  let (_, cs) ← readChar '-' cs
  let (month, cs) ← readPart cs
  let (_, cs) ← readChar '-' cs
  let (day, cs) ← readPart cs
  let date ← ofParts? year month day
  return (date, cs)

/-- The date that a text holds, in the lenient notation. -/
def parse? (text : String) : Option Date :=
  match readLenient text.toList with
  | some (date, []) => some date
  | _ => none

end Date

end EntitySql
