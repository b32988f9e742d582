import EntitySql.Calendar.Date

/-! # Points in time

Timestamps in universal time to the nanosecond. The last second of a minute may be a leap second: it
then has more than a thousand million nanoseconds, and is written as second 60. -/

namespace EntitySql

/-- The nanoseconds of one second. -/
def nanosPerSecond : Nat := 1000000000

/-- A time of day. From the first nanosecond of a leap second on, `nanosecond` counts past one
second. -/
structure TimeOfDay where
  hour : Nat
  minute : Nat
  second : Nat
  nanosecond : Nat
  hour_lt : hour < 24
  minute_lt : minute < 60
  second_lt : second < 60
  nanosecond_lt : nanosecond < 2 * nanosPerSecond
  leap : nanosPerSecond ≤ nanosecond → second = 59
deriving DecidableEq, Repr

namespace TimeOfDay

/-- The time with these parts, where the second 60 is a leap second. -/
def ofParts? (hour minute second nanosecond : Nat) : Option TimeOfDay :=
  if h : hour < 24 ∧ minute < 60 ∧ second ≤ 60 ∧ nanosecond < nanosPerSecond then
    if h60 : second = 60 then
      some ⟨hour, minute, 59, nanosPerSecond + nanosecond, h.1, h.2.1, by omega,
        by have := h.2.2.2; omega, fun _ => rfl⟩
    else
      some ⟨hour, minute, second, nanosecond, h.1, h.2.1, by omega, by have := h.2.2.2; omega,
        fun hn => by have := h.2.2.2; omega⟩
  else none

/-- The second as written, 60 in a leap second. -/
def writtenSecond (t : TimeOfDay) : Nat := t.second + t.nanosecond / nanosPerSecond

/-- The fraction of a second: none, or the fewest of 3, 6 and 9 digits that are exact. -/
def fractionText (t : TimeOfDay) : String :=
  let n := t.nanosecond % nanosPerSecond
  if n = 0 then ""
  else if n % 1000000 = 0 then "." ++ Text.padded 3 (n / 1000000)
  else if n % 1000 = 0 then "." ++ Text.padded 6 (n / 1000)
  else "." ++ Text.padded 9 n

def text (t : TimeOfDay) : String :=
  Text.padded 2 t.hour ++ ":" ++ Text.padded 2 t.minute ++ ":" ++ Text.padded 2 t.writtenSecond
    ++ t.fractionText

end TimeOfDay

/-- A point in time, in universal time. -/
structure Timestamp where
  date : Date
  time : TimeOfDay
deriving DecidableEq, Repr

namespace Timestamp

/-- The timestamp with a name for universal time at its end. -/
def textWith (zone : String) (t : Timestamp) : String := t.date.text ++ "T" ++ t.time.text ++ zone

/-- The timestamp ending in `Z`. -/
def text (t : Timestamp) : String := t.textWith "Z"

/-- The timestamp ending in a numeric offset. -/
def textWithOffset (t : Timestamp) : String := t.textWith "+00:00"

/-- The universal time of a local time that is `offset` minutes ahead. -/
def ofLocal? (date : Date) (time : TimeOfDay) (offset : Int) : Option Timestamp :=
  let minutes : Int := time.hour * 60 + time.minute - offset
  let day := minutes.fdiv 1440
  let ofDay := (minutes.fmod 1440).toNat
  let date? :=
    if day = 0 then some date else if day = 1 then date.next?
    else if day = -1 then date.previous? else none
  if h : ofDay / 60 < 24 then
    date?.map fun date =>
      ⟨date, { time with
        hour := ofDay / 60
        minute := ofDay % 60
        hour_lt := h
        minute_lt := Nat.mod_lt _ (by decide) }⟩
  else none

open Text

/-- The fraction behind a point: digits past the ninth are read over. -/
def readNanoseconds : Reader Nat := fun cs =>
  match takeDigits 9 cs with
  | ([], _) => none
  | (digits, rest) =>
    some (digitsToNat digits * Nat.pow 10 (9 - digits.length), (readDigits rest).2)

/-- The fraction of a second with its point, or nothing. -/
def readFraction : Reader Nat
  | '.' :: rest => readNanoseconds rest
  | cs => some (0, cs)

/-- An offset from universal time in minutes: `Z`, or a sign, hours up to 23, a colon and minutes up
to 59. -/
def readOffset : Reader Int := fun cs =>
  let clock (sign : Int) : Reader Int := fun cs => do
    let (hours, cs) ← readNat 2 2 cs
    let (_, cs) ← readChar ':' cs
    let (minutes, cs) ← readNat 2 2 cs
    if hours < 24 ∧ minutes < 60 then return (sign * (hours * 60 + minutes), cs) else none
  match cs with
  | [] => none
  | c :: rest =>
    if c = 'Z' ∨ c = 'z' then some (0, rest)
    else if c = '+' then clock 1 rest
    else if c = '-' ∨ c = '\u2212' then clock (-1) rest
    else none

/-- A time of day with all digits of its numbers and an offset, on a date. -/
def readZoned (date : Date) : Reader Timestamp := fun cs => do
  let (hour, cs) ← readNat 2 2 cs
  let (_, cs) ← readChar ':' cs
  let (minute, cs) ← readNat 2 2 cs
  let (_, cs) ← readChar ':' cs
  let (second, cs) ← readNat 2 2 cs
  let (nanosecond, cs) ← readFraction cs
  let (offset, cs) ← readOffset cs
  let time ← TimeOfDay.ofParts? hour minute second nanosecond
  let timestamp ← ofLocal? date time offset
  return (timestamp, cs)

/-- A timestamp after RFC 3339: every number with all its digits, the letter `T` or a space between
date and time, and an offset at the end. -/
def readStrict : Reader Timestamp := fun cs => do
  let (year, cs) ← readNat 4 4 cs
  let (_, cs) ← readChar '-' cs
  let (month, cs) ← readNat 2 2 cs
  let (_, cs) ← readChar '-' cs
  let (day, cs) ← readNat 2 2 cs
  let date ← Date.ofParts? year month day
  match cs with
  | c :: rest => if c = 'T' ∨ c = 't' ∨ c = ' ' then readZoned date rest else none
  | [] => none

/-- A timestamp as `text` writes it, where a year may have more than four digits and a sign. -/
def readExtended : Reader Timestamp := fun cs => do
  let (date, cs) ← Date.readLenient cs
  let (_, cs) ← readChar 'T' cs
  readZoned date cs

/-- A date and a time in universal time in the lenient notation: blanks may stand before each number
and between date and time, zeros in front may be missing, and there is no offset. -/
def readLenient : Reader Timestamp := fun cs => do
  let (date, cs) ← Date.readLenient cs
  let (hour, cs) ← Date.readPart cs
  let (_, cs) ← readChar ':' cs
  let (minute, cs) ← Date.readPart cs
  let (_, cs) ← readChar ':' cs
  let (second, cs) ← Date.readPart cs
  let (nanosecond, cs) ← readFraction cs
  let time ← TimeOfDay.ofParts? hour minute second nanosecond
  return (⟨date, time⟩, cs)

/-- A reader that has to read all of the text. -/
def readAll (reader : Reader Timestamp) (cs : List Char) : Option Timestamp :=
  match reader cs with
  | some (timestamp, []) => some timestamp
  | _ => none

/-- The timestamp that a text written by `text` holds. -/
def parseExtended? (text : String) : Option Timestamp := readAll readExtended text.toList

/-- The timestamp that a text holds, in the strict notation or else in the lenient one. -/
def parse? (text : String) : Option Timestamp :=
  (readAll readStrict text.toList).or (readAll readLenient text.toList)

end Timestamp

end EntitySql
