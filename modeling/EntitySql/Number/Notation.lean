import EntitySql.Number.Leading

/-! # Decimal notation of binary numbers

Three ways to write a floating point number: in JSON, in the description of a value and in the text of
a stored number. They differ in the digits that are kept, in where scientific notation starts and in
the form of an exponent. -/

namespace EntitySql

/-- The digits that a number is written with. -/
inductive Precision where
  /-- As few as read back. -/
  | shortest (tie : TieRule)
  /-- The leading ones, at most so many. -/
  | leading (count : Nat)

/-- Decisions of a number format. -/
structure NumberStyle where
  precision : Precision
  /-- The least power of ten of a leading digit that is written without an exponent. -/
  leastPlain : Int
  /-- The greatest such power. -/
  greatestPlain : Int
  /-- Whether a positive exponent has a plus sign. -/
  plusSign : Bool
  /-- How many digits an exponent has at least. -/
  exponentDigits : Nat := 1
  /-- Whether a digit that stands alone before an exponent is followed by `.0`. -/
  alwaysPoint : Bool := false
  signedZero : Bool := true
  infinity : String := "inf"

namespace NumberStyle

/-- Numbers in JSON text: `0.00001`, `1.0`, `1e+16`. -/
def json : NumberStyle where
  precision := .shortest .even
  leastPlain := -5
  greatestPlain := 15
  plusSign := true

/-- Numbers in descriptions of values: `0.0001`, `1.0`, `1e16`. -/
def description : NumberStyle where
  precision := .shortest .up
  leastPlain := -4
  greatestPlain := 15
  plusSign := false

/-- Stored numbers as text: `1.0e-05`, `0.333333333333333`, `1.0e+15`. -/
def stored : NumberStyle where
  precision := .leading 15
  leastPlain := -4
  greatestPlain := 14
  plusSign := true
  exponentDigits := 2
  alwaysPoint := true
  signedZero := false
  infinity := "Inf"

/-- The decimal without an exponent, at least one digit on each side of the point. -/
def plain (d : Decimal) : String :=
  let digits := Nat.toDigits 10 d.digits
  if 0 ≤ d.exponent then
    String.ofList (digits ++ List.replicate d.exponent.toNat '0') ++ ".0"
  else
    let places := (-d.exponent).toNat
    let padded := List.replicate (places + 1 - digits.length) '0' ++ digits
    let whole := padded.take (padded.length - places)
    let fraction := padded.drop (padded.length - places)
    String.ofList whole ++ "." ++ String.ofList fraction

/-- The decimal with one digit before the point and an exponent. -/
def scientific (style : NumberStyle) (d : Decimal) : String :=
  let digits := Nat.toDigits 10 d.digits
  let power : Int := d.exponent + digits.length - 1
  let mantissa := match digits with
    | first :: second :: rest => String.ofList (first :: '.' :: second :: rest)
    | short => String.ofList short ++ if style.alwaysPoint then ".0" else ""
  let sign := if power < 0 then "-" else if style.plusSign then "+" else ""
  let magnitude := Nat.toDigits 10 power.natAbs
  let padding := List.replicate (style.exponentDigits - magnitude.length) '0'
  mantissa ++ "e" ++ sign ++ String.ofList (padding ++ magnitude)

def write (style : NumberStyle) (d : Decimal) : String :=
  let power : Int := d.exponent + (Nat.toDigits 10 d.digits).length - 1
  if style.leastPlain ≤ power ∧ power ≤ style.greatestPlain then plain d else style.scientific d

/-- The decimal that stands for `m · 2 ^ e`, for a positive `m`. -/
def decimal (style : NumberStyle) (f : BinaryFormat) (m : Nat) (e : Int) : Decimal :=
  match style.precision with
  | .shortest tie => shortest f tie m e
  | .leading count => leading count m e

/-- The text of a bit pattern. -/
def format (style : NumberStyle) (f : BinaryFormat) (bits : Nat) : String :=
  match f.decode bits with
  | .nan => "NaN"
  | .infinite negative => (if negative then "-" else "") ++ style.infinity
  | .finite negative 0 _ => if negative && style.signedZero then "-0.0" else "0.0"
  | .finite negative m e => (if negative then "-" else "") ++ style.write (style.decimal f m e)

end NumberStyle

end EntitySql
