import EntitySql.Json.Basic

/-! # Reading JSON numbers

A number without fraction and exponent that fits 64 bits is an integer. Every other number is read in
floating point: its digits go into a 64-bit significand for as long as they fit, and the rounded
significand is multiplied or divided by a rounded power of ten. The result may therefore lie one unit
off the nearest float, but a number past the largest float is always refused. -/

namespace EntitySql.Json

/-! Arithmetic of non-negative 64-bit floats by bit pattern. -/

namespace Double

def ratio (bits : Nat) : Nat × Nat :=
  match BinaryFormat.binary64.decode bits with
  | .finite _ m e => BinaryFormat.ratio m e
  | _ => (0, 1)

def multiply (a b : Nat) : Nat :=
  BinaryFormat.binary64.nearest ((ratio a).1 * (ratio b).1) ((ratio a).2 * (ratio b).2)

def divide (a b : Nat) : Nat :=
  BinaryFormat.binary64.nearest ((ratio a).1 * (ratio b).2) ((ratio a).2 * (ratio b).1)

/-- The float nearest to a power of ten. -/
def power (k : Nat) : Nat := BinaryFormat.binary64.nearest (Nat.pow 10 k) 1

/-- The float times a power of ten, in steps of at most 308 powers; `none` past the largest float. -/
def scale (f : Nat) (exponent : Int) : Option Nat :=
  if exponent < -308 then
    if f = 0 then some 0 else scale (divide f (power 308)) (exponent + 308)
  else if exponent < 0 then some (divide f (power (-exponent).toNat))
  else if exponent ≤ 308 then
    let product := multiply f (power exponent.toNat)
    if product = BinaryFormat.binary64.infinity then none else some product
  else if f = 0 then some 0 else none
termination_by (-exponent).toNat

end Double

/-- The significand with one more digit, if it still fits 64 bits. -/
def absorb (significand digit : Nat) : Option Nat :=
  let next := significand * 10 + digit
  if next < 18446744073709551616 then some next else none

/-- The significand after the digits before the point, and the number of digits left out. -/
def absorbWhole (significand : Nat) : List Nat → Nat × Nat
  | [] => (significand, 0)
  | digit :: digits =>
    match absorb significand digit with
    | some next => absorbWhole next digits
    | none => (significand, (digit :: digits).length)

/-- The significand after the digits behind the point, and the number of digits taken in. -/
def absorbFraction (significand : Nat) : List Nat → Nat × Nat
  | [] => (significand, 0)
  | digit :: digits =>
    match absorb significand digit with
    | some next =>
      let (result, taken) := absorbFraction next digits
      (result, taken + 1)
    | none => (significand, 0)

/-- The parts of a number as written. -/
structure NumberText where
  negative : Bool
  whole : List Nat
  fraction : Option (List Nat)
  /-- The exponent behind the letter `e`. -/
  power : Option Int

namespace NumberText

/-- The number as a float; `none` past the largest one. -/
def toFloat? (t : NumberText) : Option Json :=
  let (significand, leftOut) := absorbWhole 0 t.whole
  let (significand, taken) := absorbFraction significand (t.fraction.getD [])
  let exponent : Int := leftOut - taken + t.power.getD 0
  let start := BinaryFormat.binary64.nearest significand 1
  (Double.scale start exponent).map fun magnitude =>
    .float (UInt64.ofNat (BinaryFormat.binary64.withSign t.negative magnitude))

/-- The document that the number is. Minus zero is a float, so that its sign is kept. -/
def toJson? (t : NumberText) : Option Json :=
  let (significand, leftOut) := absorbWhole 0 t.whole
  let isInteger := t.fraction.isNone && t.power.isNone && leftOut == 0
  if isInteger && !t.negative then some (.int significand)
  else if isInteger && 0 < significand && significand ≤ 9223372036854775808 then some (.int (-significand))
  else t.toFloat?

end NumberText

end EntitySql.Json
