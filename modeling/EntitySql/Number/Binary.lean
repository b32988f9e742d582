/-! # Binary floating point as exact arithmetic

A number of a binary interchange format is a bit pattern; its finite values are `±m · 2^e`. Rounding
takes a ratio of natural numbers to the nearest pattern, ties to the even one. -/

namespace EntitySql

/-- A binary interchange format: the number of stored significand bits and of exponent bits. -/
structure BinaryFormat where
  fractionBits : Nat
  exponentBits : Nat

/-- What a bit pattern stands for. -/
inductive BinaryContent where
  | nan
  | infinite (negative : Bool)
  /-- The value `significand · 2 ^ exponent`, or its opposite. -/
  | finite (negative : Bool) (significand : Nat) (exponent : Int)
deriving DecidableEq, Repr

/-- The exponent `k` with `2 ^ k ≤ num / den < 2 ^ (k + 1)`, for positive numbers. -/
def floorLog2 (num den : Nat) : Int :=
  let k : Int := (num.log2 : Int) - (den.log2 : Int)
  let below := if 0 ≤ k then num < den * Nat.pow 2 k.toNat else num * Nat.pow 2 (-k).toNat < den
  if below then k - 1 else k

/-- The quotient rounded to the nearest natural number, ties to the even one. -/
def roundQuotient (num den : Nat) : Nat :=
  let q := num / den
  let r := num % den
  if 2 * r < den then q
  else if den < 2 * r then q + 1
  else if q % 2 = 0 then q else q + 1

namespace BinaryFormat

def binary32 : BinaryFormat := ⟨23, 8⟩

def binary64 : BinaryFormat := ⟨52, 11⟩

/-- The exponent of the smallest positive number, which is `2` to that power. -/
def leastExponent (f : BinaryFormat) : Int :=
  2 - (Nat.pow 2 (f.exponentBits - 1) : Int) - (f.fractionBits : Int)

/-- The pattern of positive infinity. -/
def infinity (f : BinaryFormat) : Nat := (Nat.pow 2 f.exponentBits - 1) * Nat.pow 2 f.fractionBits

/-- The sign bit alone. -/
def signBit (f : BinaryFormat) : Nat := Nat.pow 2 (f.exponentBits + f.fractionBits)

def decode (f : BinaryFormat) (bits : Nat) : BinaryContent :=
  let negative := bits / f.signBit % 2 = 1
  let magnitude := bits % f.signBit
  let biased := magnitude / Nat.pow 2 f.fractionBits
  let fraction := magnitude % Nat.pow 2 f.fractionBits
  if magnitude = f.infinity then .infinite negative
  else if f.infinity < magnitude then .nan
  else if biased = 0 then .finite negative fraction f.leastExponent
  else .finite negative (Nat.pow 2 f.fractionBits + fraction) (f.leastExponent + biased - 1)

/-- The pattern of the number nearest to `num / den`, ties to the even pattern; infinity where the
ratio is too large. Patterns of neighbouring numbers are neighbours, so that one carry rounds up
across a power of two, and from the largest number to infinity. -/
def nearest (f : BinaryFormat) (num den : Nat) : Nat :=
  if num = 0 then 0
  else
    let e := max f.leastExponent (floorLog2 num den - f.fractionBits)
    let m := if 0 ≤ e then roundQuotient num (den * Nat.pow 2 e.toNat)
      else roundQuotient (num * Nat.pow 2 (-e).toNat) den
    min f.infinity ((e - f.leastExponent).toNat * Nat.pow 2 f.fractionBits + m)

def withSign (f : BinaryFormat) (negative : Bool) (magnitude : Nat) : Nat :=
  if negative then f.signBit + magnitude else magnitude

/-- A finite value as a ratio. -/
def ratio (m : Nat) (e : Int) : Nat × Nat :=
  if 0 ≤ e then (m * Nat.pow 2 e.toNat, 1) else (m, Nat.pow 2 (-e).toNat)

/-- The nearest number to an integer. -/
def ofInt (f : BinaryFormat) (n : Int) : Nat := f.withSign (n < 0) (f.nearest n.natAbs 1)

/-- The same value, rounded, in another format; what is not a number stays so. -/
def convert (f g : BinaryFormat) (bits : Nat) : Nat :=
  match f.decode bits with
  | .nan => g.infinity + Nat.pow 2 (g.fractionBits - 1)
  | .infinite negative => g.withSign negative g.infinity
  | .finite negative m e =>
    let (num, den) := ratio m e
    g.withSign negative (g.nearest num den)

end BinaryFormat

end EntitySql
