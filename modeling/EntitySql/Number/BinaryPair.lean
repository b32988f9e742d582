import EntitySql.Number.BinaryNumber

/-! # Pairs of binary numbers

A number held as a sum of two binary numbers, the second a correction of the first, has about twice as
many bits. The product of two pairs is formed from products of halves. Two upper halves may have a
product of one bit too many, which is rounded, and so the last bit of a product can be wrong. -/

namespace EntitySql

/-- The number `high + low`. -/
structure BinaryPair where
  high : BinaryNumber
  low : BinaryNumber
deriving DecidableEq, Repr

namespace BinaryPair

instance : Mul BinaryPair where
  mul x y :=
    let tops := x.high.upper * y.high.upper
    let middle := x.high.upper * y.high.lower + x.high.lower * y.high.upper
    let leading := tops + middle
    let rest := tops - leading + middle + x.high.lower * y.high.lower
    let rest := x.high * y.low + x.low * y.high + rest
    let high := leading + rest
    ⟨high, leading - high + rest⟩

/-- The number `num / den`: the nearest binary number, and the one nearest to what is left. -/
def ofRatio (num den : Nat) : BinaryPair :=
  let high := BinaryNumber.ofRatio num den
  let (highNum, highDen) := BinaryFormat.ratio high.significand.natAbs high.exponent
  ⟨high, .ofRatio ((num * highDen : Nat) - (highNum * den : Nat) : Int) (den * highDen)⟩

/-- The power `10 ^ k`. -/
def powerOfTen (k : Int) : BinaryPair :=
  if 0 ≤ k then ofRatio (Nat.pow 10 k.toNat) 1 else ofRatio 1 (Nat.pow 10 (-k).toNat)

/-- The sum of the whole parts, each cut in the direction of zero. -/
def truncate (x : BinaryPair) : Int := x.high.truncate + x.low.truncate

end BinaryPair

end EntitySql
