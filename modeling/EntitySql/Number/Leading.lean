import EntitySql.Number.BinaryPair
import EntitySql.Number.Shortest

/-! # The leading digits of a number

A binary number is multiplied by powers of ten, as a pair of binary numbers, until its whole part has 18
or 19 digits. Of these `leading` keeps the first and rounds up from a half on (`roundHalfUp_eq_iff`).
Products of pairs are not exact, and the whole part of a pair with a negative correction is the next
larger number; so the last digit that is kept may not be the nearest one. -/

namespace EntitySql

/-- The quotient rounded to the nearest natural number, a half up. -/
def roundHalfUp (num den : Nat) : Nat := (2 * num + den) / (2 * den)

/-- The result is the number `q` for which the quotient lies in `[q - 1/2, q + 1/2)`. -/
theorem roundHalfUp_eq_iff {num den q : Nat} (hden : 0 < den) :
    roundHalfUp num den = q ↔ 2 * den * q ≤ 2 * num + den ∧ 2 * num < 2 * den * q + den := by
  rw [roundHalfUp, Nat.div_eq_iff (by omega), Nat.mul_comm q]
  generalize 2 * den * q = point
  omega

/-- The number `value · 10 ^ exponent`. -/
structure ScaledPair where
  value : BinaryPair
  exponent : Int

namespace ScaledPair

/-- The bound that a scaled value does not exceed, times `10 ^ k`. The bound itself is the greatest binary
number below `2 ^ 63`. -/
def bound (k : Int) : BinaryNumber :=
  if 0 ≤ k then .ofRatio (9223372036854774784 * Nat.pow 10 k.toNat : Nat) 1
  else .ofRatio 9223372036854774784 (Nat.pow 10 (-k).toNat)

/-- Moves `10 ^ k` from the exponent into the value while that is `outside`, at most `fuel` times. -/
def shiftWhile (outside : BinaryNumber → Bool) (k : Int) (s : ScaledPair) : (fuel : Nat) → ScaledPair
  | 0 => s
  | fuel + 1 =>
    if outside s.value.high then
      shiftWhile outside k ⟨s.value * BinaryPair.powerOfTen k, s.exponent - k⟩ fuel
    else s

/-- Brings a positive value below the bound and above a tenth of it, by steps of 100, 10 and 1 powers of
ten. No step is taken 20 times. -/
def normalize (s : ScaledPair) : ScaledPair :=
  if (bound 0).less s.value.high then
    ((s.shiftWhile (bound 100).less (-100) 20).shiftWhile (bound 10).less (-10) 20).shiftWhile
      (bound 0).less (-1) 20
  else
    ((s.shiftWhile (·.less (bound (-101))) 100 20).shiftWhile (·.less (bound (-11))) 10 20).shiftWhile
      (·.less (bound (-1))) 1 20

end ScaledPair

/-- The decimal of at most `count` digits that stands for `m · 2 ^ e`, for a positive `m`. -/
def leading (count : Nat) (m : Nat) (e : Int) : Decimal :=
  let s := ScaledPair.normalize ⟨⟨⟨m, e⟩, ⟨0, 0⟩⟩, 0⟩
  let whole := s.value.truncate.toNat
  let surplus := (Nat.toDigits 10 whole).length - count
  Decimal.stripZeros ⟨roundHalfUp whole (Nat.pow 10 surplus), s.exponent + surplus⟩ (count + 1)

end EntitySql
