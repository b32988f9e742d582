import EntitySql.Number.Binary

/-! # Arithmetic of binary numbers

Sums and products of numbers `s · 2 ^ e`, each rounded to 53 significant bits, ties to the even number.
Exponents are not bounded. A number falls into two halves (`upper_add_lower`), whose products with other
halves are short. -/

namespace EntitySql

/-- The number `significand · 2 ^ exponent`. -/
structure BinaryNumber where
  significand : Int
  exponent : Int
deriving DecidableEq, Repr

namespace BinaryNumber

/-- The number times `2 ^ -exponent`, for an exponent that is not above its own. -/
def unitsOf (x : BinaryNumber) (exponent : Int) : Int :=
  x.significand * (Nat.pow 2 (x.exponent - exponent).toNat : Nat)

/-- The nearest number of 53 significant bits, ties to the even one. -/
def rounded (x : BinaryNumber) : BinaryNumber :=
  let n := x.significand.natAbs
  let surplus : Int := (n.log2 : Int) - 52
  let m := if 0 ≤ surplus then roundQuotient n (Nat.pow 2 surplus.toNat)
    else n * Nat.pow 2 (-surplus).toNat
  if n = 0 then ⟨0, 0⟩ else ⟨x.significand.sign * m, x.exponent + surplus⟩

instance : Neg BinaryNumber where
  neg x := ⟨-x.significand, x.exponent⟩

instance : Add BinaryNumber where
  add x y :=
    let e := min x.exponent y.exponent
    rounded ⟨x.unitsOf e + y.unitsOf e, e⟩

instance : Sub BinaryNumber where
  sub x y := x + -y

instance : Mul BinaryNumber where
  mul x y := rounded ⟨x.significand * y.significand, x.exponent + y.exponent⟩

/-- Whether `x` is less than `y`. -/
def less (x y : BinaryNumber) : Bool :=
  let e := min x.exponent y.exponent
  x.unitsOf e < y.unitsOf e

/-- The whole number next to `x` in the direction of zero. -/
def truncate (x : BinaryNumber) : Int :=
  if 0 ≤ x.exponent then x.unitsOf 0 else x.significand.tdiv (Nat.pow 2 (-x.exponent).toNat : Nat)

/-- The number without its last 26 bits. -/
def upper (x : BinaryNumber) : BinaryNumber :=
  ⟨x.significand.tdiv 67108864 * 67108864, x.exponent⟩

/-- The last 26 bits of the number. -/
def lower (x : BinaryNumber) : BinaryNumber := ⟨x.significand.tmod 67108864, x.exponent⟩

theorem upper_add_lower (x : BinaryNumber) :
    x.upper.significand + x.lower.significand = x.significand :=
  Int.tdiv_mul_add_tmod x.significand 67108864

/-- The 64-bit number nearest to `num / den`. -/
def ofRatio (num : Int) (den : Nat) : BinaryNumber :=
  match BinaryFormat.binary64.decode (BinaryFormat.binary64.nearest num.natAbs den) with
  | .finite _ m e => ⟨num.sign * m, e⟩
  | _ => ⟨0, 0⟩

end BinaryNumber

end EntitySql
