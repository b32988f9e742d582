import EntitySql.Number.Binary

/-! # The shortest decimal that reads back

Of all decimals that round to a given binary number, `shortest` finds one with the fewest digits and
of those the nearest. It tests one decimal grid after the other, coarse to fine, and of a grid only
the two neighbours of the number: if any point of a grid rounds to the number, one of them does. -/

namespace EntitySql

/-- The decimal `digits · 10 ^ exponent`. -/
structure Decimal where
  digits : Nat
  exponent : Int
deriving DecidableEq, Repr

/-- Which neighbour is taken when two decimals are equally near. -/
inductive TieRule where
  | even
  | up
deriving DecidableEq, Repr

/-- The exponent `k` with `10 ^ k ≤ num / den < 10 ^ (k + 1)`, for positive numbers. -/
def floorLog10 (num den : Nat) : Int :=
  let k : Int := (floorLog2 num den * 30103).fdiv 100000
  let atLeast (k : Int) : Bool :=
    if 0 ≤ k then den * Nat.pow 10 k.toNat ≤ num else den ≤ num * Nat.pow 10 (-k).toNat
  if atLeast (k + 1) then k + 1 else if atLeast k then k else k - 1

/-- A positive binary number with the interval of reals that round to it, all over one denominator. -/
structure RoundingInterval where
  low : Nat
  value : Nat
  high : Nat
  den : Nat
  closed : Bool

namespace RoundingInterval

/-- The interval of `m · 2 ^ e`: half a unit to both sides, a quarter below a power of two, where the
numbers lie closer. It holds its ends when the significand is even. -/
def ofFinite (f : BinaryFormat) (m : Nat) (e : Int) : RoundingInterval :=
  let narrow := m = Nat.pow 2 f.fractionBits ∧ f.leastExponent < e
  let (scale, den) := BinaryFormat.ratio 1 (e - 2)
  { low := (if narrow then 4 * m - 1 else 4 * m - 2) * scale
    value := 4 * m * scale
    high := (4 * m + 2) * scale
    den := den
    closed := m % 2 = 0 }

/-- Whether `digits · unit` lies in the interval, where the unit is `unitNum / unitDen`. -/
def holds (i : RoundingInterval) (digits unitNum unitDen : Nat) : Bool :=
  let point := digits * unitNum * i.den
  if i.closed then i.low * unitDen ≤ point && point ≤ i.high * unitDen
  else i.low * unitDen < point && point < i.high * unitDen

/-- The neighbour of the value on the grid of `10 ^ k` that rounds to it; of two the nearer. -/
def onGrid (i : RoundingInterval) (tie : TieRule) (k : Int) : Option Nat :=
  let unitNum := if 0 ≤ k then Nat.pow 10 k.toNat else 1
  let unitDen := if 0 ≤ k then 1 else Nat.pow 10 (-k).toNat
  let num := i.value * unitDen
  let den := i.den * unitNum
  let below := num / den
  let rest := num % den
  match i.holds below unitNum unitDen, i.holds (below + 1) unitNum unitDen with
  | true, true =>
    if 2 * rest < den then some below
    else if den < 2 * rest then some (below + 1)
    else match tie with
      | .up => some (below + 1)
      | .even => if below % 2 = 0 then some below else some (below + 1)
  | true, false => some below
  | false, true => some (below + 1)
  | false, false => none

/-- The first grid with a hit, from `10 ^ k` on over `grids` ever finer ones. -/
def search (i : RoundingInterval) (tie : TieRule) (k : Int) : (grids : Nat) → Decimal
  | 0 => ⟨i.value / i.den, 0⟩
  | grids + 1 =>
    match i.onGrid tie k with
    | some digits => ⟨digits, k⟩
    | none => i.search tie (k - 1) grids

end RoundingInterval

/-- Moves trailing zeros of the digits into the exponent, at most `fuel` of them. -/
def Decimal.stripZeros (d : Decimal) : (fuel : Nat) → Decimal
  | 0 => d
  | fuel + 1 =>
    if d.digits ≠ 0 ∧ d.digits % 10 = 0 then stripZeros ⟨d.digits / 10, d.exponent + 1⟩ fuel else d

/-- The shortest decimal that rounds to `m · 2 ^ e`, for a positive `m`. Seventeen digits suffice in
either format. -/
def shortest (f : BinaryFormat) (tie : TieRule) (m : Nat) (e : Int) : Decimal :=
  let i := RoundingInterval.ofFinite f m e
  (i.search tie (floorLog10 i.value i.den) 18).stripZeros 18

end EntitySql
