namespace ChatGateway

/-! Finite doubles as exact numbers, and the shortest decimal that stands for
one: the fewest digits that lie in the interval of reals which round to the
double, and of those the nearest. All arithmetic is on natural numbers. -/

/-- The number `± significand · 2 ^ exponent`. -/
structure Dyadic where
  negative : Bool
  significand : Nat
  exponent : Int
  deriving DecidableEq

def Dyadic.ofFloat (value : Float) : Dyadic :=
  let bits := value.toBits.toNat
  let fraction := bits % Nat.pow 2 52
  let biased : Nat := bits / Nat.pow 2 52 % Nat.pow 2 11
  { negative := bits / Nat.pow 2 63 == 1
    significand := if biased = 0 then fraction else Nat.pow 2 52 + fraction
    exponent := if biased = 0 then -1074 else (biased : Int) - 1075 }

example : Dyadic.ofFloat (-1.5) = ⟨true, 3 * Nat.pow 2 51, -52⟩ := by decide

/-- The number `coefficient · 10 ^ exponent`. -/
structure Decimal where
  coefficient : Nat
  exponent : Int
  deriving DecidableEq

namespace Decimal

def digitCount (value : Nat) : Nat :=
  (Nat.toDigits 10 value).length

/-- The power of ten just above a positive quotient. -/
def magnitude (numerator denominator : Nat) : Int :=
  if denominator ≤ numerator then
    digitCount (numerator / denominator)
  else
    1 - digitCount ((denominator - 1) / numerator)

/-! The reals that round to a double, over one common denominator. The ends
belong to the interval when the significand is even. Below a power of two the
neighbouring doubles are closer by half. -/

structure Interval where
  low : Nat
  value : Nat
  high : Nat
  denominator : Nat
  closed : Bool

def Interval.ofDyadic (number : Dyadic) : Interval :=
  let significand := number.significand
  let narrow := significand = Nat.pow 2 52 ∧ -1074 < number.exponent
  let quarter := number.exponent - 2
  let scale := Nat.pow 2 quarter.toNat
  { low := (4 * significand - if narrow then 1 else 2) * scale
    value := 4 * significand * scale
    high := (4 * significand + 2) * scale
    denominator := Nat.pow 2 (-quarter).toNat
    closed := significand % 2 == 0 }

def Interval.holds (interval : Interval) (point : Nat) : Bool :=
  if interval.closed then
    interval.low ≤ point && point ≤ interval.high
  else
    interval.low < point && point < interval.high

/-- The multiple of `10 ^ exponent` in the interval that is nearest to its
value; of two equally near the even one. -/
def Interval.onGrid (interval : Interval) (exponent : Int) : Option Nat :=
  let scale := Nat.pow 10 (-exponent).toNat
  let unit := interval.denominator * Nat.pow 10 exponent.toNat
  let scaled := { interval with
    low := interval.low * scale
    value := interval.value * scale
    high := interval.high * scale }
  let below := scaled.value / unit
  let above := below + 1
  match scaled.holds (below * unit), scaled.holds (above * unit) with
  | false, false => none
  | true, false => some below
  | false, true => some above
  | true, true =>
      let toBelow := scaled.value - below * unit
      let toAbove := above * unit - scaled.value
      if toBelow < toAbove || (toBelow == toAbove && below % 2 == 0) then some below
      else some above

def withoutTrailingZeros : (fuel : Nat) → Decimal → Decimal
  | 0, decimal => decimal
  | fuel + 1, decimal =>
      if decimal.coefficient ≠ 0 ∧ decimal.coefficient % 10 = 0 then
        withoutTrailingZeros fuel ⟨decimal.coefficient / 10, decimal.exponent + 1⟩
      else decimal

/-- The shortest decimal of a positive double. Seventeen digits always suffice. -/
def shortest (number : Dyadic) : Decimal :=
  let interval := Interval.ofDyadic number
  let above := magnitude interval.value interval.denominator
  let found := (List.range 17).findSome? fun (count : Nat) =>
    let exponent := above - (count + 1)
    (interval.onGrid exponent).map fun coefficient => Decimal.mk coefficient exponent
  withoutTrailingZeros 20 (found.getD ⟨0, 0⟩)

example : shortest (Dyadic.ofFloat 0.1) = ⟨1, -1⟩ := by decide +kernel
example : shortest (Dyadic.ofFloat 5e-324) = ⟨5, -324⟩ := by decide +kernel
example : shortest (Dyadic.ofFloat (0.1 + 0.2)) = ⟨30000000000000004, -17⟩ := by
  decide +kernel

end Decimal

end ChatGateway
