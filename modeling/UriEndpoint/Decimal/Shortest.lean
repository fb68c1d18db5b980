import UriEndpoint.Decimal.Binary64

/-!
# Shortest decimal digits

The decimal that stands for a floating-point number is the one with the fewest digits that reads
back as that number; among those the nearest, and of two equally near ones the even. A decimal reads
back when it lies in the interval of the reals that round to the number, whose ends belong to it
exactly when the significand is even. The search tries one digit, then two, up to seventeen, and
looks at the two neighbours of the number on each grid.
-/

namespace UriEndpoint

/-- A positive decimal: its digits as a number, and the power of ten of the last digit. -/
structure Decimal where
  digits : Nat
  exponent : Int
deriving DecidableEq, Repr

namespace Decimal

/-- A number and the interval of the reals that round to it, over a common denominator. -/
structure Interval where
  low : Nat
  value : Nat
  high : Nat
  denominator : Nat
  closed : Bool

/-- The interval around a positive number; below a power of two the gap is half as wide. -/
def intervalOf (significand : Nat) (exponent : Int) : Interval :=
  let narrow := significand = Nat.pow 2 Binary64.fractionBits ∧ Binary64.leastExponent < exponent
  let up := Nat.pow 2 (exponent - 2).toNat
  { low := (4 * significand - if narrow then 1 else 2) * up
    value := 4 * significand * up
    high := (4 * significand + 2) * up
    denominator := Nat.pow 2 (2 - exponent).toNat
    closed := significand % 2 == 0 }

/-- The interval measured in units of a power of ten. -/
def Interval.inUnitsOf (interval : Interval) (exponent : Int) : Interval :=
  let up := Nat.pow 10 (-exponent).toNat
  { interval with
    low := interval.low * up
    value := interval.value * up
    high := interval.high * up
    denominator := interval.denominator * Nat.pow 10 exponent.toNat }

/-- Whether an integer lies in the interval. -/
def Interval.holds (interval : Interval) (integer : Nat) : Bool :=
  let point := integer * interval.denominator
  if interval.closed then interval.low ≤ point && point ≤ interval.high
  else interval.low < point && point < interval.high

/-- The nearer of the value's two neighbours among the integers of the interval. -/
def Interval.nearest? (interval : Interval) : Option Nat :=
  let below := interval.value / interval.denominator
  let twice := 2 * (interval.value % interval.denominator)
  match interval.holds below, interval.holds (below + 1) with
  | true, true =>
      if twice < interval.denominator ∨ (twice = interval.denominator ∧ below % 2 = 0) then
        some below
      else some (below + 1)
  | true, false => some below
  | false, true => some (below + 1)
  | false, false => none

/-- Whether the value lies below a power of ten. -/
def Interval.isBelow (interval : Interval) (exponent : Int) : Bool :=
  let scaled := interval.inUnitsOf exponent
  scaled.value < scaled.denominator

/-- The least power of ten above the value, searched upward from a lower estimate. -/
def Interval.pointFrom (interval : Interval) : Nat → Int → Int
  | 0, estimate => estimate
  | steps + 1, estimate =>
      if interval.isBelow estimate then estimate
      else interval.pointFrom steps (estimate + 1)

/-- The power of ten that the first digit stands just below. -/
def Interval.point (interval : Interval) : Int :=
  let estimate := Binary64.floorLog interval.value interval.denominator * 30103 / 100000
  interval.pointFrom 3 estimate

/-- Tries grids of ever more digits. -/
def Interval.search (interval : Interval) (point : Int) : Nat → Nat → Decimal
  | 0, count =>
      let exponent := point - count
      let scaled := interval.inUnitsOf exponent
      ⟨Binary64.roundedQuotient scaled.value scaled.denominator, exponent⟩
  | more + 1, count =>
      match (interval.inUnitsOf (point - count)).nearest? with
      | some digits => ⟨digits, point - count⟩
      | none => interval.search point more (count + 1)

/-- Drops zeros at the end of the digits. -/
def withoutEndZeros (digits : Nat) (exponent : Int) : Nat → Decimal
  | 0 => ⟨digits, exponent⟩
  | steps + 1 =>
      if digits % 10 = 0 ∧ digits ≠ 0 then withoutEndZeros (digits / 10) (exponent + 1) steps
      else ⟨digits, exponent⟩

/-- The most digits that a number can need. -/
def mostDigits : Nat := 17

/-- The shortest decimal that reads back as a positive number. -/
def shortest (significand : Nat) (exponent : Int) : Decimal :=
  let interval := intervalOf significand exponent
  let found := interval.search interval.point (mostDigits - 1) 1
  withoutEndZeros found.digits found.exponent mostDigits

end Decimal

end UriEndpoint
