/-!
# Binary floating-point numbers of 64 bits

A finite number of this format is a significand below two to the fifty-third times a power of two.
The view `Binary64` decodes the bits of a number, and `nearest` finds the number closest to a
fraction in exact arithmetic: of two equally close ones that with the even significand, and infinity
from the point on where the format ends.
-/

namespace UriEndpoint

/-- What the bits of a floating-point number stand for. -/
inductive Binary64 where
  | nan
  | infinite (negative : Bool)
  | finite (negative : Bool) (significand : Nat) (exponent : Int)
deriving DecidableEq, Repr

namespace Binary64

/-- The number of bits of a fraction field. -/
def fractionBits : Nat := 52

/-- The exponent of the smallest positive number. -/
def leastExponent : Int := -1074

/-- The exponent field of infinities and of no number. -/
def topField : Nat := 2047

/-- Decodes a floating-point number. -/
def ofFloat (number : Float) : Binary64 :=
  let bits := number.toBits.toNat
  let negative := bits / Nat.pow 2 63 == 1
  let field := bits / Nat.pow 2 fractionBits % Nat.pow 2 11
  let fraction := bits % Nat.pow 2 fractionBits
  if field = topField then
    if fraction = 0 then .infinite negative else .nan
  else if field = 0 then .finite negative fraction leastExponent
  else .finite negative (fraction + Nat.pow 2 fractionBits) (leastExponent + field - 1)

/-- A quotient rounded to the nearest integer, a half to the even one. -/
def roundedQuotient (numerator denominator : Nat) : Nat :=
  let quotient := numerator / denominator
  let twice := 2 * (numerator % denominator)
  if twice < denominator ∨ (twice = denominator ∧ quotient % 2 = 0) then quotient
  else quotient + 1

/-- A fraction times a power of two, as a fraction again. -/
def scaledByPower (numerator denominator : Nat) (exponent : Int) : Nat × Nat :=
  if 0 ≤ exponent then (numerator * Nat.pow 2 exponent.toNat, denominator)
  else (numerator, denominator * Nat.pow 2 (-exponent).toNat)

/-- The greatest exponent of a power of two that a positive fraction reaches. -/
def floorLog (numerator denominator : Nat) : Int :=
  let guess : Int := (numerator.log2 : Int) - denominator.log2
  let scaled := scaledByPower numerator denominator (-guess)
  if scaled.2 ≤ scaled.1 then guess else guess - 1

/-- The magnitude bits of the number nearest to a fraction. -/
def nearestBits (numerator denominator : Nat) : Nat :=
  if numerator = 0 then 0
  else
    let exponent := max (floorLog numerator denominator - fractionBits) leastExponent
    let scaled := scaledByPower numerator denominator (-exponent)
    let bits := (exponent - leastExponent).toNat * Nat.pow 2 fractionBits
      + roundedQuotient scaled.1 scaled.2
    min bits (topField * Nat.pow 2 fractionBits)

/-- The number with this sign and these magnitude bits. -/
def ofBits (negative : Bool) (bits : Nat) : Float :=
  Float.ofBits (UInt64.ofNat (bits + if negative then Nat.pow 2 63 else 0))

/-- The number nearest to a fraction, with the given sign. -/
def nearest (negative : Bool) (numerator denominator : Nat) : Float :=
  ofBits negative (nearestBits numerator denominator)

/-- The positive or negative infinity. -/
def infinity (negative : Bool) : Float := ofBits negative (topField * Nat.pow 2 fractionBits)

/-- The value that is no number. -/
def notANumber : Float := ofBits false (topField * Nat.pow 2 fractionBits + Nat.pow 2 51)

/-- The number nearest to an integer. -/
def nearestInt (value : Int) : Float := nearest (decide (value < 0)) value.natAbs 1

/-- Beyond this power of ten every significand overflows, and below its negative it vanishes. -/
def decimalReach : Nat := 400

/-- The number nearest to a decimal significand times a power of ten. -/
def nearestDecimal (negative : Bool) (significand : Nat) (exponent : Int) : Float :=
  if significand = 0 then nearest negative 0 1
  else if (decimalReach : Int) < exponent then infinity negative
  else if exponent < -((decimalReach : Int) + significand.log2) then nearest negative 0 1
  else if 0 ≤ exponent then nearest negative (significand * Nat.pow 10 exponent.toNat) 1
  else nearest negative significand (Nat.pow 10 (-exponent).toNat)

/-- The integer that a number is, if it is one. -/
def toInt? : Binary64 → Option Int
  | finite negative significand exponent =>
      let size :=
        if 0 ≤ exponent then some (significand * Nat.pow 2 exponent.toNat)
        else if significand % Nat.pow 2 (-exponent).toNat = 0 then
          some (significand / Nat.pow 2 (-exponent).toNat)
        else none
      size.map fun size => if negative then -(size : Int) else size
  | _ => none

/-- Whether a number lies above zero. -/
def isPositive : Binary64 → Bool
  | finite negative significand _ => !negative && significand != 0
  | infinite negative => !negative
  | nan => false

end Binary64

end UriEndpoint
