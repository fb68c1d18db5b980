import UriEndpoint.Text.Basic
import UriEndpoint.Decimal.Shortest

/-!
# Numbers in text

An integer is written in decimal digits. A floating-point number is written with its shortest
digits: positionally, with at least one digit after the point, when the power of ten of its first
digit lies between minus four and fifteen, otherwise in scientific notation with a signed exponent
of at least two digits. What stands for infinity and for no number depends on where it is written.
-/

namespace UriEndpoint

/-- The decimal digits of a natural number. -/
def natText (number : Nat) : Text := Nat.toDigits 10 number

/-- An integer in decimal digits. -/
def intText (number : Int) : Text :=
  if number < 0 then '-' :: natText number.natAbs else natText number.natAbs

/-- A natural number padded with zeros on the left. -/
def paddedNat (width number : Nat) : Text :=
  let digits := natText number
  List.replicate (width - digits.length) '0' ++ digits

/-- What stands for the values that are no finite numbers. -/
structure RealNames where
  infinity : Text
  notANumber : Text

/-- The names used in messages and console lines. -/
def RealNames.plain : RealNames := ⟨"inf".toList, "nan".toList⟩

/-- The names used in JSON lines. -/
def RealNames.json : RealNames := ⟨"Infinity".toList, "NaN".toList⟩

/-- The least power of ten of a first digit that is written positionally. -/
def leastPositional : Int := -4

/-- The least power of ten of a first digit that is written in scientific notation again. -/
def leastScientific : Int := 16

/-- The fewest digits of a written exponent. -/
def exponentWidth : Nat := 2

/-- Digits with the point after the first `point` of them. -/
def positionalText (digits : Text) (point : Int) : Text :=
  if point ≤ 0 then '0' :: '.' :: (List.replicate (-point).toNat '0' ++ digits)
  else if digits.length ≤ point.toNat then
    digits ++ List.replicate (point.toNat - digits.length) '0' ++ ['.', '0']
  else digits.take point.toNat ++ '.' :: digits.drop point.toNat

/-- Digits with the point after the first, and the power of ten of the first. -/
def scientificText (digits : Text) (power : Int) : Text :=
  let shape :=
    match digits with
    | first :: next :: others => first :: '.' :: next :: others
    | few => few
  shape ++ 'e' :: (if power < 0 then '-' else '+') :: paddedNat exponentWidth power.natAbs

/-- A positive decimal in text. -/
def Decimal.text (decimal : Decimal) : Text :=
  let digits := natText decimal.digits
  let point := decimal.exponent + digits.length
  if leastPositional < point ∧ point ≤ leastScientific then positionalText digits point
  else scientificText digits (point - 1)

/-- A floating-point number in text. -/
def realText (names : RealNames) (number : Float) : Text :=
  let signed (negative : Bool) (text : Text) : Text := if negative then '-' :: text else text
  match Binary64.ofFloat number with
  | .nan => names.notANumber
  | .infinite negative => signed negative names.infinity
  | .finite negative significand exponent =>
      signed negative <|
        if significand = 0 then ['0', '.', '0'] else (Decimal.shortest significand exponent).text

end UriEndpoint
