import UriEndpoint.Text.Basic

/-!
# Numerals

What digits denote: decimal digits, hexadecimal digits in either case, and digits of another radix.
-/

namespace UriEndpoint.Text

/-- The value of a digit of a radix up to sixteen, in either case. -/
def digitValue? (letter : Char) : Option Nat :=
  if '0' ≤ letter ∧ letter ≤ '9' then some (letter.toNat - 0x30)
  else if 'a' ≤ letter ∧ letter ≤ 'f' then some (letter.toNat - 0x57)
  else if 'A' ≤ letter ∧ letter ≤ 'F' then some (letter.toNat - 0x37)
  else none

/-- Whether a character is a digit of this radix. -/
def isDigitOf (radix : Nat) (letter : Char) : Bool :=
  match digitValue? letter with
  | some value => value < radix
  | none => false

/-- The number that digits of a radix denote; other characters count as zero. -/
def numberOf (radix : Nat) (digits : Text) : Nat :=
  digits.foldl (fun number letter => radix * number + (digitValue? letter).getD 0) 0

/-- The number that hexadecimal digits denote, if there are no other characters. -/
def hexNumber? (digits : Text) : Option Nat :=
  if digits.all (isDigitOf 16) then some (numberOf 16 digits) else none

/-- The number that decimal digits denote. -/
def decimalNumber (digits : Text) : Nat := numberOf 10 digits

end UriEndpoint.Text
