import UriEndpoint.Text.Blank
import UriEndpoint.Text.Numeral

/-!
# Integers in a loose form

An integer may be padded, may have a sign of either kind and leading zeros, may be written in the
decimal digits of any script, and may have single underscores between its digits. The table of
digits is data of version 14 of Unicode.
-/

namespace UriEndpoint.Text

/-- The zeros of all scripts; the digits up to nine follow each of them. -/
def decimalZeros : List Nat :=
  [0x30, 0x660, 0x6F0, 0x7C0, 0x966, 0x9E6, 0xA66, 0xAE6, 0xB66, 0xBE6, 0xC66, 0xCE6, 0xD66, 0xDE6,
    0xE50, 0xED0, 0xF20, 0x1040, 0x1090, 0x17E0, 0x1810, 0x1946, 0x19D0, 0x1A80, 0x1A90, 0x1B50,
    0x1BB0, 0x1C40, 0x1C50, 0xA620, 0xA8D0, 0xA900, 0xA9D0, 0xA9F0, 0xAA50, 0xABF0, 0xFF10, 0x104A0,
    0x10D30, 0x11066, 0x110F0, 0x11136, 0x111D0, 0x112F0, 0x11450, 0x114D0, 0x11650, 0x116C0,
    0x11730, 0x118E0, 0x11950, 0x11C50, 0x11D50, 0x11DA0, 0x16A60, 0x16AC0, 0x16B50, 0x1D7CE,
    0x1D7D8, 0x1D7E2, 0x1D7EC, 0x1D7F6, 0x1E140, 0x1E2F0, 0x1E950, 0x1FBF0]

/-- The value of a decimal digit of any script. -/
def anyDigit? (letter : Char) : Option Nat :=
  decimalZeros.findSome? fun lowest =>
    if lowest ≤ letter.toNat ∧ letter.toNat < lowest + 10 then some (letter.toNat - lowest)
    else none

/-- The most digits of an integer. -/
def mostLooseDigits : Nat := 4300

/-- The number that digits with single underscores between them denote. -/
def looseNumber? (text : Text) : Option Nat := do
  let groups := pieces '_' text
  if groups.any List.isEmpty then none
  else
    let digits ← groups.flatten.mapM anyDigit?
    if mostLooseDigits < digits.length then none
    else return digits.foldl (fun number digit => 10 * number + digit) 0

/-- The integer that a text denotes. -/
def looseInteger? (text : Text) : Option Int :=
  match unpadded text with
  | '-' :: digits => (looseNumber? digits).map fun number => -(number : Int)
  | '+' :: digits => (looseNumber? digits).map Int.ofNat
  | digits => (looseNumber? digits).map Int.ofNat

end UriEndpoint.Text
