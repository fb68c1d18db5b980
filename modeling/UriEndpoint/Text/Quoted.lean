import UriEndpoint.Text.Basic
import UriEndpoint.Text.Printable

/-!
# Quoted text

The form in which messages and console lines show a text so that every character of it can be told.
Apostrophes enclose the text, or quotation marks if it holds an apostrophe and no quotation mark.
The enclosing mark and the backslash are escaped by a backslash, tab and line ends by a letter, any
other unprintable character by its number in hexadecimal.
-/

namespace UriEndpoint.Text

/-- The mark that encloses quoted text. -/
def apostrophe : Char := '\x27'

/-- The mark that encloses quoted text which holds an apostrophe. -/
def quotationMark : Char := '\x22'

/-- The hexadecimal digit of a number below sixteen, in lower case. -/
def hexDigit (number : Nat) : Char :=
  Char.ofNat (if number < 10 then 0x30 + number else 0x57 + number)

/-- The last `width` hexadecimal digits of a number, zeros included. -/
def hexDigits : Nat → Nat → Text
  | 0, _ => []
  | width + 1, number => hexDigits width (number / 16) ++ [hexDigit (number % 16)]

/-- One character as it stands inside quoted text. -/
def quotedLetter (mark letter : Char) : Text :=
  if letter = mark ∨ letter = '\\' then ['\\', letter]
  else if letter = '\t' then ['\\', 't']
  else if letter = '\n' then ['\\', 'n']
  else if letter = '\r' then ['\\', 'r']
  else if isPrintable letter then [letter]
  else if letter.toNat < 0x100 then '\\' :: 'x' :: hexDigits 2 letter.toNat
  else if letter.toNat < 0x10000 then '\\' :: 'u' :: hexDigits 4 letter.toNat
  else '\\' :: 'U' :: hexDigits 8 letter.toNat

/-- The mark that encloses this text. -/
def enclosingMark (text : Text) : Char :=
  if text.contains apostrophe && !text.contains quotationMark then quotationMark else apostrophe

/-- The text in quotes. -/
def quoted (text : Text) : Text :=
  enclosingMark text :: text.flatMap (quotedLetter (enclosingMark text)) ++ [enclosingMark text]

end UriEndpoint.Text
