import UriEndpoint.Decimal.Binary64
import UriEndpoint.Text.Blank
import UriEndpoint.Text.Lowercase
import UriEndpoint.Text.Numeral
import UriEndpoint.Validation.Issue

/-!
# Numbers written in text

The integer or the real that a text denotes. The plain form of an integer has no padding, no plus
sign and no needless zeros. A text in any other form is first freed of what a plain integer may not
have, and then has to be one. Underscores may stand between the characters of a number, never two
together and never at an end.
-/

namespace UriEndpoint.NumberText

/-- The most characters of an integer, its sign included. -/
def mostCharacters : Nat := 4300

/-- The integer that a text in the plain form denotes. -/
def plainInteger (text : Text) : Except IssueKind Int :=
  let negative := text.head? == some '-'
  let body := if negative then text.drop 1 else text
  let (digits, rest) := body.span Char.isDigit
  match digits with
  | [] => .error .intParsing
  | '0' :: _ => if body = ['0'] then .ok 0 else .error .intParsing
  | _ =>
      if mostCharacters < digits.length + (if negative then 1 else 0) then .error .intParsingSize
      else if !rest.isEmpty then .error .intParsing
      else
        let size : Int := Text.decimalNumber digits
        .ok (if negative then -size else size)

/-- Whether two underscores stand together. -/
def hasDoubleUnderscore : Text → Bool
  | '_' :: '_' :: _ => true
  | _ :: rest => hasDoubleUnderscore rest
  | [] => false

/-- The text without its underscores, if it has some and they stand where they may. -/
def ungrouped? (text : Text) : Option Text :=
  if text.head? == some '_' || text.getLast? == some '_' || !text.contains '_' ||
      hasDoubleUnderscore text then none
  else some (text.filter (· != '_'))

/-- What follows leading zeros, which may hold underscores; before a point one zero stays. -/
def afterZeros (last : Char) : Text → Option Text
  | [] => some [last]
  | letter :: rest =>
      if letter = '0' ∨ letter = '_' then afterZeros letter rest
      else if letter.isDigit ∨ letter = '-' then some (letter :: rest)
      else if letter = '.' then some (last :: letter :: rest)
      else none

/-- The text without leading zeros; it has to begin with a digit or a minus sign. -/
def withoutZeros? : Text → Option Text
  | [] => none
  | letter :: rest =>
      if letter = '0' then afterZeros '0' rest
      else if letter.isDigit ∨ letter = '-' then some (letter :: rest)
      else none

/-- The text without a plus sign in front, which no minus sign may follow. -/
def withoutPlus? : Text → Option Text
  | '+' :: '-' :: _ => none
  | '+' :: rest => some rest
  | text => some text

/-- The text without a point and the zeros after it, if a zero at least and nothing else follows. -/
def withoutZeroFraction (text : Text) : Text :=
  match text.cut '.' with
  | (whole, some fraction) =>
      if !fraction.isEmpty && fraction.all (· == '0') then whole else text
  | (_, none) => text

/-- What is left of a text that is no plain integer; nothing if the text has nothing to lose. -/
def cleaned? (text : Text) : Option Text := do
  let kept := withoutZeroFraction (← withoutZeros? (← withoutPlus? text.unpadded))
  match ungrouped? kept with
  | some digits => some digits
  | none => if kept.length = text.length then none else some kept

/-- The integer that a text denotes. -/
def integer (text : Text) : Except IssueKind Int :=
  match plainInteger text with
  | .error .intParsing =>
      match cleaned? text with
      | some cleaned => plainInteger cleaned
      | none => .error .intParsing
  | result => result

/-- A leading sign, and the rest. -/
def signed : Text → Bool × Text
  | '-' :: rest => (true, rest)
  | '+' :: rest => (false, rest)
  | text => (false, text)

/-- The names of reals that are not finite, in lower case. -/
def realWord? (negative : Bool) (word : Text) : Option Float :=
  if word = "inf".toList ∨ word = "infinity".toList then some (Binary64.infinity negative)
  else if word = "nan".toList then some Binary64.notANumber
  else none

/-- The exponent that digits after an optional sign denote. -/
def exponent? (text : Text) : Option Int :=
  let (below, digits) := signed text
  if digits.isEmpty || !digits.all Char.isDigit then none
  else
    let size : Int := Text.decimalNumber digits
    some (if below then -size else size)

/-- The real that digits with an optional point and exponent denote. -/
def decimal? (negative : Bool) (text : Text) : Option Float := do
  let folded : Text := text.map fun letter => if letter = 'E' then 'e' else letter
  let (mantissa, power) := Text.cut 'e' folded
  let exponent ← (power.map exponent?).getD (some 0)
  let (whole, fraction) := Text.cut '.' mantissa
  let digits := whole ++ fraction.getD []
  if digits.isEmpty || !digits.all Char.isDigit then none
  else
    return Binary64.nearestDecimal negative (Text.decimalNumber digits)
      (exponent - (fraction.getD []).length)

/-- The real that a text without underscores denotes. -/
def plainReal? (text : Text) : Option Float :=
  let (negative, body) := signed text
  match realWord? negative body.lowercase with
  | some value => some value
  | none => decimal? negative body

/-- The real that a text denotes: either padding or underscores are allowed. -/
def real? (text : Text) : Option Float :=
  match plainReal? text.unpadded with
  | some value => some value
  | none => (ungrouped? text).bind plainReal?

end UriEndpoint.NumberText
