import UriEndpoint.Text.Numeral
import UriEndpoint.Value.Basic

/-!
# Literals of configuration files

The scalar literals of TOML: strings on one line or on several, basic with escapes or literal
without; integers in four radices; reals; dates, times of day and moments. A reader takes a literal
from the start of a text and gives the rest, or nothing when the text is malformed.
-/

namespace UriEndpoint.Toml

/-- Spaces and tabs. -/
def isSpace (letter : Char) : Bool := letter == ' ' || letter == '\t'

/-- The text without leading spaces and tabs. -/
def skipSpace (text : Text) : Text := text.dropWhile isSpace

/-- Control characters, which strings and comments may not hold; a tab is none of them. -/
def isControl (letter : Char) : Bool :=
  (letter.toNat < 0x20 && letter != '\t') || letter.toNat == 0x7F

/-- The character that a one-letter escape stands for. -/
def escape? (letter : Char) : Option Char :=
  if letter = Text.quotationMark ∨ letter = '\\' then some letter
  else if letter = 'b' then some (Char.ofNat 0x08)
  else if letter = 't' then some '\t'
  else if letter = 'n' then some '\n'
  else if letter = 'f' then some (Char.ofNat 0x0C)
  else if letter = 'r' then some '\r'
  else none

/-- The character with a number in hexadecimal digits, if there is one. -/
def numberedChar? (digits : Text) : Option Char := do
  let number ← Text.hexNumber? digits
  if number < 0xD800 ∨ (0xE000 ≤ number ∧ number < 0x110000) then some (Char.ofNat number)
  else none

/-- What a backslash at the end of a line lets a string skip: nothing, the rest of the line, or
white space over any number of lines. -/
inductive Gap where
  | none
  | line
  | lines
deriving DecidableEq

/-- Up to two marks that stand right after the closing three belong to the string. -/
def withExtraMarks (mark : Char) (value rest : Text) : Text × Text :=
  match rest with
  | first :: second :: more =>
      if first = mark then
        if second = mark then (value ++ [mark, mark], more) else (value ++ [mark], second :: more)
      else (value, rest)
  | [first] => if first = mark then (value ++ [mark], []) else (value, rest)
  | [] => (value, [])

/-- A basic string after its opening marks, collected in reverse, and the rest. -/
def basicString (several : Bool) (gap : Gap) (read : Text) : Text → Option (Text × Text)
  | [] => .none
  | letter :: rest =>
      -- A backslash at a line end joins the lines: spaces and line ends after it are dropped.
      if gap = .lines ∧ (isSpace letter ∨ letter = '\n') then basicString several .lines read rest
      else if gap = .line then
        -- The line has not ended yet, and nothing but spaces may stand before its end.
        if isSpace letter then basicString several .line read rest
        else if letter = '\n' then basicString several .lines read rest
        else .none
      else if letter = Text.quotationMark then
        if several then
          match rest with
          | second :: third :: more =>
              if second = letter ∧ third = letter then
                some (withExtraMarks letter read.reverse more)
              else basicString several .none (letter :: read) rest
          | _ => .none
        else some (read.reverse, rest)
      else if letter = '\\' then
        match rest with
        | 'u' :: a :: b :: c :: d :: more =>
            match numberedChar? [a, b, c, d] with
            | some value => basicString several .none (value :: read) more
            | .none => .none
        | 'U' :: a :: b :: c :: d :: e :: f :: g :: h :: more =>
            match numberedChar? [a, b, c, d, e, f, g, h] with
            | some value => basicString several .none (value :: read) more
            | .none => .none
        | escape :: more =>
            if several ∧ escape = '\n' then basicString several .lines read more
            else if several ∧ isSpace escape then basicString several .line read more
            else
              match escape? escape with
              | some value => basicString several .none (value :: read) more
              | .none => .none
        | [] => .none
      else if isControl letter ∧ ¬(several ∧ letter = '\n') then .none
      else basicString several .none (letter :: read) rest

/-- A literal string after its opening marks, collected in reverse, and the rest. -/
def literalString (several : Bool) (read : Text) : Text → Option (Text × Text)
  | [] => none
  | letter :: rest =>
      if letter = Text.apostrophe then
        if several then
          match rest with
          | second :: third :: more =>
              if second = letter ∧ third = letter then
                some (withExtraMarks letter read.reverse more)
              else literalString several (letter :: read) rest
          | _ => none
        else some (read.reverse, rest)
      else if isControl letter ∧ ¬(several ∧ letter = '\n') then none
      else literalString several (letter :: read) rest

/-- A line end right after the opening marks does not belong to a string on several lines. -/
def skipFirstLineEnd : Text → Text
  | '\n' :: rest => rest
  | text => text

/-- Whether a text begins with three of the same mark; if so, what follows them. -/
def afterThree? (mark : Char) : Text → Option Text
  | first :: second :: third :: rest =>
      if first = mark ∧ second = mark ∧ third = mark then some rest else none
  | _ => none

/-- A string of any kind, if the text begins with one of its marks. -/
def string? (text : Text) : Option (Option (Text × Text)) :=
  match text with
  | letter :: rest =>
      if letter = Text.quotationMark then
        some <|
          match afterThree? letter text with
          | some more => basicString true .none [] (skipFirstLineEnd more)
          | none => basicString false .none [] rest
      else if letter = Text.apostrophe then
        some <|
          match afterThree? letter text with
          | some more => literalString true [] (skipFirstLineEnd more)
          | none => literalString false [] rest
      else none
  | [] => none

/-- Further digits of a radix, with single underscores between digits, collected in reverse. -/
def moreDigits (radix : Nat) (read : Text) : Text → Text × Text
  | '_' :: letter :: rest =>
      if Text.isDigitOf radix letter then moreDigits radix (letter :: read) rest
      else (read.reverse, '_' :: letter :: rest)
  | letter :: rest =>
      if Text.isDigitOf radix letter then moreDigits radix (letter :: read) rest
      else (read.reverse, letter :: rest)
  | [] => (read.reverse, [])

/-- One digit or more of a radix, with single underscores between digits. -/
def digits? (radix : Nat) : Text → Option (Text × Text)
  | letter :: rest =>
      if Text.isDigitOf radix letter then some (moreDigits radix [letter] rest) else none
  | [] => none

/-- The radix that a letter after a zero announces. -/
def radixOf? (letter : Char) : Option Nat :=
  if letter = 'x' then some 16
  else if letter = 'b' then some 2
  else if letter = 'o' then some 8
  else none

/-- An integer in hexadecimal, binary or octal digits. -/
def radixInteger? : Text → Option (Value × Text)
  | '0' :: letter :: rest => do
      let radix ← radixOf? letter
      let (digits, rest) ← digits? radix rest
      return (.integer (Text.numberOf radix digits), rest)
  | _ => none

/-- A leading sign, and the rest. -/
def signed : Text → Bool × Text
  | '-' :: rest => (true, rest)
  | '+' :: rest => (false, rest)
  | text => (false, text)

/-- The digits of an integer part: a lone zero, or digits that begin with another one. -/
def wholeDigits? : Text → Option (Text × Text)
  | '0' :: rest => some (['0'], rest)
  | text => digits? 10 text

/-- The digits of a fraction, if a point and a digit follow. -/
def fraction? : Text → Option (Text × Text)
  | '.' :: rest => digits? 10 rest
  | _ => none

/-- An exponent, if an exponent mark, a sign or none, and a digit follow. -/
def exponent? : Text → Option (Int × Text)
  | letter :: rest =>
      if letter = 'e' ∨ letter = 'E' then do
        let (negative, rest) := signed rest
        let (digits, rest) ← digits? 10 rest
        let size : Int := Text.decimalNumber digits
        some (if negative then -size else size, rest)
      else none
  | [] => none

/-- A decimal integer, or a real when a fraction or an exponent follows. -/
def decimal? (text : Text) : Option (Value × Text) := do
  let (negative, text) := signed text
  let (whole, rest) ← wholeDigits? text
  let fraction := fraction? rest
  let rest := (fraction.map Prod.snd).getD rest
  let exponent := exponent? rest
  let rest := (exponent.map Prod.snd).getD rest
  if fraction.isNone && exponent.isNone then
    let size : Int := Text.decimalNumber whole
    return (.integer (if negative then -size else size), rest)
  else
    let places := (fraction.map Prod.fst).getD []
    let power : Int := (exponent.map Prod.fst).getD 0
    return (.real (Binary64.nearestDecimal negative (Text.decimalNumber (whole ++ places))
      (power - places.length)), rest)

/-- The words that stand for values, each with a sign of its own. -/
def words : List (Text × Value) :=
  [("true".toList, .boolean true), ("false".toList, .boolean false),
    ("inf".toList, .real (Binary64.infinity false)),
    ("+inf".toList, .real (Binary64.infinity false)),
    ("-inf".toList, .real (Binary64.infinity true)),
    ("nan".toList, .real Binary64.notANumber), ("+nan".toList, .real Binary64.notANumber),
    ("-nan".toList, .real Binary64.notANumber)]

/-- One of the words. -/
def word? (text : Text) : Option (Value × Text) :=
  (words.find? fun word => word.1.isPrefixOf text).map fun word =>
    (word.2, text.drop word.1.length)

/-- Exactly `count` decimal digits as a number between two bounds, and the rest. -/
def number? (count least most : Nat) (text : Text) : Option (Nat × Text) :=
  let digits := text.take count
  let number := Text.decimalNumber digits
  if digits.length = count ∧ digits.all Char.isDigit ∧ least ≤ number ∧ number ≤ most then
    some (number, text.drop count)
  else none

/-- The rest after a character that must come first. -/
def after? (letter : Char) : Text → Option Text
  | first :: rest => if first = letter then some rest else none
  | [] => none

/-- A date, which may still be off the calendar. -/
def date? (text : Text) : Option (Date × Text) := do
  let (year, rest) ← number? 4 0 9999 text
  let (month, rest) ← number? 2 1 12 (← after? '-' rest)
  let (day, rest) ← number? 2 1 31 (← after? '-' rest)
  return (⟨year, month, day⟩, rest)

/-- The microseconds of a fraction, if a point and a digit follow; further digits are dropped. -/
def microseconds : Text → Nat × Text
  | '.' :: rest =>
      match rest.span Char.isDigit with
      | ([], _) => (0, '.' :: rest)
      | (digits, after) =>
          (Text.decimalNumber ((digits ++ List.replicate 6 '0').take 6), after)
  | text => (0, text)

/-- A time of day. -/
def time? (text : Text) : Option (ClockTime × Text) := do
  let (hour, rest) ← number? 2 0 23 text
  let (minute, rest) ← number? 2 0 59 (← after? ':' rest)
  let (second, rest) ← number? 2 0 59 (← after? ':' rest)
  let (microsecond, rest) := microseconds rest
  return (⟨hour, minute, second, microsecond⟩, rest)

/-- An offset from universal time in minutes, if one follows. -/
def offset? : Text → Option (Int × Text)
  | letter :: rest =>
      if letter = 'Z' ∨ letter = 'z' then some (0, rest)
      else if letter = '+' ∨ letter = '-' then do
        let (hour, rest) ← number? 2 0 23 rest
        let (minute, rest) ← number? 2 0 59 (← after? ':' rest)
        let size : Int := hour * 60 + minute
        some (if letter = '-' then -size else size, rest)
      else none
  | [] => none

/-- The time of day that follows a date after a letter or a space. -/
def timeAfterDate? : Text → Option (ClockTime × Text)
  | letter :: rest => if letter = 'T' ∨ letter = 't' ∨ letter = ' ' then time? rest else none
  | [] => none

/-- A date or a moment; nothing inside when the day is off the calendar. -/
def moment? (text : Text) : Option (Option (Value × Text)) := do
  let (date, rest) ← date? text
  if !date.isValid then some none
  else
    match timeAfterDate? rest with
    | some (time, rest) =>
        match offset? rest with
        | some (offset, rest) => some (some (.moment date time (some offset), rest))
        | none => some (some (.moment date time none, rest))
    | none => some (some (.date date, rest))

/-- A scalar other than a string. -/
def bareScalar? (text : Text) : Option (Value × Text) :=
  match moment? text with
  | some found => found
  | none =>
      match time? text with
      | some (time, rest) => some (.time time, rest)
      | none => ((radixInteger? text).or (decimal? text)).or (word? text)

/-- Why bytes are no configuration. -/
inductive ReadFault where
  | notText
  | malformed
  /-- A decimal integer has too many digits. -/
  | tooLong
  /-- Lists and inline tables nest too deep. -/
  | tooDeep
deriving DecidableEq, Repr

/-- The result of reading a part of a text. -/
abbrev Reading (α : Type) := Except ReadFault α

/-- A part that is there, or a malformed text. -/
def orMalformed {α : Type} : Option α → Reading α
  | some value => .ok value
  | none => .error .malformed

/-- The most digits of a decimal integer. -/
def mostDigits : Nat := 4300

/-- Whether a text begins with a decimal integer of too many digits. -/
def isOverlong (text : Text) (value : Int) : Bool :=
  Nat.pow 10 mostDigits ≤ value.natAbs && (radixInteger? text).isNone

/-- A scalar of any kind. -/
def scalar (text : Text) : Reading (Value × Text) :=
  match string? text with
  | some found => orMalformed (found.map fun (value, rest) => (.text value, rest))
  | none =>
      match bareScalar? text with
      | some (.integer value, rest) =>
          if isOverlong text value then .error .tooLong else .ok (.integer value, rest)
      | found => orMalformed found

end UriEndpoint.Toml
