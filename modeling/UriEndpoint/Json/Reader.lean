import UriEndpoint.Text.Numeral
import UriEndpoint.Value.Basic

/-!
# Reading JSON

The grammar of JSON over code points, with three names for numbers that are not finite. A number
with a fraction or an exponent is a real, any other an integer. Entries of a repeated key are all
kept, in written order, so that the reader of the value can decide which one counts. Text after the
value and a control character inside a string are refused. A `Dialect` says how deep lists and
tables may nest, empty ones not counted, how long numbers may be, and whether a string may hold half
a surrogate pair.
-/

namespace UriEndpoint.Json

/-- What one place that reads JSON puts up with. -/
structure Dialect where
  /-- How deep lists and tables may nest. -/
  depth : Nat
  /-- Whether a number is taken: if it is negative, the digits before its point, if it is whole. -/
  takes : Bool → Nat → Bool → Bool := fun _ _ _ => true
  /-- Whether a string may hold half a surrogate pair. -/
  halves : Bool := false

/-- Why a text is no value. -/
inductive Fault where
  | malformed
  | tooDeep
deriving DecidableEq, Repr

/-- The result of reading a part of a text. -/
abbrev Reading (α : Type) := Except Fault α

/-- A part that is there, or a text that is no JSON. -/
def orMalformed {α : Type} : Option α → Reading α
  | some value => .ok value
  | none => .error .malformed

/-- White space between tokens. -/
def isSpace (letter : Char) : Bool :=
  letter == ' ' || letter == '\t' || letter == '\n' || letter == '\r'

/-- The text without leading white space. -/
def skipSpace (text : Text) : Text := text.dropWhile isSpace

/-- A piece of a string: a character as written, or an escaped code unit. -/
inductive StringPiece where
  | letter (value : Char)
  | unit (value : Nat)

/-- The character that a one-letter escape stands for. -/
def escape? (letter : Char) : Option Char :=
  if letter = Text.quotationMark ∨ letter = '\\' ∨ letter = '/' then some letter
  else if letter = 'b' then some (Char.ofNat 0x08)
  else if letter = 'f' then some (Char.ofNat 0x0C)
  else if letter = 'n' then some '\n'
  else if letter = 'r' then some '\r'
  else if letter = 't' then some '\t'
  else none

/-- The pieces of a string up to its closing mark, collected in reverse, and the rest. -/
def stringPieces (read : List StringPiece) : Text → Option (List StringPiece × Text)
  | [] => none
  | '\\' :: 'u' :: a :: b :: c :: d :: rest =>
      match Text.hexNumber? [a, b, c, d] with
      | some number => stringPieces (.unit number :: read) rest
      | none => none
  | '\\' :: letter :: rest =>
      match escape? letter with
      | some value => stringPieces (.letter value :: read) rest
      | none => none
  | letter :: rest =>
      if letter = Text.quotationMark then some (read.reverse, rest)
      else if letter = '\\' ∨ letter.toNat < 0x20 then none
      else stringPieces (.letter letter :: read) rest

/-- Pieces with the two units of every surrogate pair made one character; a unit that is left is
half a pair. -/
def joinPieces (joined : List StringPiece) : List StringPiece → List StringPiece
  | [] => joined.reverse
  | .letter value :: rest => joinPieces (.letter value :: joined) rest
  | .unit value :: rest =>
      if value < 0xD800 ∨ 0xE000 ≤ value then
        joinPieces (.letter (Char.ofNat value) :: joined) rest
      else
        match rest with
        | .unit low :: more =>
            if value < 0xDC00 ∧ 0xDC00 ≤ low ∧ low < 0xE000 then
              let point := 0x10000 + (value - 0xD800) * 0x400 + (low - 0xDC00)
              joinPieces (.letter (Char.ofNat point) :: joined) more
            else joinPieces (.unit value :: joined) (.unit low :: more)
        | rest => joinPieces (.unit value :: joined) rest

namespace StringPiece

/-- The character that stands for half a surrogate pair. -/
def halfMark : Char := Char.ofNat 0xFFFD

/-- A piece as one character. -/
def marked : StringPiece → Char
  | letter value => value
  | unit _ => halfMark

/-- A piece spelled. -/
def spelled : StringPiece → Text
  | letter value => Text.spelledLetter value
  | unit value => Text.escapedUnit value

def isHalf : StringPiece → Bool
  | letter _ => false
  | unit _ => true

/-- A string holds half a surrogate pair exactly if one is among its pieces. -/
theorem holdsHalf_spelled (pieces : List StringPiece) :
    Text.holdsHalf (pieces.flatMap spelled) = pieces.any isHalf := by
  induction pieces with
  | nil => rfl
  | cons piece rest ih =>
      cases piece with
      | letter value =>
          have single := Text.holdsHalf_flatMap_append [value] (rest.flatMap spelled)
          rw [List.flatMap_singleton] at single
          rw [List.flatMap_cons, spelled, single, ih]
          rfl
      | unit value => exact Text.holdsHalf_escapedUnit value (rest.flatMap spelled)

end StringPiece

/-- The pieces of a string after its opening mark, and the rest. -/
def readString (dialect : Dialect) (text : Text) : Reading (List StringPiece × Text) := do
  let (pieces, rest) ← orMalformed (stringPieces [] text)
  let joined := joinPieces [] pieces
  if !dialect.halves && joined.any StringPiece.isHalf then throw .malformed
  return (joined, rest)

/-- The digits of an integer part: a lone zero, or digits that begin with another one. -/
def integerDigits : Text → Option (Text × Text)
  | '0' :: rest => some (['0'], rest)
  | text =>
      match text.span Char.isDigit with
      | ([], _) => none
      | (digits, rest) => some (digits, rest)

/-- The digits of a fraction, which must follow a point; none without a point. -/
def fractionDigits : Text → Option (Text × Text)
  | '.' :: rest =>
      match rest.span Char.isDigit with
      | ([], _) => none
      | (digits, rest) => some (digits, rest)
  | text => some ([], text)

/-- A signed exponent, which must have digits. -/
def exponentNumber (text : Text) : Option (Int × Text) :=
  let (negative, text) :=
    match text with
    | '-' :: rest => (true, rest)
    | '+' :: rest => (false, rest)
    | text => (false, text)
  match text.span Char.isDigit with
  | ([], _) => none
  | (digits, rest) =>
      let size : Int := Text.decimalNumber digits
      some (if negative then -size else size, rest)

/-- The exponent that follows an exponent mark; none without a mark. -/
def exponent? : Text → Option (Option Int × Text)
  | letter :: rest =>
      if letter = 'e' ∨ letter = 'E' then do
        let (exponent, rest) ← exponentNumber rest
        return (some exponent, rest)
      else some (none, letter :: rest)
  | [] => some (none, [])

/-- A number without its sign, and the rest. -/
def readUnsigned (dialect : Dialect) (negative : Bool) (text : Text) : Option (Value × Text) := do
  let (whole, rest) ← integerDigits text
  let (fraction, rest) ← fractionDigits rest
  let (exponent, rest) ← exponent? rest
  let isWhole := decide (fraction = [] ∧ exponent = none)
  if !dialect.takes negative whole.length isWhole then none
  else if isWhole then
    let size : Int := Text.decimalNumber whole
    return (.integer (if negative then -size else size), rest)
  else
    let scale : Int := exponent.getD 0 - fraction.length
    let significand := Text.decimalNumber (whole ++ fraction)
    return (.real (Binary64.nearestDecimal negative significand scale), rest)

/-- The values that are written as words. -/
def words : List (Text × Value) :=
  [("null".toList, .null), ("true".toList, .boolean true), ("false".toList, .boolean false),
    ("NaN".toList, .real Binary64.notANumber), ("Infinity".toList, .real (Binary64.infinity false)),
    ("-Infinity".toList, .real (Binary64.infinity true))]

/-- A word or a number, and the rest. -/
def readScalar (dialect : Dialect) (text : Text) : Option (Value × Text) :=
  match words.find? fun word => word.1.isPrefixOf text with
  | some (word, value) => some (value, text.drop word.length)
  | none =>
      match text with
      | '-' :: rest => readUnsigned dialect true rest
      | text => readUnsigned dialect false text

mutual

/-- One value, and the rest. -/
def readValue (dialect : Dialect) (fuel depth : Nat) (text : Text) : Reading (Value × Text) :=
  match fuel with
  | 0 => .error .malformed
  | fuel + 1 =>
      match skipSpace text with
      | [] => .error .malformed
      | letter :: rest =>
          if letter = Text.quotationMark then do
            let (pieces, rest) ← readString dialect rest
            return (.ofSpelled (pieces.flatMap StringPiece.spelled), rest)
          else if letter = '[' then
            -- An empty list or table is not gone into and costs no depth.
            match skipSpace rest with
            | ']' :: rest => .ok (.list [], rest)
            | inside =>
                match depth with
                | 0 => .error .tooDeep
                | depth + 1 => do
                    let (items, rest) ← readItems dialect fuel depth inside
                    return (.list items, rest)
          else if letter = '\x7b' then
            match skipSpace rest with
            | '\x7d' :: rest => .ok (.table [], rest)
            | inside =>
                match depth with
                | 0 => .error .tooDeep
                | depth + 1 => do
                    let (entries, rest) ← readEntries dialect fuel depth inside
                    return (.table entries, rest)
          else orMalformed (readScalar dialect (letter :: rest))

/-- Items with commas between them up to the closing bracket, and the rest. -/
def readItems (dialect : Dialect) (fuel depth : Nat) (text : Text) :
    Reading (List Value × Text) :=
  match fuel with
  | 0 => .error .malformed
  | fuel + 1 => do
      let (item, rest) ← readValue dialect fuel depth text
      match skipSpace rest with
      | ',' :: rest =>
          let (items, rest) ← readItems dialect fuel depth rest
          return (item :: items, rest)
      | ']' :: rest => return ([item], rest)
      | _ => throw .malformed

/-- Entries with commas between them up to the closing brace, and the rest. -/
def readEntries (dialect : Dialect) (fuel depth : Nat) (text : Text) :
    Reading (List (Text × Value) × Text) :=
  match fuel with
  | 0 => .error .malformed
  | fuel + 1 => do
      let letter :: rest := skipSpace text | throw .malformed
      if letter ≠ Text.quotationMark then throw .malformed
      else
        let (pieces, rest) ← readString dialect rest
        let ':' :: rest := skipSpace rest | throw .malformed
        let (value, rest) ← readValue dialect fuel depth rest
        match skipSpace rest with
        | ',' :: rest =>
            let (entries, rest) ← readEntries dialect fuel depth rest
            return ((pieces.map StringPiece.marked, value) :: entries, rest)
        | '\x7d' :: rest => return ([(pieces.map StringPiece.marked, value)], rest)
        | _ => throw .malformed

end

/-- The value that a text is, or why it is none. -/
def read (dialect : Dialect) (text : Text) : Reading Value := do
  let (value, rest) ← readValue dialect (2 * text.length + 2) dialect.depth text
  if (skipSpace rest).isEmpty then return value else throw .malformed

end UriEndpoint.Json
