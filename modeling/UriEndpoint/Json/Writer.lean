import UriEndpoint.Value.Basic

/-!
# JSON lines

Values in JSON on one line, all in the basic Latin letters: a comma and a space between items, a
colon and a space after keys, and every other character as one or two escaped code units.
-/

namespace UriEndpoint.Json

/-- The escape of a character by its code units, two above the basic plane. -/
def escapedPoint (point : Nat) : Text :=
  if point < 0x10000 then Text.escapedUnit point
  else
    Text.escapedUnit (0xD800 + (point - 0x10000) / 0x400) ++
      Text.escapedUnit (0xDC00 + (point - 0x10000) % 0x400)

/-- One character as it stands inside a JSON string. -/
def escapedLetter (letter : Char) : Text :=
  if letter = Text.quotationMark ∨ letter = '\\' then ['\\', letter]
  else if letter = '\n' then ['\\', 'n']
  else if letter = '\r' then ['\\', 'r']
  else if letter = '\t' then ['\\', 't']
  else if letter.toNat = 0x08 then ['\\', 'b']
  else if letter.toNat = 0x0C then ['\\', 'f']
  else if 0x20 ≤ letter.toNat ∧ letter.toNat < 0x7F then [letter]
  else escapedPoint letter.toNat

/-- A JSON string. -/
def stringText (text : Text) : Text :=
  Text.quotationMark :: text.flatMap escapedLetter ++ [Text.quotationMark]

/-- A JSON string of a spelled text. -/
def spelledText (text : Text) : Text :=
  Text.quotationMark :: text.flatMap (Text.spelledEscape escapedLetter) ++ [Text.quotationMark]

/-- The spelling of JSON lines. -/
def spelling : Spelling where
  null := "null".toList
  yes := "true".toList
  no := "false".toList
  real := .json
  quote := stringText
  quoteSpelled := spelledText

/-- A value as a JSON line. -/
def lineText (value : Value) : Text := value.written spelling

end UriEndpoint.Json
