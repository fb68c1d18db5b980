import UriEndpoint.Text.Utf8
import UriEndpoint.Toml.Document
import UriEndpoint.Toml.Literal

/-!
# Reading configuration files

A configuration file is UTF-8 text in TOML, a statement on each line: a key with a value, the header
of a table, the header of a further table in a list, a comment or nothing. Reading gives the table
of all values, or says what keeps the bytes from being one.
-/

namespace UriEndpoint.Toml

/-- Whether a character may stand in a key without quotes. -/
def isBareKey (letter : Char) : Bool := letter.isAlphanum || letter == '_' || letter == '-'

/-- One name of a key, bare or quoted, and the rest. -/
def keyName? (text : Text) : Option (Text × Text) :=
  match text with
  | letter :: rest =>
      if letter = Text.quotationMark then basicString false .none [] rest
      else if letter = Text.apostrophe then literalString false [] rest
      else
        match text.span isBareKey with
        | ([], _) => none
        | (name, rest) => some (name, rest)
  | [] => none

/-- A dotted key, and the rest after it and any white space. -/
def keyPath? : Nat → Text → Option (KeyPath × Text)
  | 0, _ => none
  | fuel + 1, text => do
      let (name, rest) ← keyName? text
      match skipSpace rest with
      | '.' :: rest =>
          let (names, rest) ← keyPath? fuel (skipSpace rest)
          return (name :: names, rest)
      | rest => return ([name], rest)

/-- A comment, if there is one; nothing if it holds a control character. -/
def skipComment? : Text → Option Text
  | '#' :: rest =>
      let comment := rest.takeWhile (· != '\n')
      if comment.any isControl then none else some (rest.drop comment.length)
  | text => some text

/-- White space, line ends and comments inside a list. -/
def skipFiller? : Nat → Text → Option Text
  | 0, text => some text
  | fuel + 1, text =>
      match text.dropWhile fun letter => isSpace letter || letter == '\n' with
      | '#' :: rest => do skipFiller? fuel (← skipComment? ('#' :: rest))
      | rest => some rest

/-- How much nesting costs: a list two steps of the way down, an inline table three. -/
def nestingBudget : Nat := 986

mutual

/-- A value, and the rest, with steps left for nesting. -/
def value (fuel depth : Nat) (text : Text) : Reading (Value × Text) :=
  match fuel with
  | 0 => .error .malformed
  | fuel + 1 =>
      match text with
      | '[' :: rest =>
          match depth with
          | 0 | 1 => .error .tooDeep
          | depth + 2 => do
              let (items, rest) ← items fuel depth (← orMalformed (skipFiller? fuel rest))
              return (.list items, rest)
      | '\x7b' :: rest =>
          match depth with
          | 0 | 1 | 2 => .error .tooDeep
          | depth + 3 =>
              match skipSpace rest with
              | '\x7d' :: rest => .ok (.table [], rest)
              | rest => do
                  let (entries, rest) ← entries fuel depth {} rest
                  return (.table entries, rest)
      | text => scalar text

/-- The items of a list up to its closing bracket, a comma after the last allowed. -/
def items (fuel depth : Nat) (text : Text) : Reading (List Value × Text) :=
  match fuel with
  | 0 => .error .malformed
  | fuel + 1 =>
      match text with
      | ']' :: rest => .ok ([], rest)
      | text => do
          let (item, rest) ← value fuel depth text
          match ← orMalformed (skipFiller? fuel rest) with
          | ']' :: rest => return ([item], rest)
          | ',' :: rest =>
              let (items, rest) ← items fuel depth (← orMalformed (skipFiller? fuel rest))
              return (item :: items, rest)
          | _ => throw .malformed

/-- The entries of an inline table up to its closing brace, no comma after the last. -/
def entries (fuel depth : Nat) (inline : InlineTable) (text : Text) : Reading (Table × Text) :=
  match fuel with
  | 0 => .error .malformed
  | fuel + 1 => do
      let (path, rest) ← orMalformed (keyPath? fuel text)
      let '=' :: rest := rest | throw .malformed
      let (value, rest) ← value fuel depth (skipSpace rest)
      let inline ← orMalformed (inline.add path value)
      match skipSpace rest with
      | '\x7d' :: rest => return (inline.entries, rest)
      | ',' :: rest => entries fuel depth inline (skipSpace rest)
      | _ => throw .malformed

end

/-- The header of a table or of a further table in a list, and the rest of the line. -/
def header? (fuel : Nat) (document : Document) (text : Text) : Option (Document × Text) :=
  match text with
  | '[' :: '[' :: rest => do
      let (path, rest) ← keyPath? fuel (skipSpace rest)
      let ']' :: ']' :: rest := rest | none
      return (← document.openItem path, rest)
  | '[' :: rest => do
      let (path, rest) ← keyPath? fuel (skipSpace rest)
      let ']' :: rest := rest | none
      return (← document.openTable path, rest)
  | _ => none

/-- A key with its value, and the rest of the line. -/
def entry (fuel : Nat) (document : Document) (text : Text) : Reading (Document × Text) := do
  let (path, rest) ← orMalformed (keyPath? fuel text)
  let '=' :: rest := rest | throw .malformed
  let (value, rest) ← value fuel nestingBudget (skipSpace rest)
  return (← orMalformed (document.addEntry path value), rest)

/-- Whether a key may begin with a character. -/
def beginsKey (letter : Char) : Bool :=
  isBareKey letter || letter == Text.quotationMark || letter == Text.apostrophe

/-- The statement of a line, if it has one, and the rest of the line. -/
def statement (fuel : Nat) (document : Document) (text : Text) : Reading (Document × Text) :=
  match text with
  | [] => .ok (document, [])
  | letter :: _ =>
      if letter = '\n' ∨ letter = '#' then .ok (document, text)
      else if letter = '[' then orMalformed (header? fuel document text)
      else if beginsKey letter then entry fuel document text
      else .error .malformed

/-- The statements of all lines. -/
def statements : Nat → Document → Text → Reading Document
  | 0, _, _ => .error .malformed
  | fuel + 1, document, text => do
      let (document, rest) ← statement fuel document (skipSpace text)
      match ← orMalformed (skipComment? (skipSpace rest)) with
      | [] => return document
      | '\n' :: rest => statements fuel document rest
      | _ => throw .malformed

/-- The text with one line end for each carriage return and line end together. -/
def plainLineEnds : Text → Text
  | '\r' :: '\n' :: rest => '\n' :: plainLineEnds rest
  | letter :: rest => letter :: plainLineEnds rest
  | [] => []

/-- The table that a text is. -/
def read (text : Text) : Reading Table :=
  let lines := plainLineEnds text
  (statements (2 * lines.length + 2) {} lines).map Document.root

/-- The table that bytes are. -/
def readBytes (bytes : ByteArray) : Reading Table :=
  match Text.ofUtf8? bytes with
  | none => .error .notText
  | some text => read text

end UriEndpoint.Toml
