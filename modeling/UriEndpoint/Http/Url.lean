import UriEndpoint.Decimal.Layout
import UriEndpoint.Http.Address
import UriEndpoint.Http.DomainName
import UriEndpoint.Text.LooseInteger
import UriEndpoint.Text.Quoted
import UriEndpoint.Text.Utf8
import UriEndpoint.Text.WordEnd

/-!
# URLs of requests

A text is cut into the parts of a URL as written, and these are checked and brought into the form
that is requested: scheme and host in lower case, no port that the scheme implies, names beyond
ASCII in their form in ASCII, no steps to the same directory or the one above, and everything
percent-encoded that a part may not hold. A relative URL is appended to the path of a base, a single
slash between them.
-/

namespace UriEndpoint

/-- A URL in its parts. What is empty is missing, but an empty query or fragment is there. -/
structure Url where
  scheme : Text
  user : Text
  /-- The host; an address of version 6 without its brackets. -/
  host : Text
  port : Option Int
  path : Text
  query : Option Text
  fragment : Option Text
deriving DecidableEq, Repr

/-- The parts of a URL as they are written. -/
structure WrittenUrl where
  scheme : Text
  user : Text
  host : Text
  port : Text
  path : Text
  query : Option Text
  fragment : Option Text

namespace Url

/-- The most characters of a URL and of each of its parts. -/
def mostCharacters : Nat := 65536

/-- Whether a character of ASCII is printable. -/
def isPlain (letter : Char) : Bool := 0x20 ≤ letter.toNat && letter.toNat < 0x7F

/-- Whether a text may be a URL or a part of one: not too long, and without controls of ASCII. -/
def isWritable (text : Text) : Bool :=
  text.length ≤ mostCharacters &&
    text.all fun letter => 0x80 ≤ letter.toNat || isPlain letter

/-- The characters that a fragment percent-encodes besides controls and all beyond ASCII. -/
def fragmentMarks : List Char := [' ', Text.quotationMark, '<', '>', '\x60']

/-- The characters that a query percent-encodes. -/
def queryMarks : List Char := [' ', Text.quotationMark, '#', '<', '>']

/-- The characters that a path percent-encodes. -/
def pathMarks : List Char := ['?', '\x60', '\x7b', '\x7d'] ++ queryMarks

/-- The characters that the name of a user, with a password or without, percent-encodes. -/
def userMarks : List Char := ['/', ';', '=', '@', '[', '\\', ']', '^', '|'] ++ pathMarks

/-- The characters that a name of a host percent-encodes. -/
def hostMarks : List Char := [' ', '#', '/', ':', '<', '>', '?', '@', '[', ']', '^']

/-- One byte as a percent sign and two digits, in upper case. -/
def encodedByte (byte : UInt8) : Text :=
  '%' :: (Text.hexDigits 2 byte.toNat).map fun digit =>
    if 'a' ≤ digit ∧ digit ≤ 'f' then Char.ofNat (digit.toNat - 0x20) else digit

/-- A part with everything percent-encoded that it may not hold. -/
def encoded (marks : List Char) (part : Text) : Text :=
  part.flatMap fun letter =>
    if isPlain letter && !marks.contains letter then [letter]
    else (Text.toUtf8 [letter]).toList.flatMap encodedByte

/-- The bytes of a part whose percent signs and digits are decoded. -/
def decodedBytes (read : List UInt8) : Text → List UInt8
  | '%' :: high :: low :: rest =>
      match Text.hexNumber? [high, low] with
      | some byte => decodedBytes (UInt8.ofNat byte :: read) rest
      | none => decodedBytes (UInt8.ofNat '%'.toNat :: read) (high :: low :: rest)
  | letter :: rest =>
      decodedBytes ((Text.toUtf8 [letter]).toList.reverse ++ read) rest
  | [] => read.reverse
termination_by text => text.length

/-- A part with percent-encoding undone; bytes that are no text are marked as such. -/
def decoded (part : Text) : Text := Text.ofUtf8Marked (decodedBytes [] part)

/-- Whether a character may stand in a scheme. -/
def isSchemeLetter (letter : Char) : Bool := letter.isAlphanum || ['+', '.', '-'].contains letter

/-- The scheme before the first colon, if there is one, and the rest. -/
def splitScheme (text : Text) : Text × Text :=
  match text.span isSchemeLetter with
  | ([], ':' :: rest) => ([], rest)
  | (first :: name, ':' :: rest) => if first.isAlpha then (first :: name, rest) else ([], text)
  | _ => ([], text)

/-- What stands before and after the last mark; nothing before when there is no mark. -/
def cutLast (mark : Char) (text : Text) : Text × Text :=
  match (Text.pieces mark text).reverse with
  | last :: piece :: pieces => (Text.joined mark (piece :: pieces).reverse, last)
  | _ => ([], text)

/-- The host and the port after it; a host in brackets reaches to the last bracket. -/
def splitHost (text : Text) : Text × Text :=
  let bracketed := text.head? == some '[' && text.contains ']'
  let host :=
    if bracketed then (cutLast ']' text).1 ++ [']'] else text.takeWhile (· != ':')
  (host, Text.withoutLeading ':' (text.drop host.length))

/-- The authority after two slashes, if there are any, and the rest. -/
def splitAuthority : Text → Text × Text
  | '/' :: '/' :: rest =>
      rest.span fun letter => letter != '/' && letter != '?' && letter != '#'
  | text => ([], text)

/-- The parts of a text, as written. -/
def split (text : Text) : WrittenUrl :=
  let (scheme, rest) := splitScheme text
  let (authority, rest) := splitAuthority rest
  let (rest, fragment) := Text.cut '#' rest
  let (path, query) := Text.cut '?' rest
  let (user, place) := cutLast '@' authority
  let (host, port) := splitHost place
  { scheme, user, host, port, path, query, fragment }

/-- The port that a scheme implies. -/
def impliedPort? (scheme : Text) : Option Int :=
  [("ftp", 21), ("http", 80), ("https", 443), ("ws", 80), ("wss", 443)].findSome?
    fun (name, port) => if name.toList = scheme then some port else none

/-- The port as written after a scheme as written, unless it is implied; nothing if it is none. -/
def port? (scheme port : Text) : Option (Option Int) :=
  if port.isEmpty then some none
  else
    (Text.looseInteger? port).map fun number =>
      if impliedPort? scheme = some number then none else some number

/-- A host in the form that is requested. -/
def host? (host : Text) : Option Text :=
  if HostAddress.resemblesVersion4 host then
    if HostAddress.isVersion4 host then some host else none
  else if host.head? == some '[' && host.getLast? == some ']' then
    let address := (host.drop 1).dropLast
    if HostAddress.isVersion6 address then some address else none
  else if host.all Punycode.isPlain then some (encoded hostMarks host.lowercase)
  else (DomainName.encoded host.loweredWords).toOption

/-- The names of a path without those that lead nowhere or back. -/
def withoutDots (path : Text) : Text :=
  let names := Text.pieces '/' path
  if names.contains ['.'] || names.contains ['.', '.'] then
    Text.joined '/' <| names.foldl
      (fun kept name =>
        if name = ['.'] then kept
        else if name = ['.', '.'] then
          if kept.isEmpty || kept = [[]] then kept else kept.dropLast
        else kept ++ [name])
      []
  else path

/-- Whether a path may follow an authority, or may stand without scheme and authority. -/
def isPathAfter (hasScheme hasAuthority : Bool) (path : Text) : Bool :=
  if hasAuthority then path.isEmpty || path.head? == some '/'
  else hasScheme || (path.head? != some ':' && path.take 2 != ['/', '/'])

/-- Whether all parts as written may be parts of a URL. -/
def areWritable (written : WrittenUrl) : Bool :=
  [written.scheme, written.user, written.host, written.port, written.path,
    written.query.getD [], written.fragment.getD []].all isWritable

/-- The URL of parts as written. -/
def ofWritten? (written : WrittenUrl) : Option Url := do
  let scheme := Text.lowercase written.scheme
  let user := encoded userMarks written.user
  let host ← host? written.host
  let port ← port? written.scheme written.port
  let hasAuthority := !user.isEmpty || !host.isEmpty || port.isSome
  if !areWritable written || !isPathAfter (!scheme.isEmpty) hasAuthority written.path then none
  else
    -- A path that stands alone is relative: its dots wait for the URL that it is joined to.
    let path :=
      if scheme.isEmpty && !hasAuthority then written.path else withoutDots written.path
    return {
      scheme, user, host, port
      path := encoded pathMarks path
      query := written.query.map (encoded queryMarks)
      fragment := written.fragment.map (encoded fragmentMarks) }

/-- The URL that a text is. -/
def read? (text : Text) : Option Url := if isWritable text then ofWritten? (split text) else none

/-- The host as it is written, an address of version 6 in brackets. -/
def hostText (host : Text) : Text := if host.contains ':' then '[' :: host ++ [']'] else host

/-- The user, the host and the port in text. -/
def authority (url : Url) : Text :=
  (if url.user.isEmpty then [] else url.user ++ ['@']) ++ hostText url.host ++
    (url.port.map fun port => ':' :: intText port).getD []

/-- A URL in text. -/
def text (url : Url) : Text :=
  let authority := url.authority
  (if url.scheme.isEmpty then [] else url.scheme ++ [':']) ++
    (if authority.isEmpty then [] else '/' :: '/' :: authority) ++
    url.path ++ Text.opened '?' url.query ++ Text.opened '#' url.fragment

/-- The parts of a URL as they are written in its text. -/
def written (url : Url) : WrittenUrl where
  scheme := url.scheme
  user := url.user
  host := hostText url.host
  port := (url.port.map intText).getD []
  path := url.path
  query := url.query
  fragment := url.fragment

/-- Whether a URL names both a scheme and a host. -/
def isAbsolute (url : Url) : Bool := !url.scheme.isEmpty && !url.host.isEmpty

/-- The path that is asked for; a slash for an empty one. -/
def askedPath (url : Url) : Text := if url.path.isEmpty then ['/'] else url.path

/-- What is asked for at the host: the path and the query. -/
def target (url : Url) : Text := url.askedPath ++ Text.opened '?' url.query

/-- The URL with something else asked for at the host. -/
def withTarget? (url : Url) (target : Text) : Option Url :=
  let (path, query) := Text.cut '?' target
  ofWritten? { url.written with path, query }

/-- A base URL: what it asks for ends with a slash. -/
def asBase? (url : Url) : Option Url :=
  if url.target.getLast? = some '/' then some url else url.withTarget? (url.target ++ ['/'])

/-- The URL that is requested for a URI under a base. -/
def requested? (base : Url) (uri : Text) : Option Url := do
  let given ← read? uri
  if given.isAbsolute then return given
  else base.withTarget? (base.target ++ given.target.dropWhile (· == '/'))

/-- The host by its name, which fails if it is no proper form of one. -/
def hostName (url : Url) : Except DomainName.LabelFault Text :=
  if DomainName.formMark.isPrefixOf url.host then DomainName.decoded url.host else .ok url.host

/-- Whether the text of a URL begins with something before a colon that no slash precedes. -/
def hasKind (url : Url) : Bool :=
  match url.text.span fun letter => letter != '/' && letter != ':' with
  | (_ :: _, ':' :: _) => true
  | _ => false

end Url

end UriEndpoint
