import UriEndpoint.Http.Url

/-!
# References

A reference is a URL that may leave out its beginning; it is resolved against the URL that it was
found at. Names of its path are taken from the directory of the origin, steps to the same directory
or the one above are carried out, and a path that ends with such a step ends with a slash. Empty
queries, fragments and parameters are left out. Schemes that know no directories take a reference as
it stands.
-/

namespace UriEndpoint

/-- A reference in its parts; what is empty is missing. -/
structure Reference where
  scheme : Text
  authority : Text
  path : Text
  /-- What follows a semicolon in the last name of the path. -/
  parameters : Text
  query : Text
  fragment : Text

namespace Reference

/-- The schemes that know directories. -/
def hierarchicSchemes : List Text :=
  ["", "ftp", "http", "gopher", "nntp", "imap", "wais", "file", "https", "shttp", "mms",
    "prospero", "rtsp", "rtspu", "sftp", "svn", "svn+ssh", "ws", "wss"].map String.toList

/-- The schemes whose paths have parameters. -/
def parameterSchemes : List Text :=
  ["", "ftp", "hdl", "prospero", "http", "https", "shttp", "rtsp", "rtspu", "sip", "sips", "mms",
    "sftp", "tel"].map String.toList

/-- A path without the parameters of its last name, and these. -/
def splitParameters (path : Text) : Text × Text :=
  let names := Text.pieces '/' path
  let (last, parameters) := Text.cut ';' (names.getLastD [])
  (Text.joined '/' (names.dropLast ++ [last]), parameters.getD [])

/-- The parts of a text, with a scheme for one that has none. -/
def ofText (scheme : Text) (text : Text) : Reference :=
  let (given, rest) := Url.splitScheme text
  let (scheme, rest) := if given.isEmpty then (scheme, text) else (Text.lowercase given, rest)
  let (authority, rest) := Url.splitAuthority rest
  let (rest, fragment) := Text.cut '#' rest
  let (path, query) := Text.cut '?' rest
  let (path, parameters) :=
    if parameterSchemes.contains scheme then splitParameters path else (path, [])
  { scheme, authority, path, parameters, query := query.getD [], fragment := fragment.getD [] }

/-- A mark and what follows it; neither if nothing does. -/
def marked (mark : Char) (part : Text) : Text := if part.isEmpty then [] else mark :: part

/-- A path as it stands after an authority. -/
def rooted (path : Text) : Text :=
  if path.isEmpty || path.head? == some '/' then path else '/' :: path

/-- A reference in text. -/
def text (reference : Reference) : Text :=
  let path := reference.path ++ marked ';' reference.parameters
  let hasSlashes := !reference.authority.isEmpty ||
    (hierarchicSchemes.contains reference.scheme && !reference.scheme.isEmpty &&
      path.take 2 != ['/', '/'])
  (if reference.scheme.isEmpty then [] else reference.scheme ++ [':']) ++
    (if hasSlashes then '/' :: '/' :: reference.authority ++ rooted path else path) ++
    marked '?' reference.query ++ marked '#' reference.fragment

/-- The names without those that are empty and neither first nor last. -/
def withoutGaps : List Text → List Text
  | [] => []
  | first :: rest =>
      first :: (rest.dropLast.filter fun name => !name.isEmpty) ++ rest.getLast?.toList

/-- The steps of names carried out. -/
def walked (names : List Text) : List Text :=
  names.foldl
    (fun kept name =>
      if name = ['.', '.'] then kept.dropLast else if name = ['.'] then kept else kept ++ [name])
    []

/-- The directory of a path, name by name; a path that ends with a slash is all directory. -/
def directory (path : Text) : List Text :=
  let names := Text.pieces '/' path
  if names.getLast? = some [] then names else names.dropLast

/-- A path resolved against the path of the origin. -/
def resolvedPath (origin path : Text) : Text :=
  let names :=
    if path.head? == some '/' then Text.pieces '/' path
    else withoutGaps (directory origin ++ Text.pieces '/' path)
  let last := names.getLastD []
  let ending := if last = ['.'] ∨ last = ['.', '.'] then [[]] else []
  let resolved := Text.joined '/' (walked names ++ ending)
  if resolved.isEmpty then ['/'] else resolved

/-- Whether a text is an address of a version yet to come: a number of it, a dot and more. -/
def isFutureAddress : Text → Bool
  | 'v' :: rest =>
      match rest.span fun digit => (Text.hexNumber? [digit]).isSome with
      | (_ :: _, '.' :: _ :: _) => true
      | _ => false
  | _ => false

/-- Whether brackets, if there are any, hold an address. -/
def hasProperBrackets (authority : Text) : Bool :=
  match Text.cut '[' authority with
  | (_, none) => !authority.contains ']'
  | (_, some rest) =>
      match Text.cut ']' rest with
      | (_, none) => false
      | (address, some _) => isFutureAddress address || HostAddress.isVersion6 address

/-- A reference against the URL that it was found at. -/
def against (base given : Reference) : Reference :=
  if !given.authority.isEmpty then given
  else if given.path.isEmpty && given.parameters.isEmpty then
    { given with
      authority := base.authority
      path := base.path
      parameters := base.parameters
      query := if given.query.isEmpty then base.query else given.query }
  else { given with authority := base.authority, path := resolvedPath base.path given.path }

/-- A reference resolved against the URL that it was found at, both in text; nothing if brackets in
one of them hold no address. -/
def resolved? (origin text : Text) : Option Text :=
  if origin.isEmpty then some text
  else if text.isEmpty then some origin
  else
    let base := ofText [] origin
    let given := ofText base.scheme text
    if !hasProperBrackets base.authority || !hasProperBrackets given.authority then none
    else if given.scheme ≠ base.scheme ∨ !hierarchicSchemes.contains given.scheme then some text
    else some (against base given).text

end Reference

/-- Why a redirection leads nowhere. -/
inductive RedirectFault where
  /-- The location is no URL. -/
  | badLocation
  /-- The location is one, but what it leads to is none. -/
  | badTarget
  /-- A host is no proper form of a name. -/
  | badName (fault : DomainName.LabelFault)
  /-- Brackets hold no address. -/
  | badAddress
deriving DecidableEq, Repr

namespace Url

/-- The host by its name. -/
def nameOrFault (url : Url) : Except RedirectFault Text := url.hostName.mapError .badName

/-- A URL that is there, or a redirection to what is none. -/
def orBadTarget : Option Url → Except RedirectFault Url
  | some url => .ok url
  | none => .error .badTarget

/-- A location with the host of the origin if it has a scheme and no host. -/
def withHostOf (origin location : Url) : Except RedirectFault Url := do
  if location.scheme.isEmpty then return location
  else if !location.host.isEmpty then
    let _ ← location.nameOrFault
    return location
  else
    let host ← origin.nameOrFault
    orBadTarget (ofWritten? { location.written with host := hostText host })

/-- A URL with the fragment of the origin if it has none itself. -/
def withFragmentOf (origin url : Url) : Except RedirectFault Url :=
  let kept := decoded (origin.fragment.getD [])
  if kept.isEmpty || !(url.fragment.getD []).isEmpty then .ok url
  else orBadTarget (ofWritten? { url.written with fragment := some kept })

/-- A location that names no host, as a reference found at the origin. -/
def joinedTo (origin location : Url) : Except RedirectFault Url :=
  match Reference.resolved? origin.text location.text with
  | some text => orBadTarget (read? text)
  | none => .error .badAddress

/-- The URL that a redirection leads to. -/
def redirected (origin : Url) (location : Text) : Except RedirectFault Url := do
  match read? location with
  | none => throw .badLocation
  | some given =>
      let placed ← withHostOf origin given
      let joined ←
        if placed.isAbsolute then pure placed
        else joinedTo origin placed
      let target ← withFragmentOf origin joined
      let _ ← target.nameOrFault
      let _ ← origin.nameOrFault
      return target

end Url

end UriEndpoint
