import UriEndpoint.Value.Basic

/-!
# Building a configuration document

A document is built statement by statement. Keys are paths; a path descends through tables, and
through the last table of a list of tables. Two rules keep statements from redefining each other: a
table that has been *declared*, by a header or by a dotted key of an earlier section, is not
declared again, and whatever was written as an inline list or table is *sealed*, with all below it.
-/

namespace UriEndpoint.Toml

/-- A dotted key: the names from the outermost table inwards. -/
abbrev KeyPath := List Text

/-- Changes the table that a value is; a list is entered at its last table if `lists` allows it. -/
def updateIn (lists : Bool) (change : Table → Option Table) : Value → Option Value
  | .table inner => (change inner).map .table
  | .list items =>
      if lists then
        match items.getLast? with
        | some (.table inner) =>
            (change inner).map fun inner => .list (items.dropLast ++ [.table inner])
        | _ => none
      else none
  | _ => none

/-- Changes the table at the end of a path, creating tables on the way. -/
def updateAt (lists : Bool) (change : Table → Option Table) : KeyPath → Table → Option Table
  | [], table => change table
  | key :: rest, table =>
      match table.get? key with
      | none => (updateAt lists change rest []).map fun inner => table.put key (.table inner)
      | some value =>
          (updateIn lists (updateAt lists change rest) value).map fun inner => table.put key inner

/-- Adds an empty table to the list of tables under a key, which is created if need be. -/
def appendTable (key : Text) (table : Table) : Option Table :=
  match table.get? key with
  | none => some (table.put key (.list [.table []]))
  | some (.list items) => some (table.put key (.list (items ++ [.table []])))
  | some _ => none

/-- Adds a value under a key that has none yet. -/
def addNew (key : Text) (value : Value) (table : Table) : Option Table :=
  match table.get? key with
  | none => some (table.put key value)
  | some _ => none

/-- Whether a value is a list or a table, which seals what is written with it. -/
def isContainer : Value → Bool
  | .list _ | .table _ => true
  | _ => false

/-- A path without its last name, and that name. -/
def splitLast : KeyPath → Option (KeyPath × Text)
  | [] => none
  | [name] => some ([], name)
  | name :: rest => (splitLast rest).map fun (before, last) => (name :: before, last)

/-- A document under construction. -/
structure Document where
  root : Table := []
  /-- The table that keys without a header of their own belong to. -/
  section_ : KeyPath := []
  /-- Tables that may not be declared again. -/
  declared : List KeyPath := []
  /-- Tables that dotted keys of the current section have opened. -/
  pending : List KeyPath := []
  /-- Inline values, sealed with all below them. -/
  sealedPaths : List KeyPath := []

namespace Document

/-- Whether a path lies at or below an inline value. -/
def isSealed (document : Document) (path : KeyPath) : Bool :=
  document.sealedPaths.any fun inline => inline.isPrefixOf path

/-- The document once the current section has ended. -/
def endSection (document : Document) : Document :=
  { document with declared := document.pending ++ document.declared, pending := [] }

/-- Opens the section of a table. -/
def openTable (document : Document) (path : KeyPath) : Option Document := do
  let document := document.endSection
  if document.declared.contains path || document.isSealed path then none
  else
    let root ← updateAt true some path document.root
    return { document with root, section_ := path, declared := path :: document.declared }

/-- Opens the section of a further table in a list of tables; what was declared below the list
belongs to the table before. -/
def openItem (document : Document) (path : KeyPath) : Option Document := do
  let document := document.endSection
  if document.isSealed path then none
  else
    let (parent, key) ← splitLast path
    let root ← updateAt true (appendTable key) parent document.root
    let outside (other : KeyPath) : Bool := !path.isPrefixOf other
    return { document with
      root
      section_ := path
      declared := path :: document.declared.filter outside
      sealedPaths := document.sealedPaths.filter outside }

/-- The tables that a dotted key passes through, from the outermost, within a section. -/
def passedTables (current : KeyPath) : KeyPath → List KeyPath
  | [] => []
  | name :: rest => (current ++ [name]) :: passedTables (current ++ [name]) rest

/-- Writes a value under a dotted key of the current section. -/
def addEntry (document : Document) (path : KeyPath) (value : Value) : Option Document := do
  let (parent, key) ← splitLast path
  let passed := passedTables document.section_ parent
  -- A dotted key goes on with tables of its own section only, not with one declared before it.
  if passed.any document.declared.contains then none
  else
    let target := document.section_ ++ parent
    if document.isSealed target then none
    else
      let root ← updateAt true (addNew key value) target document.root
      let inline := if isContainer value then [document.section_ ++ path] else []
      return { document with
        root
        pending := passed ++ document.pending
        sealedPaths := inline ++ document.sealedPaths }

end Document

/-- An inline table under construction: its entries, and the containers among them. -/
structure InlineTable where
  entries : Table := []
  sealedPaths : List KeyPath := []

/-- Writes a value under a dotted key of an inline table. -/
def InlineTable.add (inline : InlineTable) (path : KeyPath) (value : Value) :
    Option InlineTable := do
  let (parent, key) ← splitLast path
  if inline.sealedPaths.any fun other => other.isPrefixOf path then none
  else
    let entries ← updateAt false (addNew key value) parent inline.entries
    let more := if isContainer value then [path] else []
    return { entries, sealedPaths := more ++ inline.sealedPaths }

end UriEndpoint.Toml
