import UriEndpoint.Decoding.Schema
import UriEndpoint.Validation.Scalar

/-!
# Checking a value against a type

A value is turned into its checker, a function from an expected type to the value as that type or
its issues. The checkers of the parts of a list or table are made along with it, so checking follows
the value and a record may mention itself. Every part at fault is reported: items in order, entries
in the order of the body, fields in the order of the record.
-/

namespace UriEndpoint

/-- How strictly to check, and the context of the call. -/
structure CheckMode where
  /-- The strictness that the caller or the decoder asks for; it overrides every record's own. -/
  forced : Option Strictness := none
  /-- The strictness of the type itself. -/
  own : Strictness := .lax
  context : Table := []

namespace CheckMode

/-- The strictness to check with. -/
def strictness (mode : CheckMode) : Strictness := mode.forced.getD mode.own

/-- The mode inside a record. -/
def inside (mode : CheckMode) (shape : RecordShape) : CheckMode :=
  { mode with own := if shape.strict then .strict else .lax }

end CheckMode

/-- A value as a function from what is expected of it. -/
abbrev Checker := CheckMode → Schema → Checked Value

namespace Checked

/-- All results in order, or all issues. -/
def all {α : Type} : List (Checked α) → Checked (List α)
  | [] => .ok []
  | first :: rest => (both first (all rest)).map fun (value, values) => value :: values

end Checked

namespace Checker

/-- The key of the context under which the text to put in front stands. -/
def frontKey : Text := "prefix".toList

/-- The text that the context puts in front. -/
def front (context : Table) : Text := ((context.get? frontKey).map Value.shown).getD []

/-- Every item checked, issues under its position. -/
def checkItems (mode : CheckMode) (schema : Schema) (items : List Checker) :
    Checked (List Value) :=
  Checked.all (items.zipIdx.map fun (item, position) =>
    Checked.under (.index position) (item mode schema))

/-- Every entry checked, issues under its key. -/
def checkEntries (mode : CheckMode) (schema : Schema) (entries : List (Text × Checker)) :
    Checked Table :=
  Checked.all (entries.map fun (key, entry) =>
    (Checked.under (.key key) (entry mode schema)).map fun value => (key, value))

/-- One field of a record: of a repeated key the last entry counts. -/
def checkField (mode : CheckMode) (entries : List (Text × Checker)) (field : RecordField) :
    Checked (Text × Value) :=
  Checked.under (.key field.name) <|
    match entries.reverse.lookup field.name, field.default with
    | some entry, _ => (entry mode field.schema).map fun value => (field.name, value)
    | none, some value => .ok (field.name, value)
    | none, none => Checked.fail .missing

/-- The fields of a record. -/
def checkFields (mode : CheckMode) (shape : RecordShape) (entries : List (Text × Checker)) :
    Checked Table :=
  Checked.all (shape.fields.map (checkField (mode.inside shape) entries))

/-- A value checked against a type, with the checkers of its items or entries. -/
def checkWith (records : List RecordShape) (mode : CheckMode) (value : Value)
    (items : List Checker) (entries : List (Text × Checker)) : Schema → Checked Value
  | .integer => (Checked.ofScalar (Scalar.integer mode.strictness value)).map .integer
  | .real => (Checked.ofScalar (Scalar.real mode.strictness value)).map .real
  | .boolean => (Checked.ofScalar (Scalar.boolean mode.strictness value)).map .boolean
  | .text => (Checked.ofScalar (Scalar.text value)).map .text
  | .anything => .ok value.settled
  | .null =>
      match value with
      | .null => .ok .null
      | _ => Checked.fail .noneRequired
  | .choice options => (Checked.ofScalar (Scalar.choice options value)).map .text
  | .prefixedText =>
      (Checked.ofScalar (Scalar.text value)).map fun text => .text (front mode.context ++ text)
  | .nullable inner =>
      match value with
      | .null => .ok .null
      | value => checkWith records mode value items entries inner
  | .list item =>
      match value with
      | .list _ => (checkItems mode item items).map .list
      | _ => Checked.fail .listType
  | .table inner =>
      match value with
      | .table _ => (checkEntries mode inner entries).map fun entries =>
          .table (Table.putAll [] entries)
      | _ => Checked.fail .dictType
  | .record name =>
      match value, records.find? fun shape => shape.name == name with
      | .table _, some shape => (checkFields mode shape entries).map .table
      | _, _ => Checked.fail .modelType

mutual

/-- The checker of a value. -/
def ofValue (records : List RecordShape) : Value → Checker
  | .list items => fun mode =>
      checkWith records mode (.list items) (ofItems records items) []
  | .table entries => fun mode =>
      checkWith records mode (.table entries) [] (ofEntries records entries)
  | value => fun mode => checkWith records mode value [] []

/-- The checkers of the items of a list. -/
def ofItems (records : List RecordShape) : List Value → List Checker
  | [] => []
  | item :: rest => ofValue records item :: ofItems records rest

/-- The checkers of the entries of a table. -/
def ofEntries (records : List RecordShape) : List (Text × Value) → List (Text × Checker)
  | [] => []
  | (key, value) :: rest => (key, ofValue records value) :: ofEntries records rest

end

end Checker

end UriEndpoint
