import UriEndpoint.Value.Basic

/-!
# Result types

What the value in a body is expected to be: a scalar of some kind, a list, a table of values of one
kind, or a record with named fields. Records are described apart from the types that mention them,
so a record may have a field of its own type.
-/

namespace UriEndpoint

/-- What a value is expected to be. -/
inductive Schema where
  | integer
  | real
  | boolean
  | text
  | anything
  | null
  /-- One of a few texts. -/
  | choice (options : List Text)
  /-- A text, to which the context of the call may put something in front. -/
  | prefixedText
  /-- Null or something else. -/
  | nullable (inner : Schema)
  | list (item : Schema)
  | table (value : Schema)
  | record (name : Text)
deriving DecidableEq, Repr

/-- A field of a record; a field with a default may be absent. -/
structure RecordField where
  name : Text
  schema : Schema
  default : Option Value := none

/-- A record: its fields in order, and whether it asks for strict checking by itself. -/
structure RecordShape where
  name : Text
  strict : Bool := false
  fields : List RecordField

/-- An expected type together with the records that it mentions. -/
structure ResultType where
  schema : Schema
  records : List RecordShape := []

/-- The name of a type in log records. -/
def Schema.displayName : Schema → Text
  | integer => "int".toList
  | real => "float".toList
  | boolean => "bool".toList
  | text => "str".toList
  | anything => "Any".toList
  | null => "NoneType".toList
  | choice _ => "Literal".toList
  | prefixedText => "Annotated".toList
  | nullable inner => inner.displayName ++ " | None".toList
  | list _ => "list".toList
  | table _ => "dict".toList
  | record name => name

/-- The kind of a value that was taken as this type. -/
def Schema.kindOf (schema : Schema) (value : Value) : Text :=
  match schema with
  | record name => name
  | _ => value.kindName

end UriEndpoint
