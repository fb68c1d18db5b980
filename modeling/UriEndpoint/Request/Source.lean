import UriEndpoint.Request.Parameters
import UriEndpoint.Validation.Scalar

/-!
# Request sources

What may drive a request: a plain mapping, an object of the caller that exposes one, or a ready-made
request, which is checked to map names to texts when it is made. Anything else is refused.
-/

namespace UriEndpoint

/-- A source of values for one request. -/
inductive RequestSource where
  /-- A mapping, taken as it is. -/
  | mapping (parameters : Table)
  /-- An object of the caller that exposes a mapping, taken as it is. -/
  | exposing (parameters : Table)
  /-- An object of the caller that reports a fault when it is asked for its mapping. -/
  | failing (message : Text)
  /-- A ready-made request, made from a value or from nothing. -/
  | request (parameters : Option Value)
  /-- A bare value, which has a mapping only if it is a table. -/
  | bare (value : Value)

/-- Why a source gives no values. -/
inductive SourceFault where
  | invalid (issues : List Issue)
  | noMapping (kind : Text)
  /-- What an object of the caller reports. -/
  | reported (message : Text)
deriving DecidableEq, Repr

/-- A source without a mapping, in words; wrong values have no words of their own here. -/
def SourceFault.message : SourceFault → Text
  | invalid _ => []
  | reported message => message
  | noMapping kind => "Request source must expose a parameters mapping, got ".toList ++ kind

namespace RequestSource

/-- The name of the field that holds the values of a ready-made request. -/
def fieldName : Text := "parameters".toList

/-- The issues of entries that are not texts, in order. -/
def entryIssues (entries : Table) : List Issue :=
  entries.flatMap fun entry =>
    (Checked.under (.key fieldName) (Checked.under (.key entry.1)
      (Checked.ofScalar (Scalar.text entry.2)))).issues

/-- The values of a ready-made request. -/
def checkedEntries : Value → Checked Table
  | .table entries =>
      match entryIssues entries with
      | [] => .ok entries
      | issues => .error issues
  | _ => Checked.under (.key fieldName) (Checked.fail .dictType)

/-- The values that a source supplies. -/
def resolve : RequestSource → Except SourceFault Table
  | mapping parameters => .ok parameters
  | exposing parameters => .ok parameters
  | failing message => .error (.reported message)
  | request none => .ok []
  | request (some value) => (checkedEntries value).mapError .invalid
  | bare (.table entries) => .ok entries
  | bare value => .error (.noMapping value.kindName)

end RequestSource

end UriEndpoint
