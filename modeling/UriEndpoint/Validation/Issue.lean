import UriEndpoint.Text.Basic

/-!
# Issues of a value

Checking a value against what is expected of it yields the issues found: what is wrong, and where in
the value. Issues come in the order in which the parts of the value are checked.
-/

namespace UriEndpoint

/-- What is wrong with a value, or with a part of it. -/
inductive IssueKind where
  | jsonInvalid
  | missing
  | intType
  | intParsing
  | intParsingSize
  | intFromFloat
  | finiteNumber
  | floatType
  | floatParsing
  | boolType
  | boolParsing
  | stringType
  | stringTooShort
  | stringUnicode
  | noneRequired
  | literalError
  | listType
  | dictType
  | modelType
  | greaterThan
  | greaterThanEqual
  | lessThanEqual
deriving DecidableEq, Repr

/-- The stable code of an issue. -/
def IssueKind.code : IssueKind → Text
  | jsonInvalid => "json_invalid".toList
  | missing => "missing".toList
  | intType => "int_type".toList
  | intParsing => "int_parsing".toList
  | intParsingSize => "int_parsing_size".toList
  | intFromFloat => "int_from_float".toList
  | finiteNumber => "finite_number".toList
  | floatType => "float_type".toList
  | floatParsing => "float_parsing".toList
  | boolType => "bool_type".toList
  | boolParsing => "bool_parsing".toList
  | stringType => "string_type".toList
  | stringTooShort => "string_too_short".toList
  | stringUnicode => "string_unicode".toList
  | noneRequired => "none_required".toList
  | literalError => "literal_error".toList
  | listType => "list_type".toList
  | dictType => "dict_type".toList
  | modelType => "model_type".toList
  | greaterThan => "greater_than".toList
  | greaterThanEqual => "greater_than_equal".toList
  | lessThanEqual => "less_than_equal".toList

/-- A step from a value to a part of it. -/
inductive Step where
  | key (name : Text)
  | index (position : Nat)
deriving DecidableEq, Repr

/-- Something wrong, and the steps that lead to it from the whole value. -/
structure Issue where
  kind : IssueKind
  path : List Step
deriving DecidableEq, Repr

/-- The result of checking a value: what it is taken as, or the issues found. -/
abbrev Checked (α : Type) := Except (List Issue) α

namespace Issue

/-- The issue as seen from a value that has the checked one as a part. -/
def under (step : Step) (issue : Issue) : Issue := { issue with path := step :: issue.path }

end Issue

namespace Checked

/-- A single issue with the whole value. -/
def fail {α : Type} (kind : IssueKind) : Checked α := .error [⟨kind, []⟩]

/-- A check of a scalar as a check of the whole value. -/
def ofScalar {α : Type} : Except IssueKind α → Checked α
  | .ok value => .ok value
  | .error kind => fail kind

/-- The result for a part, with its issues placed under the step to that part. -/
def under {α : Type} (step : Step) : Checked α → Checked α
  | .ok value => .ok value
  | .error issues => .error (issues.map (Issue.under step))

/-- The issues of a result. -/
def issues {α : Type} : Checked α → List Issue
  | .ok _ => []
  | .error issues => issues

/-- Both results, or the issues of the first followed by those of the second. -/
def both {α β : Type} (first : Checked α) (second : Checked β) : Checked (α × β) :=
  match first, second with
  | .ok left, .ok right => .ok (left, right)
  | first, second => .error (first.issues ++ second.issues)

end Checked

end UriEndpoint
