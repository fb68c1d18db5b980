import UriEndpoint.Text.Blank
import UriEndpoint.Template.Segment
import UriEndpoint.Validation.Issue

/-!
# Query parameters

The query of a template is a list of clauses, each naming the parameter on the wire and the variable
whose value it takes. Clauses stand between ampersands; reading stops where fewer characters remain
than the shortest clause has. Rendering keeps the parameters whose variable has a value, in template
order, with exactly one ampersand between them.
-/

namespace UriEndpoint

/-- A query parameter: its name on the wire, and the variable whose value it takes. -/
structure Param where
  wireName : Text
  varName : Text
deriving DecidableEq, Repr

namespace Param

/-- The characters that may surround a name in a clause: both braces and the space. -/
def trimMarks : List Char := ['\x7b', '\x7d', ' ']

/-- The length of the shortest clause: a name, an equals sign and a name. -/
def shortestClause : Nat := 3

/-- A name that must not be empty, as the value of a field. -/
def checkedName (field : String) (name : Text) : Checked Text :=
  if name = [] then Checked.under (.key field.toList) (Checked.fail .stringTooShort) else .ok name

/-- A parameter made from its two names, neither of which may be empty. -/
def make (wireName varName : Text) : Checked Param :=
  (Checked.both (checkedName "wire_name" wireName) (checkedName "var_name" varName)).map
    fun names => ⟨names.1, names.2⟩

/-- Reads one clause: the two names stand around its first equals sign. -/
def ofClause (clause : Text) : Except TemplateFault Param :=
  match clause.cut '=' with
  | (_, none) => .error (.missingEquals clause)
  | (left, some right) =>
      let wireName := left.trimmed trimMarks
      let varName := right.trimmed trimMarks
      if wireName = [] ∨ varName = [] then .error (.missingName clause)
      else .ok ⟨wireName, varName⟩

/-- Reads clauses from left to right while enough text remains for one. -/
def scan (query : Text) : Except TemplateFault (List Param) :=
  if query.length < shortestClause then .ok []
  else
    match _ : query.cut '&' with
    | (clause, none) => (ofClause clause).map fun param => [param]
    | (clause, some rest) =>
        match ofClause clause with
        | .error fault => .error fault
        | .ok param => (scan rest).map (param :: ·)
termination_by query.length
decreasing_by
  exact Text.length_of_cut ‹_›

/-- The parameters of a query; a blank query has none. -/
def readQuery (query : Text) : Except TemplateFault (List Param) :=
  if query.isBlank then .ok [] else scan query

/-- The entry of a parameter, if its variable has a value. -/
def written? (values : Assignment) (param : Param) : Option Text :=
  (values param.varName).map fun value => param.wireName ++ '=' :: value

/-- The query that parameters give with these values. -/
def renderQuery (params : List Param) (values : Assignment) : Text :=
  Text.joined '&' (params.filterMap (written? values))

end Param

end UriEndpoint
