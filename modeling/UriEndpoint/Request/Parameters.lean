import UriEndpoint.Template.Basic
import UriEndpoint.Value.Basic

/-!
# Values for a template

A request supplies values by variable name. The values should be texts. In the path any other value
is refused, with its place among the parts that were collected up to then; in the query it is
written as messages show it.
-/

namespace UriEndpoint

/-- A value in the path that is not a text. -/
structure PartFault where
  position : Nat
  kind : Text
deriving DecidableEq, Repr

/-- The fault in words. -/
def PartFault.message (fault : PartFault) : Text :=
  "sequence item ".toList ++ natText fault.position ++ ": expected str instance, ".toList ++
    fault.kind ++ " found".toList

namespace Parameters

/-- The parts of a path: literal texts and present values, in order. -/
def pathParts (segments : List Segment) (parameters : Table) : List Value :=
  segments.filterMap fun segment =>
    match segment with
    | .literal text => some (.text text)
    | .placeholder name => parameters.get? name

/-- The first part that is not a text. -/
def firstFault? (position : Nat) : List Value → Option PartFault
  | [] => none
  | .text _ :: rest => firstFault? (position + 1) rest
  | value :: _ => some ⟨position, value.kindName⟩

/-- The texts that the query writes for the values. -/
def assignment (parameters : Table) : Assignment :=
  fun name => (parameters.get? name).map Value.shown

/-- The path that segments give with these values. -/
def renderPath (segments : List Segment) (parameters : Table) : Except PartFault Text :=
  match firstFault? 0 (pathParts segments parameters) with
  | some fault => .error fault
  | none => .ok (Segment.renderPath segments (assignment parameters))

/-- The query that parameters give with these values. -/
def renderQuery (params : List Param) (parameters : Table) : Text :=
  Param.renderQuery params (assignment parameters)

/-- The URI that segments, parameters and a fragment give with these values. -/
def buildUri (segments : List Segment) (params : List Param) (fragment : Text)
    (parameters : Table) : Except PartFault Text :=
  (renderPath segments parameters).map fun _ =>
    UriEndpoint.buildUri segments params fragment (assignment parameters)

end Parameters

/-- The URI that a template gives with values that may not be texts. -/
def Template.buildFrom (template : Template) (parameters : Table) : Except PartFault Text :=
  Parameters.buildUri template.segments template.params template.fragment parameters

end UriEndpoint
