import UriEndpoint.Value.Basic

/-!
# Layers of configuration

Configuration comes in layers, each a table. A layer laid over another wins wherever both have a
value, except that two tables under one key are laid over each other in turn. A null in the upper
layer is a value like any other.
-/

namespace UriEndpoint

mutual

/-- The table `upper` laid over the table `lower`. -/
def Table.overlaid (lower : Table) : List (Text × Value) → Table
  | [] => lower
  | (key, value) :: rest =>
      Table.overlaid (lower.put key (Value.overlaid (lower.get? key) value)) rest

/-- A value laid over what stands in its place below. -/
def Value.overlaid (lower : Option Value) : Value → Value
  | .table upper =>
      match lower with
      | some (.table entries) => .table (Table.overlaid entries upper)
      | _ => .table upper
  | other => other

end

theorem Table.overlaid_nil (lower : Table) : lower.overlaid [] = lower := rfl

theorem Table.overlaid_cons (lower : Table) (key : Text) (value : Value) (rest : Table) :
    lower.overlaid ((key, value) :: rest) =
      Table.overlaid (lower.put key (Value.overlaid (lower.get? key) value)) rest := rfl

end UriEndpoint
