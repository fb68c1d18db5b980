import UriEndpoint.Decoding.Checker
import UriEndpoint.Json.Reader
import UriEndpoint.Text.Utf8

/-!
# Decoders

A decoder turns a body into a value of a result type, or gives the issues that it found. The JSON
decoder reads the body first, any fault of which is a single issue, and then checks the value. How
strictly depends on the options of the call, then on the decoder, then on the type.
-/

namespace UriEndpoint

/-- Options of one call. -/
structure DecodeOptions where
  strict : Option Bool := none
  context : Option Table := none

namespace DecodeOptions

/-- A context: a table or null. -/
def context? : Value → Except IssueKind (Option Table)
  | .null => .ok none
  | .table entries => .ok (some entries)
  | _ => .error .dictType

/-- The options in a table, a field at its default when absent. -/
def check (table : Table) : Checked DecodeOptions :=
  let strict :=
    match table.get? "strict".toList with
    | none => .ok none
    | some value =>
        Checked.under (.key "strict".toList)
          (Checked.ofScalar (Scalar.nullable (Scalar.boolean .lax) value))
  let context :=
    match table.get? "context".toList with
    | none => .ok none
    | some value => Checked.under (.key "context".toList) (Checked.ofScalar (context? value))
  (Checked.both strict context).map fun (strict, context) => { strict, context }

end DecodeOptions

/-- A value taken from a body, and its kind. -/
structure Decoded where
  value : Value
  kind : Text

/-- A value as it stands, with its kind. -/
def Decoded.ofValue (value : Value) : Decoded := ⟨value, value.kindName⟩

/-- Why a body gives no value. -/
inductive DecodeFault where
  | invalid (issues : List Issue)
  /-- What a decoder of the caller reports. -/
  | reported (message : Text)
deriving DecidableEq, Repr

/-- A way to turn bodies into values; a call may come without options. -/
abbrev Decoder := ByteArray → Option DecodeOptions → Except DecodeFault Decoded

namespace Decoder

/-- The JSON of bodies: numbers have at most 4300 characters before the point, signs included. -/
def bodyDialect : Json.Dialect where
  depth := 200
  takes := fun negative digits _ =>
    digits + (if negative then 1 else 0) ≤ NumberText.mostCharacters

/-- The value in a body, with repeated keys kept. -/
def bodyValue? (body : ByteArray) : Option Value := do
  (Json.read bodyDialect (← Text.ofUtf8? body)).toOption

/-- The strictness that a truth value asks for. -/
def strictnessOf (strict : Bool) : Strictness := if strict then .strict else .lax

/-- The decoder of JSON bodies of a type, with the decoder's own strictness if it has one. -/
def json (type : ResultType) (strict : Option Bool) : Decoder := fun body given =>
  let options := given.getD {}
  match bodyValue? body with
  | none => .error (.invalid [⟨.jsonInvalid, []⟩])
  | some value =>
      let mode : CheckMode :=
        { forced := (options.strict.or strict).map strictnessOf
          context := options.context.getD [] }
      ((Checker.ofValue type.records value mode type.schema).map fun value =>
        ⟨value, type.schema.kindOf value⟩).mapError .invalid

end Decoder

end UriEndpoint
