import UriEndpoint.Text.Lowercase
import UriEndpoint.Value.Basic

/-!
# Headers

Headers are names with values in order. Names that differ only in letter case are one name; a name
that comes several times has all its values, joined by a comma and a space.
-/

namespace UriEndpoint.Headers

/-- Whether a header can be sent. -/
def isSendable (header : Text × Text) : Bool :=
  (header.1 ++ header.2).all fun letter => letter.toNat < 0x80

/-- The values under a name in lower case, in order. -/
def values (headers : List (Text × Text)) (name : Text) : List Text :=
  (headers.filter fun header => header.1.lowercase == name).map Prod.snd

/-- The joined values under a name in lower case, if it has any. -/
def value? (headers : List (Text × Text)) (name : Text) : Option Text :=
  match values headers name with
  | [] => none
  | values => some (Value.separated values)

end UriEndpoint.Headers
