import UriEndpoint.Compression.Container
import UriEndpoint.Http.Headers
import UriEndpoint.Text.Blank

/-!
# Codings of bodies

Headers may name codings that were applied to a body one after another; a client undoes them from
the last to the first. A name that the client does not know counts as no coding.
-/

namespace UriEndpoint

/-- A coding of bodies. -/
inductive Coding where
  | gzip
  | deflate
deriving DecidableEq, Repr

namespace Coding

/-- The name of the header that names codings. -/
def header : Text := "content-encoding".toList

/-- The codings by name. -/
def names : List (Text × Coding) := [("gzip".toList, gzip), ("deflate".toList, deflate)]

/-- The codings that headers name, in the order in which they were applied. -/
def ofHeaders (headers : List (Text × Text)) : List Coding :=
  ((Headers.values headers header).flatMap (Text.pieces ',')).filterMap fun name =>
    names.lookup (Text.lowercase (Text.stripped name))

/-- A body with a coding undone, if it has that coding. -/
def undone? : Coding → List UInt8 → Option (List UInt8)
  | gzip, body => Compression.ofRemainderContainer body
  | deflate, body => (Compression.ofSumContainer body).or (Compression.ofBareData body)

/-- The body that an answer with these headers stands for. -/
def decodedBody? (headers : List (Text × Text)) (body : ByteArray) : Option ByteArray :=
  match ofHeaders headers with
  | [] => some body
  | codings =>
      (codings.reverse.foldlM (fun bytes coding => undone? coding bytes) body.toList).map
        fun bytes => ⟨bytes.toArray⟩

end Coding

end UriEndpoint
