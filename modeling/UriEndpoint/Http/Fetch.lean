import UriEndpoint.Http.DomainName

/-!
# Fetches

A fetch of a URI ends with a status and a body or with a fault. A status from 200 to 299 is a
success; of any other answer the body is not read. A script answers fetches in order, its last entry
again and again.
-/

namespace UriEndpoint

/-- How a fetch ended. -/
structure FetchResult where
  success : Bool
  status : Int
  body : ByteArray

/-- Why a fetch gave no answer. -/
inductive FetchFault where
  /-- A fault of the fetcher's own, in its words. -/
  | reported (message : Text)
  /-- A fault of the transport, by kind. -/
  | transport (kind : Text)
  /-- There is nothing that the fetcher could answer with. -/
  | noAnswer
  /-- The URI, or what a redirection leads to, is no URL. -/
  | invalidUrl
  /-- The location of a redirection is no URL. -/
  | badLocation
  /-- The host of a redirection is no proper form of a name. -/
  | badName (fault : DomainName.LabelFault)
  /-- A reference that a redirection goes by has brackets around what is no address. -/
  | badAddress
  | tooManyRedirects
  /-- The URL requested names no scheme, so its answer cannot be kept apart from others. -/
  | noScheme
  /-- A header of the answer is not ASCII. -/
  | headerNotAscii
  /-- The body is not in the coding that the headers name. -/
  | badCoding
deriving DecidableEq, Repr

namespace FetchResult

/-- Whether a status is that of a success. -/
def isSuccess (status : Int) : Bool := 200 ≤ status && status ≤ 299

/-- The result that an answer gives; the body counts only on success. -/
def ofAnswer (success : Bool) (status : Int) (body : ByteArray) : FetchResult :=
  { success, status, body := if success then body else ByteArray.empty }

end FetchResult

/-- Answers to fetches in order, and the URIs fetched. -/
structure FetchScript where
  answers : List (Except FetchFault FetchResult)
  fetched : List Text := []

namespace FetchScript

/-- The answer to the fetch at a position: the one there, or the last. -/
def answerAt (script : FetchScript) (position : Nat) : Except FetchFault FetchResult :=
  match script.answers[position]?, script.answers.getLast? with
  | some answer, _ => answer
  | none, some answer => answer
  | none, none => .error .noAnswer

/-- Fetches a URI. -/
def fetch (script : FetchScript) (uri : Text) :
    FetchScript × Except FetchFault FetchResult :=
  ({ script with fetched := script.fetched ++ [uri] }, script.answerAt script.fetched.length)

end FetchScript

end UriEndpoint
