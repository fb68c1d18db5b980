import UriEndpoint.Decoding.Decoder
import UriEndpoint.Http.Fetch
import UriEndpoint.Logging.Line
import UriEndpoint.Request.Source

/-!
# Endpoints

An endpoint is a template with a decoder and a fallback. A call takes the values of its source,
builds a URI and fetches it. A success is decoded; a failure status gives the fallback and is never
decoded; a fault of the source, the fetch, the decoder or the fallback is the outcome of the call.
-/

namespace UriEndpoint

/-- What a call gives on a failure status. -/
structure Fallback where
  /-- The value where none is made. -/
  constant : Value := .null
  /-- How a value is made anew, from how many times this was done before, or what is reported where
  none can be made; it comes before the constant. -/
  make? : Option (Nat → Except Text Value) := none

namespace Fallback

/-- The same value every time. -/
def fixed (value : Value) : Fallback := { constant := value }

/-- A value made anew every time. -/
def made (make : Nat → Value) : Fallback := { make? := some fun count => .ok (make count) }

/-- The value of a fallback of which values have been made `count` times. -/
def value (fallback : Fallback) (count : Nat) : Except Text Value :=
  match fallback.make? with
  | some make => make count
  | none => .ok fallback.constant

/-- How many times values have been made once the fallback was used. -/
def next (fallback : Fallback) (count : Nat) : Nat :=
  match fallback.make? with
  | some _ => count + 1
  | none => count

end Fallback

/-- Why a call has no value. -/
inductive CallFault where
  | source (fault : SourceFault)
  | part (fault : PartFault)
  | fetch (fault : FetchFault)
  /-- The options of the call are wrong. -/
  | invalid (issues : List Issue)
  | decode (fault : DecodeFault)
  /-- What the caller's way to make a fallback value reports. -/
  | fallback (message : Text)
deriving DecidableEq, Repr

/-- The end of a call: how it ended, what is logged of that, and what was called for it. -/
structure CallEnd where
  outcome : Except CallFault Decoded
  records : List LogRecord := []
  /-- How many bodies were given to the decoder. -/
  decodes : Nat := 0
  /-- How many times fallback values have been made by then. -/
  made : Nat

/-- A template with what is done with the answers. -/
structure Endpoint where
  template : Template
  /-- The name of the result type in log records. -/
  resultName : Text
  decoder : Decoder
  fallback : Fallback

/-- The loggers that log by themselves. -/
inductive OwnLogger where
  | template
  | endpoint
  | transport
deriving DecidableEq, Repr

/-- The name of a logger. -/
def OwnLogger.name : OwnLogger → Text
  | template => "template".toList
  | endpoint => "endpoint".toList
  | transport => "transport".toList

/-- What is logged when a template has been read. -/
def Template.readRecord (template : Template) : LogRecord where
  logger := OwnLogger.template.name
  level := .debug
  event := "template_parsed".toList
  fields :=
    [("template".toList, .text template.source),
      ("segment_count".toList, .integer template.segments.length),
      ("query_param_count".toList, .integer template.params.length)]

/-- What is logged when a fetcher has closed its own client. -/
def clientClosedRecord : LogRecord where
  logger := OwnLogger.transport.name
  level := .debug
  event := "http_client_closed".toList
  fields := []

namespace Endpoint

/-- What is logged before a fetch. -/
def startRecord (endpoint : Endpoint) (uri : Text) : LogRecord where
  logger := OwnLogger.endpoint.name
  level := .debug
  event := "request_started".toList
  fields := [("uri".toList, .text uri), ("template".toList, .text endpoint.template.source)]

/-- What is logged after a failure status. -/
def failureRecord (uri : Text) (status : Int) : LogRecord where
  logger := OwnLogger.endpoint.name
  level := .warning
  event := "request_failed_status".toList
  fields := [("uri".toList, .text uri), ("status_code".toList, .integer status)]

/-- What is logged after a body has been decoded. -/
def decodedRecord (endpoint : Endpoint) (uri : Text) (status : Int) : LogRecord where
  logger := OwnLogger.endpoint.name
  level := .debug
  event := "request_decoded".toList
  fields :=
    [("uri".toList, .text uri), ("status_code".toList, .integer status),
      ("result_type".toList, .text endpoint.resultName)]

/-- The URI that a source leads to. -/
def uriFor (endpoint : Endpoint) (source : RequestSource) : Except CallFault Text := do
  let parameters ← source.resolve.mapError .source
  (endpoint.template.buildFrom parameters).mapError .part

/-- What becomes of a call on an answer to its fetch, when fallback values have been made `count`
times. -/
def ending (endpoint : Endpoint) (uri : Text) (options : Option DecodeOptions) (count : Nat)
    (answer : Except FetchFault FetchResult) : CallEnd :=
  match answer with
  | .error fault => { outcome := .error (.fetch fault), made := count }
  | .ok result =>
      if result.success then
        match endpoint.decoder result.body options with
        | .ok value =>
            { outcome := .ok value
              records := [endpoint.decodedRecord uri result.status]
              decodes := 1
              made := count }
        | .error fault => { outcome := .error (.decode fault), decodes := 1, made := count }
      else
        { outcome := ((endpoint.fallback.value count).map Decoded.ofValue).mapError .fallback
          records := [failureRecord uri result.status]
          made := endpoint.fallback.next count }

/-- The endpoint shown as a call with its quoted template. -/
def shown (endpoint : Endpoint) : Text :=
  "ApiEndpoint(".toList ++ endpoint.template.source.quoted ++ [')']

end Endpoint

end UriEndpoint
