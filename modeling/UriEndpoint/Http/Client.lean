import UriEndpoint.Http.Coding
import UriEndpoint.Http.Fetch
import UriEndpoint.Http.Reference
import UriEndpoint.Settings.Section

/-!
# HTTP clients

A client is made from the HTTP section of the settings. It sends a default user agent, which the
section may replace and the caller's headers may replace again. Over routes that answer by path, a
client fetches URIs under its base URL and follows redirections if it is told to; where a
redirection leads has to be right even if it is not followed.
-/

namespace UriEndpoint

/-- A client for HTTP requests. -/
structure HttpClient where
  baseUrl : Url
  timeoutSeconds : Float
  followRedirects : Bool
  maxConnections : Int
  headers : List (Text × Text)

/-- Why a client cannot be made. -/
inductive ClientFault where
  | invalidUrl
  | headerNotAscii
deriving DecidableEq, Repr

namespace HttpClient

/-- The name of the header that says who asks. -/
def agentHeader : Text := "User-Agent".toList

/-- The user agent that is sent when nothing else is set. -/
def defaultAgent : Text := "python-httpx/0.28.1".toList

/-- Headers with a value under a name as written: in the name's place if it has one, else last. -/
def withHeader (headers : List (Text × Text)) (header : Text × Text) : List (Text × Text) :=
  if headers.any fun other => other.1 == header.1 then
    headers.map fun other => if other.1 == header.1 then header else other
  else headers ++ [header]

/-- The headers that a client sends, names in lower case: the agent of the section, then the
caller's headers, and the default agent in front if none of them names one. -/
def headersOf (http : HttpSection) (extra : List (Text × Text)) : List (Text × Text) :=
  let given :=
    extra.foldl withHeader ((http.userAgent.map fun agent => (agentHeader, agent)).toList)
  let named := given.map fun header => (header.1.lowercase, header.2)
  if named.any fun header => header.1 == agentHeader.lowercase then named
  else (agentHeader.lowercase, defaultAgent) :: named

/-- The client that the HTTP section asks for, with further headers. -/
def make (http : HttpSection) (extra : List (Text × Text)) : Except ClientFault HttpClient :=
  let headers := headersOf http extra
  match (Url.read? http.baseUrl).bind Url.asBase? with
  | none => .error .invalidUrl
  | some baseUrl =>
      if headers.all Headers.isSendable then
        .ok
          { baseUrl
            timeoutSeconds := http.timeoutSeconds
            followRedirects := http.followRedirects
            maxConnections := http.maxConnections
            headers }
      else .error .headerNotAscii

end HttpClient

/-- What a route answers. -/
inductive RouteAnswer where
  | reply (status : Int) (body : ByteArray) (headers : List (Text × Text))
  | fault (kind : Text)

/-- Answers by the path of a URL. -/
abbrev Routes := List (Text × RouteAnswer)

namespace Routes

/-- What is answered where there is no route. -/
def notFound : RouteAnswer := .reply 404 ByteArray.empty []

/-- The answer to a request. -/
def answer (routes : Routes) (url : Url) : RouteAnswer :=
  (routes.lookup (Url.decoded url.askedPath)).getD notFound

/-- The statuses that redirect when they come with a location. -/
def redirectStatuses : List Int := [301, 302, 303, 307, 308]

/-- The name of the header that says where a redirection leads. -/
def locationHeader : Text := "location".toList

/-- Where an answer redirects to. -/
def location? (status : Int) (headers : List (Text × Text)) : Option Text :=
  if redirectStatuses.contains status then Headers.value? headers locationHeader else none

/-- How many redirections a fetch follows. -/
def mostRedirects : Nat := 20

/-- The fault of a fetch that a redirection leads nowhere. -/
def faultOf : RedirectFault → FetchFault
  | .badLocation => .badLocation
  | .badTarget => .invalidUrl
  | .badName fault => .badName fault
  | .badAddress => .badAddress

/-- What a client takes from the answer at a URL: the end of the fetch if nothing follows, and where
it redirects to. -/
def taken (routes : Routes) (url : Url) : Except FetchFault (FetchResult × Option Url) :=
  match routes.answer url with
  | .fault kind => .error (.transport kind)
  | .reply status body headers => do
      if !headers.all Headers.isSendable then throw .headerNotAscii
      let some body := Coding.decodedBody? headers body | throw .badCoding
      if !url.hasKind then throw .noScheme
      let next ← ((location? status headers).mapM (Url.redirected url)).mapError faultOf
      return (FetchResult.ofAnswer (FetchResult.isSuccess status) status body, next)

/-- Requests a URL and follows redirections while steps remain: the URLs requested, and the end. -/
def chase (routes : Routes) (follows : Bool) : Nat → Url →
    List Url × Except FetchFault FetchResult
  | steps, url =>
      match routes.taken url, follows, steps with
      | .error fault, _, _ => ([url], .error fault)
      | .ok (_, some _), true, 0 => ([url], .error .tooManyRedirects)
      | .ok (_, some next), true, steps + 1 =>
          let (urls, result) := chase routes follows steps next
          (url :: urls, result)
      | .ok (ended, _), _, _ => ([url], .ok ended)

/-- Fetches a URI under a base URL: the URLs requested, and the end. -/
def fetch (routes : Routes) (base : Url) (follows : Bool) (uri : Text) :
    List Url × Except FetchFault FetchResult :=
  match Url.requested? base uri with
  | none => ([], .error .invalidUrl)
  | some url => routes.chase follows mostRedirects url

end Routes

end UriEndpoint
