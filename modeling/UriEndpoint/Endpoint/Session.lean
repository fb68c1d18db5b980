import UriEndpoint.Endpoint.Traffic
import UriEndpoint.Http.Client
import UriEndpoint.Http.Pool
import UriEndpoint.Settings.LogPlan

/-!
# Sessions

A session is an endpoint in use: the endpoint, what it fetches with, its calls and the lines that
are logged on the way. It is set up in a fixed order: logging, the settings passed, the template,
the decoder and the fetcher; the first fault ends the set-up. Settings that were not passed are
taken from the store, and only if the decoder or the fetcher needs them.
-/

namespace UriEndpoint

/-- What an endpoint is to fetch with. -/
inductive FetcherPlan where
  /-- Answers given in order. -/
  | scripted (answers : List (Except FetchFault FetchResult))
  /-- A client of the caller, under a base URL, over routes. -/
  | lent (base : Url) (routes : Routes) (follows : Bool)
  /-- A client that is made for the purpose. -/
  | own

/-- What an endpoint fetches with. -/
inductive Fetcher where
  | scripted (script : FetchScript)
  | lent (base : Url) (routes : Routes) (follows : Bool) (requested : List Url)
  | own (client : HttpClient)

namespace Fetcher

/-- Fetches a URI. A client made for the purpose reaches nothing. -/
def fetch (fetcher : Fetcher) (uri : Text) : Fetcher × Except FetchFault FetchResult :=
  match fetcher with
  | scripted script =>
      let (script, answer) := script.fetch uri
      (.scripted script, answer)
  | lent base routes follows requested =>
      let (urls, answer) := routes.fetch base follows uri
      (.lent base routes follows (requested ++ urls), answer)
  | own client => (.own client, .error (.transport "ConnectError".toList))

/-- The clients that a fetcher uses, and whose they are. -/
def pool : Fetcher → ClientPool ClientLife.kind
  | scripted _ => .empty
  | lent .. => (ClientPool.empty.bring ClientLife.unopened).lend 0
  | own _ => ClientPool.empty.openOwned ClientLife.unopened

/-- Every request in words: a URI of a script as it is, a URL after its method. -/
def requests : Fetcher → List Text
  | scripted script => script.fetched
  | lent _ _ _ requested => requested.map fun url => "GET ".toList ++ url.text
  | own _ => []

end Fetcher

/-- How a session is to be set up. -/
structure SessionPlan where
  template : Option Text
  type : ResultType
  /-- The decoder; JSON of the type if there is none. -/
  decoder : Option Decoder := none
  fallback : Fallback
  /-- The layer of settings that is passed. -/
  settings : Option Table := none
  fetcher : FetcherPlan
  log : Option LogPlan := none
  /-- The time that log lines show. -/
  now : Text

/-- Why a session cannot be set up. -/
inductive SetupFault where
  | settings (fault : SettingsFault)
  | template (error : TemplateError)
  | client (fault : ClientFault)

namespace SessionPlan

/-- The store and the logbook once logging is set up. -/
def logbook (plan : SessionPlan) (store : SettingsStore) :
    Except SettingsFault (SettingsStore × Logbook) :=
  match plan.log with
  | none => .ok (store, .silent)
  | some log =>
      let (store, setup) := log.setup store
      setup.map fun setup => (store, Logbook.silent.setUp setup)

/-- Whether the decoder or the fetcher is made from settings. -/
def needsSettings (plan : SessionPlan) : Bool :=
  plan.decoder.isNone ||
    match plan.fetcher with
    | .own => true
    | _ => false

/-- The settings passed, or those of the store, or the defaults where none are needed. -/
def chosen (plan : SessionPlan) (passed : Option Settings) (store : SettingsStore) :
    Except SettingsFault Settings :=
  match passed with
  | some settings => .ok settings
  | none =>
      if plan.needsSettings then store.get.2.map LoadedSettings.settings else .ok {}

/-- The fetcher that settings give. -/
def makeFetcher (plan : SessionPlan) (settings : Settings) : Except ClientFault Fetcher :=
  match plan.fetcher with
  | .scripted answers => .ok (.scripted { answers })
  | .lent base routes follows => .ok (.lent base routes follows [])
  | .own => (HttpClient.make settings.http []).map .own

/-- The endpoint of a template under settings. -/
def endpoint (plan : SessionPlan) (template : Template) (settings : Settings) : Endpoint where
  template
  resultName := plan.type.schema.displayName
  decoder := plan.decoder.getD (.json plan.type settings.decode.strict)
  fallback := plan.fallback

end SessionPlan

/-- An endpoint in use. -/
structure Session where
  endpoint : Endpoint
  fetcher : Fetcher
  /-- The clients; the endpoint of the session is the only one. -/
  pool : ClientPool ClientLife.kind
  book : Logbook
  now : Text
  traffic : Traffic := .none
  /-- How many calls were started. -/
  calls : Nat := 0
  /-- The lines written since they were last taken. -/
  lines : List Text := []

/-- A step of a session. -/
inductive SessionStep where
  | buildUri (source : RequestSource)
  | get (source : RequestSource) (options : Option Table)
  /-- One call after another, each without options. -/
  | gather (sources : List RequestSource)
  /-- Enters the endpoint and leaves it, which closes it. -/
  | enterAndLeave
  | close
  | rest

/-- What a step gives. -/
inductive SessionOutcome where
  | uri (result : Except CallFault Text)
  /-- How a call ended. -/
  | call (result : Option (Except CallFault Decoded))
  /-- How calls ended, or why none was made. -/
  | calls (results : Except (List Issue) (List (Option (Except CallFault Decoded))))
  | left
  /-- Whether the client is closed, if there is one. -/
  | client (closed : Option Bool)

namespace Session

/-- Sets a session up. -/
def setUp (plan : SessionPlan) (store : SettingsStore) : Except SetupFault Session := do
  let (store, book) ← (plan.logbook store).mapError .settings
  let passed ← (plan.settings.mapM store.settingsWith).mapError .settings
  let template ← (Template.read? plan.template).mapError .template
  let (book, lines) := book.logAll [template.readRecord] plan.now
  let settings ← (plan.chosen passed store).mapError .settings
  let fetcher ← (plan.makeFetcher settings).mapError .client
  return {
    endpoint := plan.endpoint template settings
    fetcher, pool := fetcher.pool.serve 0, book, now := plan.now, lines }

/-- Logs records. -/
def logging (session : Session) (records : List LogRecord) : Session :=
  let (book, lines) := session.book.logAll records session.now
  { session with book, lines := session.lines ++ lines }

/-- Takes the lines written since they were last taken. -/
def taken (session : Session) : Session × List Text :=
  ({ session with lines := [] }, session.lines)

/-- Makes one call from its start to its end. -/
def call (session : Session) (source : RequestSource) (options : Option DecodeOptions) :
    Session × Option (Except CallFault Decoded) :=
  let number := session.calls
  let (traffic, records) := session.traffic.start session.endpoint number source options
  let started := logging { session with traffic, calls := number + 1 } records
  match traffic.flight? number with
  | none => (started, traffic.outcome? number)
  | some flight =>
      let (fetcher, answer) := started.fetcher.fetch flight.uri
      let pool := started.pool.step (.fetch 0 flight.uri answer)
      let (traffic, records) := traffic.deliver session.endpoint number answer
      (logging { started with fetcher, pool, traffic } records, traffic.outcome? number)

/-- Makes a call with options that are still to be checked; with wrong options none is made. -/
def get (session : Session) (source : RequestSource) (options : Option Table) :
    Session × Option (Except CallFault Decoded) :=
  match options.mapM DecodeOptions.check with
  | .error issues => (session, some (.error (.invalid issues)))
  | .ok options => session.call source options

/-- Makes one call after another. -/
def callAll (session : Session) :
    List RequestSource → Session × List (Option (Except CallFault Decoded))
  | [] => (session, [])
  | source :: rest =>
      let (session, result) := session.call source none
      let (session, results) := callAll session rest
      (session, result :: results)

/-- The issues of the first ready-made request among sources that is wrong. -/
def firstIssues? (sources : List RequestSource) : Option (List Issue) :=
  sources.findSome? fun source =>
    match source.resolve with
    | .error (.invalid issues) => some issues
    | _ => none

/-- Makes one call after another, unless a ready-made request is wrong: then none is made. -/
def gather (session : Session) (sources : List RequestSource) :
    Session × Except (List Issue) (List (Option (Except CallFault Decoded))) :=
  match firstIssues? sources with
  | some issues => (session, .error issues)
  | none =>
      let (session, results) := session.callAll sources
      (session, .ok results)

/-- Ends the use of the endpoint; that a client was closed is logged. -/
def ending (session : Session) (next : PoolStep) : Session :=
  let pool := session.pool.step next
  let closings := pool.closings.drop session.pool.closings.length
  logging { session with pool } (closings.map fun _ => clientClosedRecord)

/-- Takes one step. -/
def step (session : Session) : SessionStep → Session × SessionOutcome
  | .buildUri source => (session, .uri (session.endpoint.uriFor source))
  | .get source options =>
      let (session, result) := session.get source options
      (session, .call result)
  | .gather sources =>
      let (session, results) := session.gather sources
      (session, .calls results)
  | .enterAndLeave => (session.ending (.leaveEndpoint 0 false), .left)
  | .close =>
      let session := session.ending (.closeEndpoint 0)
      (session, .client (session.pool.isClosed? 0))
  | .rest => (session, .client (session.pool.isClosed? 0))

end Session

end UriEndpoint
