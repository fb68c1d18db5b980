import UriEndpoint.Endpoint.Basic

/-!
# Calls in flight

Any number of calls on one endpoint may be under way at once. Starting a call resolves its source,
builds its URI and issues one fetch, or ends the call at once; the answer to a fetch ends the call
that issued it. Starts and answers of different calls may come in any order.
-/

namespace UriEndpoint

/-- A call whose fetch has been issued and not answered. -/
structure Flight where
  call : Nat
  uri : Text
  options : Option DecodeOptions

/-- The calls on an endpoint: those in flight, every fetch issued, and how calls ended. -/
structure Traffic where
  flights : List Flight := []
  fetched : List Text := []
  /-- How many bodies were given to the decoder. -/
  decodes : Nat := 0
  /-- How many times fallback values were made. -/
  made : Nat := 0
  ended : List (Nat × Except CallFault Decoded) := []

/-- A step of one call. -/
inductive TrafficStep where
  | start (call : Nat) (source : RequestSource) (options : Option DecodeOptions)
  | deliver (call : Nat) (answer : Except FetchFault FetchResult)

namespace Traffic

/-- No calls yet. -/
def none : Traffic := {}

/-- The flight of a call. -/
def flight? (traffic : Traffic) (call : Nat) : Option Flight :=
  traffic.flights.find? fun flight => flight.call == call

/-- Starts a call; what is logged goes with it. -/
def start (endpoint : Endpoint) (traffic : Traffic) (call : Nat) (source : RequestSource)
    (options : Option DecodeOptions) : Traffic × List LogRecord :=
  match endpoint.uriFor source with
  | .error fault => ({ traffic with ended := traffic.ended ++ [(call, .error fault)] }, [])
  | .ok uri =>
      ({ traffic with
          flights := traffic.flights ++ [⟨call, uri, options⟩]
          fetched := traffic.fetched ++ [uri] },
        [endpoint.startRecord uri])

/-- Ends the call that a fetch belongs to; what is logged goes with it. -/
def deliver (endpoint : Endpoint) (traffic : Traffic) (call : Nat)
    (answer : Except FetchFault FetchResult) : Traffic × List LogRecord :=
  match traffic.flight? call with
  | .none => (traffic, [])
  | some flight =>
      let ending := endpoint.ending flight.uri flight.options traffic.made answer
      ({ traffic with
          flights := traffic.flights.filter fun other => other.call != call
          decodes := traffic.decodes + ending.decodes
          made := ending.made
          ended := traffic.ended ++ [(call, ending.outcome)] },
        ending.records)

/-- Takes one step. -/
def step (endpoint : Endpoint) (traffic : Traffic) : TrafficStep → Traffic × List LogRecord
  | .start call source options => traffic.start endpoint call source options
  | .deliver call answer => traffic.deliver endpoint call answer

/-- Takes steps one after another. -/
def run (endpoint : Endpoint) (traffic : Traffic) (steps : List TrafficStep) : Traffic :=
  steps.foldl (fun traffic next => (traffic.step endpoint next).1) traffic

/-- How a call ended. -/
def outcome? (traffic : Traffic) (call : Nat) : Option (Except CallFault Decoded) :=
  traffic.ended.lookup call

end Traffic

end UriEndpoint
