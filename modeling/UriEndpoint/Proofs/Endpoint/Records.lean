import UriEndpoint.Proofs.Endpoint.Calls
import UriEndpoint.Proofs.Redaction.Lines

/-! # The records of one call

Starting a call and ending it each leave records. Among any steps of other calls, those of one call
are the records that a call leaves with its URI, its options and its answer: a call that cannot be
built leaves none, and how many fallback values were made before does not show in them.
-/

namespace UriEndpoint

/-- What is logged at the end of a call does not depend on the fallback values made before. -/
theorem Endpoint.records_ending_eq (endpoint : Endpoint) (uri : Text)
    (options : Option DecodeOptions) (count other : Nat)
    (answer : Except FetchFault FetchResult) :
    (endpoint.ending uri options count answer).records =
      (endpoint.ending uri options other answer).records := by
  cases answer with
  | error fault => rfl
  | ok result =>
      rw [ending, ending]
      split
      · cases endpoint.decoder result.body options <;> rfl
      · rfl

namespace Traffic

variable {endpoint : Endpoint} {traffic : Traffic} {number : Nat}

/-- The records that the steps of one call leave among others. -/
def ownRecords (endpoint : Endpoint) (number : Nat) : Traffic → List TrafficStep → List LogRecord
  | _, [] => []
  | traffic, next :: rest =>
      (if next.call = number then (traffic.step endpoint next).2 else []) ++
        ownRecords endpoint number (traffic.step endpoint next).1 rest

theorem ownRecords_append (traffic : Traffic) (before after : List TrafficStep) :
    ownRecords endpoint number traffic (before ++ after) =
      ownRecords endpoint number traffic before ++
        ownRecords endpoint number (traffic.run endpoint before) after := by
  induction before generalizing traffic with
  | nil => rfl
  | cons next rest ih =>
      rw [List.cons_append, ownRecords, ownRecords, ih, List.append_assoc]
      rfl

theorem ownRecords_start (traffic : Traffic) (source : RequestSource)
    (options : Option DecodeOptions) (rest : List TrafficStep) :
    ownRecords endpoint number traffic (.start number source options :: rest) =
      (traffic.start endpoint number source options).2 ++
        ownRecords endpoint number (traffic.start endpoint number source options).1 rest := by
  rw [ownRecords, if_pos (by rfl)]
  rfl

theorem ownRecords_deliver (traffic : Traffic) (answer : Except FetchFault FetchResult)
    (rest : List TrafficStep) :
    ownRecords endpoint number traffic (.deliver number answer :: rest) =
      (traffic.deliver endpoint number answer).2 ++
        ownRecords endpoint number (traffic.deliver endpoint number answer).1 rest := by
  rw [ownRecords, if_pos (by rfl)]
  rfl

/-- The steps of other calls leave no records of a call. -/
theorem ownRecords_others {steps : List TrafficStep} (others : ∀ next ∈ steps, next.call ≠ number)
    (traffic : Traffic) : ownRecords endpoint number traffic steps = [] := by
  induction steps generalizing traffic with
  | nil => rfl
  | cons next rest ih =>
      obtain ⟨other, others⟩ := List.forall_mem_cons.mp others
      rw [ownRecords, if_neg other, ih others, List.append_nil]

theorem records_start_failed {source : RequestSource} {fault : CallFault}
    (failed : endpoint.uriFor source = .error fault) (options : Option DecodeOptions) :
    (traffic.start endpoint number source options).2 = [] := by
  rw [start, failed]

theorem records_start_built {source : RequestSource} {uri : Text}
    (built : endpoint.uriFor source = .ok uri) (options : Option DecodeOptions) :
    (traffic.start endpoint number source options).2 = [endpoint.startRecord uri] := by
  rw [start, built]

/-- The answer to a flight leaves what is logged at the end of its call. -/
theorem records_deliver {flight : Flight} (waiting : traffic.standing number = .waiting flight)
    (answer : Except FetchFault FetchResult) :
    (traffic.deliver endpoint number answer).2 =
      (endpoint.ending flight.uri flight.options 0 answer).records := by
  have found : traffic.flight? number = some flight := (standing_eq_iff.mp waiting).1
  rw [deliver, found]
  exact endpoint.records_ending_eq flight.uri flight.options traffic.made 0 answer

end Traffic

namespace Call

/-- The records of a call: none if it cannot be built. -/
def records (endpoint : Endpoint) (call : Call) : List LogRecord :=
  match endpoint.uriFor call.source with
  | .ok uri => endpoint.callRecords uri call.options call.answer
  | .error _ => []

/-- **Among others, a call leaves its own records**: that it was started, and how it ended. -/
theorem ownRecords_eq {endpoint : Endpoint} {call : Call} {traffic : Traffic} {number : Nat}
    {steps : List TrafficStep} (idle : traffic.standing number = .idle)
    (own : Traffic.ownSteps number steps = call.steps endpoint number) :
    Traffic.ownRecords endpoint number traffic steps = call.records endpoint := by
  cases reading : endpoint.uriFor call.source with
  | error fault =>
      rw [steps_of_failed reading] at own
      obtain ⟨before, after, rfl, others, quiet⟩ := Traffic.exists_of_ownSteps own
      rw [records, reading, Traffic.ownRecords_append, Traffic.ownRecords_others others,
        Traffic.ownRecords_start, Traffic.records_start_failed reading,
        Traffic.ownRecords_others (Traffic.call_ne_of_ownSteps quiet)]
      rfl
  | ok uri =>
      rw [steps_of_built reading] at own
      obtain ⟨before, rest, rfl, others, awaited⟩ := Traffic.exists_of_ownSteps own
      obtain ⟨middle, after, rfl, between, quiet⟩ := Traffic.exists_of_ownSteps awaited
      have reached : (traffic.run endpoint before).standing number = .idle :=
        (Traffic.standing_run_others others).trans idle
      have started := Traffic.standing_start_built reading call.options reached
      have waiting : (((traffic.run endpoint before).start endpoint number call.source
          call.options).1.run endpoint middle).standing number =
          .waiting ⟨number, uri, call.options⟩ :=
        (Traffic.standing_run_others between).trans started
      rw [records, reading, Traffic.ownRecords_append, Traffic.ownRecords_others others,
        Traffic.ownRecords_start, Traffic.records_start_built reading, Traffic.ownRecords_append,
        Traffic.ownRecords_others between, Traffic.ownRecords_deliver,
        Traffic.records_deliver waiting,
        Traffic.ownRecords_others (Traffic.call_ne_of_ownSteps quiet), List.append_nil]
      rfl

end Call

end UriEndpoint
