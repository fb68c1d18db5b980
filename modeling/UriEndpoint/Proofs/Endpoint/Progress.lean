import UriEndpoint.Endpoint.Traffic

/-! # The progress of one call

A step of one call leaves every other call where it was. So where a call stands depends on its own
steps: it is in flight once it was started and could be built, and has ended once its fetch was
answered or once it could not be built. Only the value of a fallback depends on other calls, through
how many were made before.
-/

namespace UriEndpoint

/-- The call that a step belongs to. -/
def TrafficStep.call : TrafficStep → Nat
  | start call _ _ => call
  | deliver call _ => call

namespace TrafficStep

end TrafficStep

/-- Where a call stands: its flight and its outcome, as far as it has them. -/
structure Standing where
  flight : Option Flight := none
  outcome : Option (Except CallFault Decoded) := none

namespace Standing

/-- Not started yet. -/
def idle : Standing := {}

/-- In flight. -/
def waiting (flight : Flight) : Standing := { flight := some flight }

/-- At its end. -/
def ended (outcome : Except CallFault Decoded) : Standing := { outcome := some outcome }

end Standing

namespace Traffic

variable {endpoint : Endpoint} {traffic : Traffic} {number : Nat}

theorem run_cons (endpoint : Endpoint) (traffic : Traffic) (next : TrafficStep)
    (steps : List TrafficStep) :
    traffic.run endpoint (next :: steps) = (traffic.step endpoint next).1.run endpoint steps := rfl

theorem run_append (endpoint : Endpoint) (traffic : Traffic) (before after : List TrafficStep) :
    traffic.run endpoint (before ++ after) = (traffic.run endpoint before).run endpoint after :=
  List.foldl_append

/-- Where a call stands. -/
def standing (traffic : Traffic) (number : Nat) : Standing where
  flight := traffic.flight? number
  outcome := traffic.outcome? number

/-- The standing of a call is its flight and its outcome. -/
theorem standing_eq_iff {place : Standing} :
    traffic.standing number = place ↔
      traffic.flight? number = place.flight ∧ traffic.outcome? number = place.outcome := by
  rw [standing, Standing.mk.injEq]

theorem standing_none (number : Nat) : Traffic.none.standing number = .idle := rfl

/-! ## Steps of other calls -/

theorem lookup_append_other {call : Nat} (other : call ≠ number)
    (ended : List (Nat × Except CallFault Decoded)) (outcome : Except CallFault Decoded) :
    (ended ++ [(call, outcome)]).lookup number = ended.lookup number := by
  have differ : (number == call) = false := beq_false_of_ne (Ne.symm other)
  simp [List.lookup_append, List.lookup_cons, differ]

/-- The start of another call does not show in the standing of a call. -/
theorem standing_start_other {call : Nat} (other : call ≠ number) (source : RequestSource)
    (options : Option DecodeOptions) :
    (traffic.start endpoint call source options).1.standing number = traffic.standing number := by
  rw [start]
  cases endpoint.uriFor source with
  | error fault =>
      exact standing_eq_iff.mpr ⟨rfl, lookup_append_other other traffic.ended (.error fault)⟩
  | ok uri =>
      have differ : (call == number) = false := beq_false_of_ne other
      refine standing_eq_iff.mpr ⟨?_, rfl⟩
      simp [standing, flight?, List.find?_append, differ]

theorem standing_deliver_other {call : Nat} (other : call ≠ number)
    (answer : Except FetchFault FetchResult) :
    (traffic.deliver endpoint call answer).1.standing number = traffic.standing number := by
  rw [deliver]
  cases traffic.flight? call with
  | none => rfl
  | some flight =>
      refine standing_eq_iff.mpr ⟨?_, lookup_append_other other traffic.ended _⟩
      change (traffic.flights.filter _).find? _ = traffic.flights.find? _
      rw [List.find?_filter]
      congr 1
      funext flight
      by_cases same : flight.call = number
      · simp [same, Ne.symm other]
      · simp [same]

/-- A step of one call leaves every other where it was. -/
theorem standing_step_other {next : TrafficStep} (other : next.call ≠ number) :
    (traffic.step endpoint next).1.standing number = traffic.standing number := by
  cases next with
  | start call source options => exact standing_start_other other source options
  | deliver call answer => exact standing_deliver_other other answer

/-- Steps of other calls do not show in the standing of a call. -/
theorem standing_run_others {steps : List TrafficStep}
    (others : ∀ next ∈ steps, next.call ≠ number) :
    (traffic.run endpoint steps).standing number = traffic.standing number := by
  induction steps generalizing traffic with
  | nil => rfl
  | cons next steps ih =>
      obtain ⟨other, others⟩ := List.forall_mem_cons.mp others
      rw [run_cons, ih others, standing_step_other other]

/-! ## Steps of the call itself -/

/-- A call that leads to a URI waits for its answer once it is started. -/
theorem standing_start_built {source : RequestSource} {uri : Text}
    (built : endpoint.uriFor source = .ok uri) (options : Option DecodeOptions)
    (idle : traffic.standing number = .idle) :
    (traffic.start endpoint number source options).1.standing number =
      .waiting ⟨number, uri, options⟩ := by
  obtain ⟨flight, outcome⟩ := standing_eq_iff.mp idle
  rw [start, built]
  refine standing_eq_iff.mpr ⟨?_, outcome⟩
  change (traffic.flights ++ [Flight.mk number uri options]).find? _ = _
  rw [List.find?_append, show traffic.flights.find? _ = .none from flight]
  simp [Standing.waiting]

/-- The steps of one call among others. -/
def ownSteps (number : Nat) (steps : List TrafficStep) : List TrafficStep :=
  steps.filter fun next => next.call == number

/-- Where a call finds none of its steps all are steps of others. -/
theorem call_ne_of_ownSteps {steps : List TrafficStep} (quiet : ownSteps number steps = []) :
    ∀ next ∈ steps, next.call ≠ number := fun next member same =>
  List.filter_eq_nil_iff.mp quiet next member (beq_iff_eq.mpr same)

/-- The first own step stands between steps of other calls and a rest with the other own steps. -/
theorem exists_of_ownSteps {steps own : List TrafficStep} {next : TrafficStep}
    (shape : ownSteps number steps = next :: own) :
    ∃ before after, steps = before ++ next :: after ∧
      (∀ other ∈ before, other.call ≠ number) ∧ ownSteps number after = own := by
  obtain ⟨before, after, whole, others, _, rest⟩ := List.filter_eq_cons_iff.mp shape
  exact ⟨before, after, whole, fun other member same => others other member (beq_iff_eq.mpr same),
    rest⟩

/-- A call that was started and could be built waits for the answer to its own fetch. -/
theorem standing_run_started {steps : List TrafficStep} {source : RequestSource}
    {options : Option DecodeOptions} {uri : Text} (idle : traffic.standing number = .idle)
    (own : ownSteps number steps = [.start number source options])
    (built : endpoint.uriFor source = .ok uri) :
    (traffic.run endpoint steps).standing number = .waiting ⟨number, uri, options⟩ := by
  obtain ⟨before, after, rfl, others, quiet⟩ := exists_of_ownSteps own
  rw [run_append, run_cons, standing_run_others (call_ne_of_ownSteps quiet)]
  exact standing_start_built built options ((standing_run_others others).trans idle)

end Traffic

end UriEndpoint
