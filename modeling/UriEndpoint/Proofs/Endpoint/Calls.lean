import UriEndpoint.Proofs.Endpoint.Progress
import UriEndpoint.Proofs.Sequencing

/-! # One call

A call brings a source, options and the answer to the fetch that it may issue. What it is to end
with is said case by case. It ends so alone, and among any steps of other calls, where only the
number of fallback values made before may be another.
-/

namespace UriEndpoint

/-- A call on an endpoint, with the answer to its fetch if it comes to one. -/
structure Call where
  source : RequestSource
  options : Option DecodeOptions
  answer : Except FetchFault FetchResult

namespace Call

/-- The steps of a call: its start, and the answer to its fetch if it issued one. -/
def steps (endpoint : Endpoint) (number : Nat) (call : Call) : List TrafficStep :=
  match endpoint.uriFor call.source with
  | .ok _ => [.start number call.source call.options, .deliver number call.answer]
  | .error _ => [.start number call.source call.options]

/-- The outcome of a call when `count` fallback values have been made before. -/
def outcome (endpoint : Endpoint) (count : Nat) (call : Call) : Except CallFault Decoded :=
  (endpoint.uriFor call.source).bind fun uri =>
    (endpoint.ending uri call.options count call.answer).outcome

end Call

namespace Call

variable {endpoint : Endpoint} {call : Call}

theorem steps_of_built {uri : Text} (built : endpoint.uriFor call.source = .ok uri) (number : Nat) :
    call.steps endpoint number =
      [.start number call.source call.options, .deliver number call.answer] := by
  rw [steps, built]

theorem steps_of_failed {fault : CallFault} (failed : endpoint.uriFor call.source = .error fault)
    (number : Nat) :
    call.steps endpoint number = [.start number call.source call.options] := by
  rw [steps, failed]

/-- An answer to a call stands behind its start, and the start is the only own step before it. -/
theorem ownSteps_around_answer {number : Nat} {before after : List TrafficStep}
    {answer : Except FetchFault FetchResult}
    (own : Traffic.ownSteps number (before ++ .deliver number answer :: after) =
      call.steps endpoint number) :
    (∃ uri, endpoint.uriFor call.source = .ok uri) ∧ answer = call.answer ∧
      Traffic.ownSteps number before = [.start number call.source call.options] ∧
      Traffic.ownSteps number after = [] := by
  have split : Traffic.ownSteps number (before ++ .deliver number answer :: after) =
      Traffic.ownSteps number before ++
        .deliver number answer :: Traffic.ownSteps number after := by
    simp [Traffic.ownSteps, TrafficStep.call]
  rw [split] at own
  cases reading : endpoint.uriFor call.source with
  | error fault =>
      rw [steps_of_failed reading] at own
      rcases List.append_eq_singleton_iff.mp own with ⟨_, same⟩ | ⟨_, same⟩ <;> cases same
  | ok uri =>
      rw [steps_of_built reading] at own
      -- The answer is no start, so the start is before it, and nothing else of the call is.
      cases front : Traffic.ownSteps number before with
      | nil =>
          rw [front] at own
          cases own
      | cons first more =>
          rw [front, List.cons_append, List.cons.injEq] at own
          obtain ⟨rfl, rest⟩ := own
          rcases List.append_eq_singleton_iff.mp rest with ⟨rfl, same⟩ | ⟨_, same⟩
          · obtain ⟨delivered, quiet⟩ := List.cons.inj same
            cases delivered
            exact ⟨⟨uri, rfl⟩, rfl, rfl, quiet⟩
          · cases same

end Call

end UriEndpoint
