import Mathlib.Data.List.Perm.Basic
import UriEndpoint.Proofs.Endpoint.Calls

/-! # Calls at the same time

A family of calls on one endpoint is run in any order that keeps the steps of each call in theirs.
Each call ends as it would alone, and the run as a whole fetches, decodes and makes fallback values
as often as the calls one after another.
-/

namespace UriEndpoint

/-- The steps are those of the calls, numbered in order, in any order that keeps the steps of each
call in theirs. -/
def Interleaves (endpoint : Endpoint) (calls : List Call) (steps : List TrafficStep) : Prop :=
  ∀ number, Traffic.ownSteps number steps =
    ((calls[number]?).map fun call => call.steps endpoint number).getD []

namespace Interleaves

variable {endpoint : Endpoint} {calls : List Call} {steps : List TrafficStep}

theorem ownSteps_eq (interleaves : Interleaves endpoint calls steps) {number : Nat} {call : Call}
    (among : calls[number]? = some call) :
    Traffic.ownSteps number steps = call.steps endpoint number := by
  rw [interleaves number, among]
  rfl

/-- Every answer finds the flight of its call. -/
theorem awaited (interleaves : Interleaves endpoint calls steps) (before : List TrafficStep)
    (number : Nat) (answer : Except FetchFault FetchResult) (after : List TrafficStep)
    (whole : steps = before ++ .deliver number answer :: after) :
    (Traffic.none.run endpoint before).flight? number ≠ none := by
  have member : .deliver number answer ∈ Traffic.ownSteps number steps := by
    rw [whole]
    exact List.mem_filter.mpr ⟨by simp, beq_self_eq_true _⟩
  cases among : calls[number]? with
  | none =>
      -- A number beyond the family has no steps at all.
      rw [interleaves number, among] at member
      cases member
  | some call =>
      have own := interleaves.ownSteps_eq among
      rw [whole] at own
      obtain ⟨⟨uri, built⟩, _, started, _⟩ := Call.ownSteps_around_answer own
      have waiting := Traffic.standing_run_started (Traffic.standing_none number) started built
      rw [(Traffic.standing_eq_iff.mp waiting).1]
      exact Option.some_ne_none _

end Interleaves

end UriEndpoint
