import UriEndpoint.Value.Basic

/-! # Equality of values

Whether two values are the same can be computed, so a reading of a document may be checked by
running it.
-/

namespace UriEndpoint.Value

mutual

/-- Whether two values are the same. -/
def isSame : Value → Value → Bool
  | null, null => true
  | boolean first, boolean second => first == second
  | integer first, integer second => first == second
  | real first, real second => decide (first = second)
  | text first, text second => first == second
  | halfText first, halfText second => first == second
  | date first, date second => decide (first = second)
  | time first, time second => decide (first = second)
  | moment day clock offset, moment otherDay otherClock otherOffset =>
      decide ((day, clock, offset) = (otherDay, otherClock, otherOffset))
  | list items, list others => areSameItems items others
  | table entries, table others => areSameEntries entries others
  | _, _ => false

/-- Whether two lists have the same items. -/
def areSameItems : List Value → List Value → Bool
  | [], [] => true
  | item :: rest, other :: others => isSame item other && areSameItems rest others
  | _, _ => false

/-- Whether two tables have the same entries in order. -/
def areSameEntries : List (Text × Value) → List (Text × Value) → Bool
  | [], [] => true
  | (key, value) :: rest, (otherKey, other) :: others =>
      key == otherKey && isSame value other && areSameEntries rest others
  | _, _ => false

end

mutual

/-- The comparison decides equality. -/
theorem isSame_iff (value other : Value) : value.isSame other = true ↔ value = other := by
  cases value <;> cases other <;>
    simp [isSame, areSameItems_iff, areSameEntries_iff]

theorem areSameItems_iff (items others : List Value) :
    areSameItems items others = true ↔ items = others := by
  cases items <;> cases others <;> simp [areSameItems, isSame_iff, areSameItems_iff]

theorem areSameEntries_iff (entries others : List (Text × Value)) :
    areSameEntries entries others = true ↔ entries = others := by
  rcases entries with _ | ⟨⟨key, value⟩, rest⟩ <;>
    rcases others with _ | ⟨⟨otherKey, other⟩, others⟩ <;>
    simp [areSameEntries, isSame_iff, areSameEntries_iff]

end

instance : DecidableEq Value := fun value other => decidable_of_iff _ (isSame_iff value other)

end UriEndpoint.Value
