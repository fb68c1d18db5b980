import UriEndpoint.Redaction.Uri
import UriEndpoint.Value.Basic

/-!
# Masking an event

An event is a table of fields. A field with a sensitive name is masked whatever it holds, a text in
a field that holds a URI has its query masked, and tables inside the event are masked likewise.
Every other value stays as it is, lists included.
-/

namespace UriEndpoint.Redaction

mutual

/-- The value of a field with this name, masked. -/
def maskedValue (name : Text) : Value → Value
  | .text value =>
      if isSensitive name then .text mask
      else if isUriName name then .text (maskedUri value)
      else .text value
  | .halfText spelled =>
      if isSensitive name then .text mask
      else if isUriName name then .ofSpelled (maskedUri spelled)
      else .halfText spelled
  | .table entries =>
      if isSensitive name then .text mask else .table (maskedEvent entries)
  | other => if isSensitive name then .text mask else other

/-- An event with its credentials masked; keys and their order stay. -/
def maskedEvent : List (Text × Value) → List (Text × Value)
  | [] => []
  | (name, value) :: rest => (name, maskedValue name value) :: maskedEvent rest

end

theorem maskedEvent_nil : maskedEvent [] = [] := rfl

theorem maskedEvent_cons (name : Text) (value : Value) (rest : Table) :
    maskedEvent ((name, value) :: rest) = (name, maskedValue name value) :: maskedEvent rest := rfl

/-- Masking keeps the keys of an event in order. -/
theorem keys_maskedEvent (event : Table) : Table.keys (maskedEvent event) = event.keys := by
  induction event with
  | nil => rfl
  | cons entry rest ih =>
      obtain ⟨name, value⟩ := entry
      simpa [Table.keys, maskedEvent_cons] using ih

/-- Masking an event goes entry by entry, so it does not matter when an entry is put. -/
theorem maskedEvent_put (table : Table) (key : Text) (value : Value) :
    maskedEvent (table.put key value) =
      Table.put (maskedEvent table) key (maskedValue key value) := by
  induction table with
  | nil => rfl
  | cons entry rest ih =>
      obtain ⟨other, kept⟩ := entry
      by_cases same : other = key
      · subst same
        simp [Table.put_cons, maskedEvent_cons]
      · simp [Table.put_cons, maskedEvent_cons, same, ih]

/-- Under a key stands what stood there, masked under that key. -/
theorem get?_maskedEvent (table : Table) (key : Text) :
    Table.get? (maskedEvent table) key = (table.get? key).map (maskedValue key) := by
  induction table with
  | nil => rfl
  | cons entry rest ih =>
      obtain ⟨other, kept⟩ := entry
      by_cases same : key = other
      · subst same
        simp [Table.get?_cons, maskedEvent_cons]
      · simp [Table.get?_cons, maskedEvent_cons, same, ih]

theorem maskedEvent_putAll (table entries : Table) :
    maskedEvent (table.putAll entries) =
      Table.putAll (maskedEvent table) (maskedEvent entries) := by
  induction entries generalizing table with
  | nil => rfl
  | cons entry rest ih =>
      obtain ⟨key, value⟩ := entry
      have step := ih (table.put key value)
      rwa [maskedEvent_put] at step

theorem maskedEvent_fillAll (table entries : Table) :
    maskedEvent (table.fillAll entries) =
      Table.fillAll (maskedEvent table) (maskedEvent entries) := by
  induction entries generalizing table with
  | nil => rfl
  | cons entry rest ih =>
      obtain ⟨key, value⟩ := entry
      simp only [Table.fillAll, maskedEvent_cons, List.foldl_cons, get?_maskedEvent] at ih ⊢
      cases table.get? key with
      | none => simpa [maskedEvent_put] using ih (table.put key value)
      | some kept => exact ih table

/-- A sensitive name hides its value altogether. -/
theorem maskedValue_of_isSensitive {name : Text} (sensitive : isSensitive name = true)
    (value : Value) : maskedValue name value = .text mask := by
  cases value <;> simp [maskedValue, sensitive]

end UriEndpoint.Redaction
