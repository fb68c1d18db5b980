import UriEndpoint.Redaction.Event

/-! # Events that differ in secrets only

Masking an event goes through the tables inside it, and not through its lists. So two events that
differ only in what stands under sensitive names are the same masked if no secret that they differ
in stands in a list, and only then: a table that is an item of a list keeps what it holds.
-/

namespace UriEndpoint.Redaction

/-- Two events are the same but for what stands under sensitive names, in them or in the tables
inside. Their lists are the same. -/
inductive EventsAgree : Table → Table → Prop
  | nil : EventsAgree [] []
  | secret {name : Text} (sensitive : isSensitive name = true) (first second : Value)
      {firsts seconds : Table} (rest : EventsAgree firsts seconds) :
      EventsAgree ((name, first) :: firsts) ((name, second) :: seconds)
  | same (field : Text × Value) {firsts seconds : Table} (rest : EventsAgree firsts seconds) :
      EventsAgree (field :: firsts) (field :: seconds)
  | nested (name : Text) {first second : Table} (inside : EventsAgree first second)
      {firsts seconds : Table} (rest : EventsAgree firsts seconds) :
      EventsAgree ((name, .table first) :: firsts) ((name, .table second) :: seconds)

mutual

/-- Two events have the same shape and are the same but for what stands under sensitive names,
wherever a table can stand. -/
inductive EventsAlike : Table → Table → Prop
  | nil : EventsAlike [] []
  | secret {name : Text} (sensitive : isSensitive name = true) (first second : Value)
      {firsts seconds : Table} (rest : EventsAlike firsts seconds) :
      EventsAlike ((name, first) :: firsts) ((name, second) :: seconds)
  | field (name : Text) {first second : Value} (alike : ValuesAlike first second)
      {firsts seconds : Table} (rest : EventsAlike firsts seconds) :
      EventsAlike ((name, first) :: firsts) ((name, second) :: seconds)

/-- The same for two values. -/
inductive ValuesAlike : Value → Value → Prop
  | same (value : Value) : ValuesAlike value value
  | table {first second : Table} (inside : EventsAlike first second) :
      ValuesAlike (.table first) (.table second)
  | list {first second : List Value} (items : ItemsAlike first second) :
      ValuesAlike (.list first) (.list second)

/-- The same for the items of two lists. -/
inductive ItemsAlike : List Value → List Value → Prop
  | nil : ItemsAlike [] []
  | cons {first second : Value} (alike : ValuesAlike first second) {firsts seconds : List Value}
      (rest : ItemsAlike firsts seconds) : ItemsAlike (first :: firsts) (second :: seconds)

end

/-- A list under a name that is not sensitive stays as it is. -/
theorem maskedValue_list {name : Text} (harmless : isSensitive name = false)
    (items : List Value) : maskedValue name (.list items) = .list items := by
  simp [maskedValue, harmless]

theorem maskedValue_table {name : Text} (harmless : isSensitive name = false) (entries : Table) :
    maskedValue name (.table entries) = .table (maskedEvent entries) := by
  simp [maskedValue, harmless]

/-- Tables that are the same masked are the same masked under any name. -/
theorem maskedValue_table_congr (name : Text) {first second : Table}
    (same : maskedEvent first = maskedEvent second) :
    maskedValue name (.table first) = maskedValue name (.table second) := by
  rw [maskedValue, maskedValue, same]

/-- What masking hides does not show in the masked event. -/
theorem EventsAgree.maskedEvent_eq {first second : Table} (agree : EventsAgree first second) :
    maskedEvent first = maskedEvent second := by
  induction agree with
  | nil => rfl
  | secret sensitive one other _ ih =>
      rw [maskedEvent_cons, maskedEvent_cons, maskedValue_of_isSensitive sensitive,
        maskedValue_of_isSensitive sensitive, ih]
  | same field _ ih => rw [maskedEvent_cons, maskedEvent_cons, ih]
  | nested name _ _ inside rest =>
      rw [maskedEvent_cons, maskedEvent_cons, maskedValue_table_congr name inside, rest]

/-- Under a sensitive name everything agrees, so only other names are to be looked at. -/
theorem EventsAgree.of_harmless {name : Text} {first second : Value} {firsts seconds : Table}
    (rest : EventsAgree firsts seconds)
    (harmless : isSensitive name = false →
      EventsAgree ((name, first) :: firsts) ((name, second) :: seconds)) :
    EventsAgree ((name, first) :: firsts) ((name, second) :: seconds) := by
  cases sensitive : isSensitive name with
  | true => exact .secret sensitive first second rest
  | false => exact harmless sensitive

/-- Masking goes into tables only, so the recursion is on the tables of the two events. -/
theorem EventsAlike.agree {first second : Table} :
    EventsAlike first second → maskedEvent first = maskedEvent second →
      EventsAgree first second
  | .nil, _ => .nil
  | .secret sensitive one other rest, same =>
      .secret sensitive one other (rest.agree (List.cons.inj same).2)
  | .field name (.same value) rest, same => .same (name, value) (rest.agree (List.cons.inj same).2)
  | .field name (.table inside) rest, same => by
      obtain ⟨here, others⟩ := List.cons.inj same
      refine (rest.agree others).of_harmless fun harmless => ?_
      have entries := congrArg Prod.snd here
      rw [maskedValue_table harmless, maskedValue_table harmless] at entries
      exact .nested name (inside.agree (Value.table.inj entries)) (rest.agree others)
  | .field name (.list _) rest, same => by
      obtain ⟨here, others⟩ := List.cons.inj same
      refine (rest.agree others).of_harmless fun harmless => ?_
      have items := congrArg Prod.snd here
      rw [maskedValue_list harmless, maskedValue_list harmless] at items
      obtain rfl := Value.list.inj items
      exact .same _ (rest.agree others)

/-- **Masking hides the secrets that do not stand in lists.** Two events of the same shape that
differ in secrets only are the same masked exactly when their lists outside secrets are the same. -/
theorem maskedEvent_eq_iff_agree {first second : Table} (alike : EventsAlike first second) :
    maskedEvent first = maskedEvent second ↔ EventsAgree first second :=
  ⟨alike.agree, EventsAgree.maskedEvent_eq⟩

/-- A secret in a table in an event, beside a list that has one as well. -/
def nestedRequest (token : Value) : Table :=
  [("ids".toList, .list [.table [("key".toList, .integer 1)]]),
    ("request".toList, .table [("Token".toList, token)])]

/-- The secret in the table does not show, and the list beside it is the same. -/
theorem maskedEvent_eq_iff_agree_of_nested :
    EventsAlike (nestedRequest (.boolean true)) (nestedRequest .null) ∧
      maskedEvent (nestedRequest (.boolean true)) = maskedEvent (nestedRequest .null) := by
  have sensitive : isSensitive "Token".toList = true := by decide +kernel
  have alike : EventsAlike (nestedRequest (.boolean true)) (nestedRequest .null) :=
    .field _ (.same _) (.field _ (.table (.secret sensitive _ _ .nil)) .nil)
  have agree : EventsAgree (nestedRequest (.boolean true)) (nestedRequest .null) :=
    .same _ (.nested _ (.secret sensitive _ _ .nil) .nil)
  exact ⟨alike, (maskedEvent_eq_iff_agree alike).mpr agree⟩

/-- A secret in a table that is an item of a list. -/
def listedUser (password : Text) : Table :=
  [("users".toList, .list [.table [("password".toList, .text password)]])]

/-- A table that is an item of a list keeps its secrets. -/
theorem listed_secrets_survive :
    EventsAlike (listedUser ['a']) (listedUser ['b']) ∧
      maskedEvent (listedUser ['a']) = listedUser ['a'] ∧
      maskedEvent (listedUser ['b']) = listedUser ['b'] ∧
      maskedEvent (listedUser ['a']) ≠ maskedEvent (listedUser ['b']) := by
  have sensitive : isSensitive "password".toList = true := by decide +kernel
  have harmless : isSensitive "users".toList = false := by decide +kernel
  have alike : EventsAlike (listedUser ['a']) (listedUser ['b']) :=
    .field _ (.list (.cons (.table (.secret sensitive _ _ .nil)) .nil)) .nil
  have kept (password : Text) : maskedEvent (listedUser password) = listedUser password := by
    rw [listedUser, maskedEvent_cons, maskedValue_list harmless, maskedEvent_nil]
  refine ⟨alike, kept _, kept _, ?_⟩
  rw [kept, kept]
  simp [listedUser]

end UriEndpoint.Redaction
