import UriEndpoint.Proofs.Redaction.Agreement
import UriEndpoint.Proofs.Redaction.HalfTexts
import UriEndpoint.Proofs.Value.Paths

/-! # What masking an event leaves alone

Masking follows the tables of an event, so a path of keys leads through the masked event as it does
through the event, up to the first sensitive key. There the mask stands and nothing below it. On
the way only texts in fields that hold URIs change, and their queries alone. All that masking does to
an event is done after one pass.
-/

namespace UriEndpoint.Redaction

/-- No key of a path is sensitive. -/
def Harmless (path : List Text) : Prop := ∀ key ∈ path, isSensitive key = false

instance (path : List Text) : Decidable (Harmless path) :=
  inferInstanceAs (Decidable (∀ key ∈ path, isSensitive key = false))

/-- How a value comes out of masking under a name that is not sensitive. -/
inductive FieldMasked (name : Text) : Value → Value → Prop
  | uri (holdsUri : isUriName name = true) (uri : Text) :
      FieldMasked name (.text uri) (.text (maskedUri uri))
  | spelledUri (holdsUri : isUriName name = true) (spelled : Text) :
      FieldMasked name (.halfText spelled) (.ofSpelled (maskedUri spelled))
  | table (entries : Table) : FieldMasked name (.table entries) (.table (maskedEvent entries))
  | kept {value : Value} (noTable : value.table? = none)
      (noUri : isUriName name = true → value.isText = false) : FieldMasked name value value

theorem table?_ofSpelled (spelled : Text) : (Value.ofSpelled spelled).table? = none := by
  rw [Value.ofSpelled]
  split <;> rfl

/-- Under a name that is not sensitive a value comes out in one of four ways. -/
theorem fieldMasked_maskedValue {name : Text} (harmless : isSensitive name = false)
    (value : Value) : FieldMasked name value (maskedValue name value) := by
  cases value with
  | table entries =>
      rw [maskedValue_table harmless]
      exact .table entries
  | text text =>
      cases holdsUri : isUriName name with
      | true =>
          simp only [maskedValue, harmless, holdsUri, Bool.false_eq_true, if_false, if_true]
          exact .uri holdsUri text
      | false =>
          simp only [maskedValue, harmless, holdsUri, Bool.false_eq_true, if_false]
          exact .kept rfl fun holds => by rw [holdsUri] at holds; cases holds
  | halfText spelled =>
      cases holdsUri : isUriName name with
      | true =>
          simp only [maskedValue, harmless, holdsUri, Bool.false_eq_true, if_false, if_true]
          exact .spelledUri holdsUri spelled
      | false =>
          simp only [maskedValue, harmless, holdsUri, Bool.false_eq_true, if_false]
          exact .kept rfl fun holds => by rw [holdsUri] at holds; cases holds
  | _ =>
      simp only [maskedValue, harmless, Bool.false_eq_true, if_false]
      exact .kept rfl fun _ => rfl

/-- Under a name that is not sensitive tables stay tables, and nothing else becomes one. -/
theorem table?_maskedValue {name : Text} (harmless : isSensitive name = false) (value : Value) :
    (maskedValue name value).table? = value.table?.map maskedEvent := by
  have comes := fieldMasked_maskedValue harmless value
  generalize maskedValue name value = masked at comes
  cases comes with
  | uri => rfl
  | spelledUri _ spelled => exact table?_ofSpelled (maskedUri spelled)
  | table => rfl
  | kept noTable => rw [noTable, Option.map_none]

/-! ## Paths -/

/-- The same tables stand at the same harmless paths. -/
theorem table?_at?_maskedEvent {path : List Text} (harmless : Harmless path) (event : Table) :
    (Table.at? (maskedEvent event) path).bind Value.table? =
      ((event.at? path).bind Value.table?).map maskedEvent := by
  -- A value is masked under the last key of its path, so the keys are taken off from the end.
  induction path using List.reverseRecOn with
  | nil => rfl
  | append_singleton path key ih =>
      obtain ⟨before, last⟩ := List.forall_mem_append.mp harmless
      have safe : isSensitive key = false := last key (List.mem_singleton_self key)
      rw [Table.at?_snoc, Table.at?_snoc, ih before]
      cases (event.at? path).bind Value.table? with
      | none => rfl
      | some entries =>
          change (Table.get? (maskedEvent entries) key).bind _ =
            ((Table.get? entries key).bind _).map maskedEvent
          rw [get?_maskedEvent]
          cases Table.get? entries key with
          | none => rfl
          | some value => exact table?_maskedValue safe value

/-- At the end of a harmless path stands what stood there, masked under the last key. -/
theorem at?_maskedEvent_snoc {path : List Text} (harmless : Harmless path) (name : Text)
    (event : Table) :
    Table.at? (maskedEvent event) (path ++ [name]) =
      (event.at? (path ++ [name])).map (maskedValue name) := by
  rw [Table.at?_snoc, Table.at?_snoc, table?_at?_maskedEvent harmless]
  cases (event.at? path).bind Value.table? with
  | none => rfl
  | some entries => exact get?_maskedEvent entries name

/-! ## Masking twice -/

/-- A URI that has been masked is not masked any further, spelled or not. -/
theorem maskedValue_ofSpelled_maskedUri {name : Text} (harmless : isSensitive name = false)
    (holdsUri : isUriName name = true) (spelled : Text) :
    maskedValue name (.ofSpelled (maskedUri spelled)) = .ofSpelled (maskedUri spelled) := by
  cases half : (maskedUri spelled).holdsHalf with
  | true => simp [Value.ofSpelled, half, maskedValue, harmless, holdsUri, maskedUri_maskedUri]
  | false =>
      have whole : Value.ofSpelled (maskedUri spelled) = .text (maskedUri spelled.unspelled) := by
        rw [Value.ofSpelled, half, unspelled_maskedUri]
        rfl
      rw [whole]
      simp [maskedValue, harmless, holdsUri, maskedUri_maskedUri]

mutual

/-- A value that is masked under a name is not masked any further. -/
theorem maskedValue_maskedValue (name : Text) (value : Value) :
    maskedValue name (maskedValue name value) = maskedValue name value := by
  cases sensitive : isSensitive name with
  | true => rw [maskedValue_of_isSensitive sensitive, maskedValue_of_isSensitive sensitive]
  | false =>
      match value with
      | .table entries =>
          rw [maskedValue_table sensitive, maskedValue_table sensitive,
            maskedEvent_maskedEvent entries]
      | .text text =>
          cases holdsUri : isUriName name <;>
            simp [maskedValue, sensitive, holdsUri, maskedUri_maskedUri]
      | .halfText spelled =>
          cases holdsUri : isUriName name with
          | false => simp [maskedValue, sensitive, holdsUri]
          | true =>
              have masked : maskedValue name (.halfText spelled) =
                  .ofSpelled (maskedUri spelled) := by
                simp [maskedValue, sensitive, holdsUri]
              rw [masked, maskedValue_ofSpelled_maskedUri sensitive holdsUri]
      | .null | .boolean _ | .integer _ | .real _ | .date _ | .time _ | .moment .. | .list _ =>
          simp [maskedValue, sensitive]

theorem maskedEvent_maskedEvent (event : List (Text × Value)) :
    maskedEvent (maskedEvent event) = maskedEvent event :=
  match event with
  | [] => rfl
  | (name, value) :: rest => by
      rw [maskedEvent_cons, maskedEvent_cons, maskedValue_maskedValue name value,
        maskedEvent_maskedEvent rest]

end

/-- **Masking an event changes secrets and the queries of URIs, and nothing else.** At every level
that no sensitive key leads to the keys stay in order. A value there stays, a URI has its query
masked and a table is masked in turn. Under the first sensitive key of a path stands the mask,
whatever stood there, and no path leads on. Masking twice is masking once. -/
theorem maskedEvent_frame (event : Table) :
    (∀ path, Harmless path →
      Table.keysAt? (maskedEvent event) path = event.keysAt? path) ∧
    (∀ path name, Harmless (path ++ [name]) →
      Option.Rel (FieldMasked name) (event.at? (path ++ [name]))
        (Table.at? (maskedEvent event) (path ++ [name]))) ∧
    (∀ path name, Harmless path → isSensitive name = true →
      Table.at? (maskedEvent event) (path ++ [name]) =
        (event.at? (path ++ [name])).map (fun _ => .text mask) ∧
      ∀ key rest, Table.at? (maskedEvent event) (path ++ [name] ++ key :: rest) = none) ∧
    maskedEvent (maskedEvent event) = maskedEvent event := by
  refine ⟨?_, ?_, ?_, maskedEvent_maskedEvent event⟩
  · intro path harmless
    rw [Table.keysAt?, Table.keysAt?, table?_at?_maskedEvent harmless, Option.map_map]
    congr 1
    funext entries
    exact keys_maskedEvent entries
  · intro path name harmless
    obtain ⟨before, last⟩ := List.forall_mem_append.mp harmless
    rw [at?_maskedEvent_snoc before]
    cases event.at? (path ++ [name]) with
    | none => exact .none
    | some value =>
        exact .some (fieldMasked_maskedValue (last name (List.mem_singleton_self name)) value)
  · intro path name harmless sensitive
    have masked : Table.at? (maskedEvent event) (path ++ [name]) =
        (event.at? (path ++ [name])).map fun _ => .text mask := by
      rw [at?_maskedEvent_snoc harmless]
      congr 1
      funext value
      exact maskedValue_of_isSensitive sensitive value
    refine ⟨masked, fun key rest => ?_⟩
    rw [Table.at?_append, masked]
    cases event.at? (path ++ [name]) with
    | none => rfl
    | some value => exact @Value.at?_cons_of_not_table (.text mask) rfl key rest

/-- Sensitive keys in two cases, one over a table, and a URI in a table that has the key of one. -/
def requestEvent : Table :=
  [(['S', 'i', 'g'], .table [(['i', 'd'], .integer 1)]),
    (['u', 'r', 'l'], .table [(['U', 'R', 'I'], .text "x?key=1&a=#f".toList), (['a'], .null)]),
    (['s', 'i', 'g'], .list [])]

/-- The inner URI is masked, and under the outer sensitive key stands the mask alone. -/
theorem maskedEvent_frame_of_nested_uri :
    Harmless [['u', 'r', 'l']] ∧ Harmless ([['u', 'r', 'l']] ++ [['U', 'R', 'I']]) ∧
      Harmless [] ∧ isSensitive ['S', 'i', 'g'] = true ∧
      Table.keysAt? (maskedEvent requestEvent) [['u', 'r', 'l']] = some [['U', 'R', 'I'], ['a']] ∧
      Option.Rel (FieldMasked ['U', 'R', 'I']) (some (.text "x?key=1&a=#f".toList))
        (Table.at? (maskedEvent requestEvent) [['u', 'r', 'l'], ['U', 'R', 'I']]) ∧
      Table.at? (maskedEvent requestEvent) [['S', 'i', 'g']] = some (.text mask) ∧
      Table.at? (maskedEvent requestEvent) [['S', 'i', 'g'], ['i', 'd']] = none := by
  obtain ⟨keys, fields, secrets, _⟩ := maskedEvent_frame requestEvent
  have outer : Harmless [['u', 'r', 'l']] := by decide +kernel
  have inner : Harmless ([['u', 'r', 'l']] ++ [['U', 'R', 'I']]) := by decide +kernel
  have nothing : Harmless [] := by decide
  have sensitive : isSensitive ['S', 'i', 'g'] = true := by decide +kernel
  obtain ⟨masked, below⟩ := secrets [] ['S', 'i', 'g'] nothing sensitive
  exact ⟨outer, inner, nothing, sensitive, keys _ outer, fields _ _ inner, masked,
    below ['i', 'd'] []⟩

end UriEndpoint.Redaction
