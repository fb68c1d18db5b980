import UriEndpoint.Proofs.Settings.Reading

/-! # Tables that settings cannot tell apart

Settings look up names, and fields in sections, and do not look into a table further in. So tables
that agree there, whatever the order of their keys, give the same settings or the same issues
(`Settings.check_congr`). They still do when they are laid over the same table
(`Table.Alike.overlaid`).
-/

namespace UriEndpoint

/-- Two tables have values of the same outline under every name. -/
def Table.SameFields (first second : Table) : Prop :=
  ∀ name, (first.get? name).map Value.outline = (second.get? name).map Value.outline

/-- What was found in the place of a section has the same outline, and so has each field in it. -/
structure SameSection (found other : Option Value) : Prop where
  outline : found.map Value.outline = other.map Value.outline
  field : ∀ name, (fieldIn? found name).map Value.outline = (fieldIn? other name).map Value.outline

/-- Two tables have the same under every name, as far as sections are read. -/
def Table.Alike (first second : Table) : Prop :=
  ∀ name, SameSection (first.get? name) (second.get? name)

theorem SameSection.refl (found : Option Value) : SameSection found found := ⟨rfl, fun _ => rfl⟩

/-- A value that is no table is its own outline. -/
theorem SameSection.cases {found other : Option Value} (same : SameSection found other) :
    found = other ∨ ∃ entries others : Table, found = some (.table entries) ∧
      other = some (.table others) ∧ entries.SameFields others := by
  obtain ⟨outline, field⟩ := same
  rcases found with _ | found <;> rcases other with _ | other
  · exact .inl rfl
  · cases outline
  · cases outline
  · have outline := Option.some.inj outline
    cases found with
    | table entries =>
        cases other with
        | table others => exact .inr ⟨entries, others, rfl, rfl, field⟩
        | _ => cases outline
    | _ =>
        cases other with
        | table others => cases outline
        | _ => exact .inl (congrArg some outline)

theorem Table.SameFields.isEmpty_eq {first second : Table} (same : first.SameFields second) :
    first.isEmpty = second.isEmpty := by
  cases first with
  | nil =>
      cases second with
      | nil => rfl
      | cons entry rest =>
          have here := same entry.1
          rw [Table.get?_cons, if_pos rfl] at here
          cases here
  | cons entry rest =>
      cases second with
      | nil =>
          have here := same entry.1
          rw [Table.get?_cons, if_pos rfl] at here
          cases here
      | cons other others => rfl

/-- Tables stay alike under a further key with sections that are the same. -/
theorem Table.Alike.cons {first second : Table} (alike : first.Alike second) {value other : Value}
    (same : SameSection (some value) (some other)) (name : Text) :
    Table.Alike ((name, value) :: first) ((name, other) :: second) := by
  intro wanted
  rw [Table.get?_cons, Table.get?_cons]
  split
  · exact same
  · exact alike wanted

/-! ## Checks -/

namespace Table

variable {α : Type} {first second : Table} {name : String} {default : α}

/-- A field is read in the same way from tables with the same outline under its name. -/
theorem field_congr {check : Value → Except IssueKind α}
    (blind : ∀ entries, check (.table entries) = check (.table []))
    (same : (first.get? name.toList).map Value.outline =
      (second.get? name.toList).map Value.outline) :
    first.field name default check = second.field name default check := by
  rw [field, field]
  cases found : first.get? name.toList with
  | none =>
      rw [found, Option.map_none, eq_comm, Option.map_eq_none_iff] at same
      rw [same]
  | some value =>
      rw [found, Option.map_some, eq_comm, Option.map_eq_some_iff] at same
      obtain ⟨other, otherFound, outline⟩ := same
      rw [otherFound]
      simp only [eq_of_outline blind outline]

/-- A section is read in the same way from tables with the same section under its name. -/
theorem section_congr {check : Table → Checked α}
    (reads : ∀ {entries others : Table}, entries.SameFields others → check entries = check others)
    (same : SameSection (first.get? name.toList) (second.get? name.toList)) :
    first.section_ name default check = second.section_ name default check := by
  rw [section_, section_]
  rcases same.cases with same | ⟨entries, others, found, otherFound, fields⟩
  · rw [same]
  · rw [found, otherFound]
    simp only [reads fields]

end Table

section

variable {entries others : Table} (same : entries.SameFields others)

include same

theorem LoggingSection.check_congr : check entries = check others := by
  rw [check, check, Table.field_congr (fun _ => rfl) (same _),
    Table.field_congr (fun _ => rfl) (same _)]

theorem HttpSection.check_congr : check entries = check others := by
  rw [check, check, Table.field_congr (fun _ => rfl) (same _),
    Table.field_congr (fun _ => rfl) (same _), Table.field_congr (fun _ => rfl) (same _),
    Table.field_congr (fun _ => rfl) (same _), Table.field_congr (fun _ => rfl) (same _)]

theorem DecodeSection.check_congr : check entries = check others := by
  rw [check, check, Table.field_congr (fun _ => rfl) (same _)]

end

/-- **Settings are checked in the same way** in tables that are alike. -/
theorem Settings.check_congr {first second : Table} (alike : first.Alike second) :
    check first = check second := by
  rw [check, check, Table.field_congr (fun _ => rfl) (alike _).outline,
    Table.section_congr LoggingSection.check_congr (alike _),
    Table.section_congr HttpSection.check_congr (alike _),
    Table.section_congr DecodeSection.check_congr (alike _)]

/-! ## Laying over -/

/-- A field of one section over another depends on the fields of the upper one. -/
theorem fieldOver?_congr {above other : Option Value} (same : SameSection above other)
    (below : Option Value) (name : Text) :
    (fieldOver? below above name).map Value.outline =
      (fieldOver? below other name).map Value.outline := by
  rcases same.cases with rfl | ⟨entries, others, rfl, rfl, fields⟩
  · rfl
  · rw [fieldOver?, fieldOver?, Option.map_or, fields, ← Option.map_or]

/-- Tables that are alike are alike over a third. -/
theorem Table.Alike.overlaid {first second : Table} (alike : first.Alike second)
    (distinct : first.Distinct) (otherDistinct : second.Distinct) (lower : Table) :
    (lower.overlaid first).Alike (lower.overlaid second) := by
  intro name
  constructor
  · rw [outline_get?_overlaid distinct.nodup, outline_get?_overlaid otherDistinct.nodup,
      Option.map_or, (alike name).outline, ← Option.map_or]
  · intro field
    rw [outline_fieldIn?_overlaid distinct, outline_fieldIn?_overlaid otherDistinct,
      fieldOver?_congr (alike name)]

end UriEndpoint
