import UriEndpoint.Proofs.Settings.Overlay
import UriEndpoint.Settings.Environment
import UriEndpoint.Settings.Section

/-! # What settings are read from

A table gives settings exactly if nothing but a table stands in the place of each section, and every
field is its default where it is absent and else the value of its check. No check looks into a table,
so the same settings are read from values of the same outline.
-/

namespace UriEndpoint

/-- The value of a field: its default if nothing was found, else what the check makes of it. -/
def Reads {α : Type} (default : α) (check : Value → Except IssueKind α) :
    Option Value → α → Prop
  | none, value => value = default
  | some found, value => check found = .ok value

/-- A check that does not look into tables makes the same of values with the same outline. -/
theorem eq_of_outline {α : Type} {check : Value → Except IssueKind α}
    (blind : ∀ entries, check (.table entries) = check (.table [])) {value other : Value}
    (same : value.outline = other.outline) : check value = check other := by
  have outlined (any : Value) : check any.outline = check any := by
    cases any with
    | table entries => exact (blind entries).symm
    | _ => rfl
  rw [← outlined value, same, outlined other]

/-- A check that is blind to what is in tables reads the same from values with one outline. -/
theorem reads_congr {α : Type} {default value : α} {check : Value → Except IssueKind α}
    (blind : ∀ entries, check (.table entries) = check (.table [])) {found other : Option Value}
    (same : found.map Value.outline = other.map Value.outline) :
    Reads default check found value ↔ Reads default check other value := by
  cases found with
  | none =>
      cases other with
      | none => exact Iff.rfl
      | some other => cases same
  | some found =>
      cases other with
      | none => cases same
      | some other => rw [Reads, Reads, eq_of_outline blind (Option.some.inj same)]

/-! ## Checks that succeed -/

namespace Checked

variable {α β : Type}

theorem both_eq_ok_iff {first : Checked α} {second : Checked β} {pair : α × β} :
    first.both second = .ok pair ↔ first = .ok pair.1 ∧ second = .ok pair.2 := by
  obtain ⟨left, right⟩ := pair
  cases first <;> cases second <;> simp [both]

theorem map_eq_ok_iff {make : α → β} (parts : β → α) (taken : ∀ given, parts (make given) = given)
    (made : ∀ result, make (parts result) = result) {checked : Checked α} {result : β} :
    checked.map make = .ok result ↔ checked = .ok (parts result) := by
  cases checked with
  | error issues => simp [Except.map]
  | ok given =>
      have same : make given = result ↔ given = parts result :=
        ⟨fun same => same ▸ (taken given).symm, fun same => same ▸ made result⟩
      simpa [Except.map] using same

theorem under_eq_ok_iff {step : Step} {result : Checked α} {value : α} :
    result.under step = .ok value ↔ result = .ok value := by
  cases result <;> simp [under]

theorem ofScalar_eq_ok_iff {result : Except IssueKind α} {value : α} :
    ofScalar result = .ok value ↔ result = .ok value := by
  cases result <;> simp [ofScalar, fail]

end Checked

/-- A field is read from what stands under its name. -/
theorem Table.field_eq_ok_iff {α : Type} {table : Table} {name : String} {default value : α}
    {check : Value → Except IssueKind α} :
    table.field name default check = .ok value ↔
      Reads default check (table.get? name.toList) value := by
  rw [Table.field]
  cases table.get? name.toList with
  | none => exact ⟨fun same => (Except.ok.inj same).symm, fun same => congrArg _ same.symm⟩
  | some found => exact Checked.under_eq_ok_iff.trans Checked.ofScalar_eq_ok_iff

/-- A section is read from a table under its name, or from the empty table. -/
theorem Table.section_eq_ok_iff {α : Type} {table : Table} {name : String} {default read : α}
    {check : Table → Checked α} (empty : check [] = .ok default) :
    table.section_ name default check = .ok read ↔
      OnlyTable (table.get? name.toList) ∧
        check (((table.get? name.toList).bind Value.table?).getD []) = .ok read := by
  rw [Table.section_]
  -- An absent section is read as an empty table: the defaults are what its check makes of that.
  cases table.get? name.toList with
  | none => exact ⟨fun same => ⟨trivial, empty.trans same⟩, fun same => empty.symm.trans same.2⟩
  | some found =>
      cases found with
      | table entries =>
          exact Checked.under_eq_ok_iff.trans (iff_of_eq (true_and _).symm)
      | _ => exact ⟨fun wrong => (by cases wrong), fun wrong => wrong.1.elim⟩

theorem get?_of_section (found : Option Value) (name : Text) :
    Table.get? ((found.bind Value.table?).getD []) name = fieldIn? found name := by
  cases found with
  | none => rfl
  | some value => cases value <;> rfl

/-! ## Settings field by field -/

/-- Settings read field by field: the level from one place, and the fields of the sections from where
they are found. -/
structure Settings.ReadFrom (level : Option Value) (field? : Text → Text → Option Value)
    (settings : Settings) : Prop where
  logLevel : Reads .info level? level settings.logLevel
  format : Reads .json LoggingSection.format? (field? "logging".toList "format".toList)
    settings.logging.format
  redactSensitive : Reads true (Scalar.boolean .lax)
    (field? "logging".toList "redact_sensitive".toList) settings.logging.redactSensitive
  baseUrl : Reads HttpSection.default.baseUrl Scalar.text
    (field? "http".toList "base_url".toList) settings.http.baseUrl
  timeoutSeconds : Reads HttpSection.default.timeoutSeconds HttpSection.timeout?
    (field? "http".toList "timeout_seconds".toList) settings.http.timeoutSeconds
  userAgent : Reads none (Scalar.nullable HttpSection.agent?)
    (field? "http".toList "user_agent".toList) settings.http.userAgent
  followRedirects : Reads false (Scalar.boolean .lax)
    (field? "http".toList "follow_redirects".toList) settings.http.followRedirects
  maxConnections : Reads HttpSection.default.maxConnections HttpSection.connections?
    (field? "http".toList "max_connections".toList) settings.http.maxConnections
  strict : Reads none (Scalar.nullable (Scalar.boolean .lax))
    (field? "decode".toList "strict".toList) settings.decode.strict

theorem LoggingSection.check_eq_ok_iff {table : Table} {read : LoggingSection} :
    check table = .ok read ↔
      Reads .json format? (table.get? "format".toList) read.format ∧
        Reads true (Scalar.boolean .lax) (table.get? "redact_sensitive".toList)
          read.redactSensitive := by
  rw [check, Checked.map_eq_ok_iff (fun read : LoggingSection => (read.format, read.redactSensitive))
    (fun _ => rfl) (fun _ => rfl)]
  simp only [Checked.both_eq_ok_iff, Table.field_eq_ok_iff]

theorem HttpSection.check_eq_ok_iff {table : Table} {read : HttpSection} :
    check table = .ok read ↔
      Reads default.baseUrl Scalar.text (table.get? "base_url".toList) read.baseUrl ∧
        Reads default.timeoutSeconds timeout? (table.get? "timeout_seconds".toList)
          read.timeoutSeconds ∧
        Reads none (Scalar.nullable agent?) (table.get? "user_agent".toList) read.userAgent ∧
        Reads false (Scalar.boolean .lax) (table.get? "follow_redirects".toList)
          read.followRedirects ∧
        Reads default.maxConnections connections? (table.get? "max_connections".toList)
          read.maxConnections := by
  rw [check, Checked.map_eq_ok_iff (fun read : HttpSection =>
    (read.baseUrl, read.timeoutSeconds, read.userAgent, read.followRedirects, read.maxConnections))
    (fun _ => rfl) (fun _ => rfl)]
  simp only [Checked.both_eq_ok_iff, Table.field_eq_ok_iff]
  exact Iff.rfl

theorem DecodeSection.check_eq_ok_iff {table : Table} {read : DecodeSection} :
    check table = .ok read ↔
      Reads none (Scalar.nullable (Scalar.boolean .lax)) (table.get? "strict".toList)
        read.strict := by
  rw [check, Checked.map_eq_ok_iff (fun read : DecodeSection => read.strict)
    (fun _ => rfl) (fun _ => rfl)]
  exact Table.field_eq_ok_iff

namespace Settings

/-- The names of the sections. -/
def sectionNames : List Text := Environment.sections.map Prod.fst

theorem forall_sectionNames {holds : Text → Prop} :
    (∀ name ∈ sectionNames, holds name) ↔
      holds "logging".toList ∧ holds "http".toList ∧ holds "decode".toList := by
  simp [sectionNames, Environment.sections]

/-- **A table gives the settings read from it**, field by field, if no section is anything else than
a table; else it gives none. -/
theorem check_eq_ok_iff {table : Table} {settings : Settings} :
    check table = .ok settings ↔
      (∀ name ∈ sectionNames, OnlyTable (table.get? name)) ∧
        settings.ReadFrom (table.get? "log_level".toList)
          fun name field => fieldIn? (table.get? name) field := by
  rw [check, Checked.map_eq_ok_iff (fun read : Settings =>
    (read.logLevel, read.logging, read.http, read.decode)) (fun _ => rfl) (fun _ => rfl)]
  simp only [Checked.both_eq_ok_iff, Table.field_eq_ok_iff]
  have logging : LoggingSection.check [] = .ok {} := rfl
  have http : HttpSection.check [] = .ok {} := rfl
  have decode : DecodeSection.check [] = .ok {} := rfl
  rw [Table.section_eq_ok_iff logging, Table.section_eq_ok_iff http,
    Table.section_eq_ok_iff decode, LoggingSection.check_eq_ok_iff, HttpSection.check_eq_ok_iff,
    DecodeSection.check_eq_ok_iff]
  simp only [get?_of_section]
  rw [forall_sectionNames]
  constructor
  · rintro ⟨level, ⟨logging, format, redact⟩, ⟨http, base, timeout, agent, follow, connections⟩,
      decode, strict⟩
    exact ⟨⟨logging, http, decode⟩,
      ⟨level, format, redact, base, timeout, agent, follow, connections, strict⟩⟩
  · rintro ⟨⟨logging, http, decode⟩, read⟩
    exact ⟨read.logLevel, ⟨logging, read.format, read.redactSensitive⟩,
      ⟨http, read.baseUrl, read.timeoutSeconds, read.userAgent, read.followRedirects,
        read.maxConnections⟩, decode, read.strict⟩

/-- Settings are read in the same way from values with the same outlines. -/
theorem ReadFrom.of_outline {settings : Settings} {level other : Option Value}
    {field? otherField? : Text → Text → Option Value}
    (levels : level.map Value.outline = other.map Value.outline)
    (fields : ∀ name ∈ sectionNames, ∀ field,
      (field? name field).map Value.outline = (otherField? name field).map Value.outline)
    (read : settings.ReadFrom level field?) : settings.ReadFrom other otherField? := by
  obtain ⟨logging, http, decode⟩ := forall_sectionNames.mp fields
  exact
    { logLevel := (reads_congr (fun _ => rfl) levels).mp read.logLevel
      format := (reads_congr (fun _ => rfl) (logging _)).mp read.format
      redactSensitive := (reads_congr (fun _ => rfl) (logging _)).mp read.redactSensitive
      baseUrl := (reads_congr (fun _ => rfl) (http _)).mp read.baseUrl
      timeoutSeconds := (reads_congr (fun _ => rfl) (http _)).mp read.timeoutSeconds
      userAgent := (reads_congr (fun _ => rfl) (http _)).mp read.userAgent
      followRedirects := (reads_congr (fun _ => rfl) (http _)).mp read.followRedirects
      maxConnections := (reads_congr (fun _ => rfl) (http _)).mp read.maxConnections
      strict := (reads_congr (fun _ => rfl) (decode _)).mp read.strict }

/-- From values of the same outline the same settings are read. -/
theorem readFrom_congr {settings : Settings} {level other : Option Value}
    {field? otherField? : Text → Text → Option Value}
    (levels : level.map Value.outline = other.map Value.outline)
    (fields : ∀ name ∈ sectionNames, ∀ field,
      (field? name field).map Value.outline = (otherField? name field).map Value.outline) :
    settings.ReadFrom level field? ↔ settings.ReadFrom other otherField? :=
  ⟨ReadFrom.of_outline levels fields,
    ReadFrom.of_outline levels.symm fun name known field => (fields name known field).symm⟩

end Settings

end UriEndpoint
