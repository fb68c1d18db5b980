import UriEndpoint.Proofs.Settings.Precedence
import UriEndpoint.Proofs.Settings.Variables

/-! # Settings from variables in any order

The sections that variables give are alike for environments with the same variables: what is found
in the place of a section and each field in it has the same outline. A field given in the text of a
whole section may have several spellings, but one variable at most sets it by itself, so which of its
spellings counts does not depend on an order of variables either. Settings do not look further into
the layer than that, so they are the same (`Environment.Same.ofLayers_eq`).
-/

namespace UriEndpoint

namespace Environment

/-! ## Names of fields -/

/-- The name that a field of a section has in settings: that of the known field, if it is the same
but for letter case. -/
def fieldName (known : List Text) (key : Text) : Text :=
  (known.find? fun field => field.lowercase == key.lowercase).getD key

/-- Of the keys with the name of a field the last counts. -/
theorem get?_withFieldNames {entries : Table} (distinct : entries.keys.Nodup) (known : List Text)
    (field : Text) :
    (withFieldNames known entries).get? field =
      (entries.keys.filter fun key => fieldName known key == field).getLast?.bind entries.get? := by
  rw [withFieldNames, Table.get?_putAll, Table.get?_nil, Option.or_none,
    ← Table.getLast?_filter_keys distinct, List.filter_map, List.getLast?_map, Option.map_map]
  rfl

/-- In lower case only a field itself has its name. -/
theorem eq_of_fieldName {known : List Text} (small : ∀ field ∈ known, field.IsLowercase)
    {key field : Text} (lower : key.IsLowercase) (named : fieldName known key = field) :
    key = field := by
  rw [fieldName] at named
  cases found : known.find? fun other => other.lowercase == key.lowercase with
  | none =>
      rw [found] at named
      exact named
  | some other =>
      rw [found] at named
      have same : other.lowercase = key.lowercase := beq_iff_eq.mp (List.find?_some found :)
      have among := List.mem_of_find?_eq_some found
      rw [(small other among).lowercase_eq, lower.lowercase_eq] at same
      exact same.symm.trans named

/-- Keys that are distinct and in lower case. -/
structure LowerKeyed (table : Table) : Prop where
  nodup : table.keys.Nodup
  small : ∀ key ∈ table.keys, key.IsLowercase

/-- Of distinct names a filter that lets one through at most keeps that one, if it is there. -/
theorem filter_eq_of_only {names : List Text} (distinct : names.Nodup) {wanted : Text → Bool}
    (only : Text) (alone : ∀ name ∈ names, wanted name = true → name = only) :
    names.filter wanted = if only ∈ names ∧ wanted only = true then [only] else [] := by
  split
  · rename_i there
    refine List.perm_singleton.mp ((List.perm_ext_iff_of_nodup (distinct.filter _)
      (List.nodup_singleton _)).mpr fun name => ?_)
    rw [List.mem_filter, List.mem_singleton]
    exact ⟨fun kept => alone name kept.1 kept.2, fun same => same ▸ there⟩
  · rename_i absent
    refine List.filter_eq_nil_iff.mpr fun name member kept => absent ?_
    obtain rfl := alone name member kept
    exact ⟨member, kept⟩

/-- Fields over the text of a section keep their names alike, whatever spellings stand in the
text. -/
theorem sameFields_withFieldNames {known : List Text} (small : ∀ field ∈ known, field.IsLowercase)
    {text first second : Table} (distinct : text.keys.Nodup) (lower : LowerKeyed first)
    (otherLower : LowerKeyed second) (same : first.SameFields second) :
    (withFieldNames known (text.overlaid first)).SameFields
      (withFieldNames known (text.overlaid second)) := by
  intro field
  have members (name : Text) : name ∈ first.keys ↔ name ∈ second.keys := by
    have absent : first.get? name = none ↔ second.get? name = none := by
      rw [← Option.map_eq_none_iff, same name, Option.map_eq_none_iff]
    rwa [Table.get?_eq_none_iff, Table.get?_eq_none_iff, not_iff_not] at absent
  -- A field that is not in the text is under its own name, in the place after all of the text.
  have added {table : Table} (lower : LowerKeyed table) :
      (table.keys.filter (· ∉ text.keys)).filter (fieldName known · == field) =
        if field ∈ table.keys ∧ (field ∉ text.keys ∧ fieldName known field = field) then [field]
        else [] := by
    rw [List.filter_filter, filter_eq_of_only lower.nodup field]
    · simp only [Bool.and_eq_true, beq_iff_eq, decide_eq_true_eq, and_comm]
    · intro name member kept
      have named := (Bool.and_eq_true _ _ ▸ kept).1
      exact eq_of_fieldName small (lower.small name member) (beq_iff_eq.mp named)
  have keys : (text.overlaid first).keys.filter (fieldName known · == field) =
      (text.overlaid second).keys.filter (fieldName known · == field) := by
    rw [Table.keys_overlaid lower.nodup, Table.keys_overlaid otherLower.nodup, List.filter_append,
      List.filter_append, added lower, added otherLower]
    simp only [members]
  rw [get?_withFieldNames (Table.nodup_overlaid distinct first),
    get?_withFieldNames (Table.nodup_overlaid distinct second), keys]
  cases ((text.overlaid second).keys.filter (fieldName known · == field)).getLast? with
  | none => rfl
  | some key =>
      rw [Option.bind_some, Option.bind_some, Table.outline_get?_overlaid lower.nodup,
        Table.outline_get?_overlaid otherLower.nodup, Option.map_or, same key, ← Option.map_or]

/-! ## Sections and the whole layer -/

theorem nodup_settledEntries {table : Table} (distinct : table.keys.Nodup) (entries : Table) :
    (Value.settledEntries table entries).keys.Nodup := by
  induction entries generalizing table with
  | nil => exact distinct
  | cons entry rest ih => exact ih (Table.nodup_put distinct entry.1 _)

/-- In a settled table no key stands twice. -/
theorem nodup_of_settled {value : Value} {entries : Table}
    (settled : value.settled = .table entries) : entries.keys.Nodup := by
  cases value with
  | table raw =>
      obtain rfl := Value.table.inj settled
      exact nodup_settledEntries Table.nodup_nil raw
  | _ => cases settled

variable {first second : Environment}

/-- Fields have lower-case keys, as the variables that they come from have. -/
theorem lowerKeyed_nestedFields (lower : first.Lowered) (sectionName : Text) :
    LowerKeyed (first.nestedFields sectionName) := by
  rw [nestedFields_eq]
  exact ⟨nodup_fields _ _, fun key => isLowercase_of_mem_fields lower.small⟩

/-- What variables give for a section is alike if the variables for settings are the same. -/
theorem endAlike_sectionValue? (lower : first.Lowered) (otherLower : second.Lowered)
    (same : ∀ name, lead <+: name → first.get? name = second.get? name) (sectionName : Text)
    {known : List Text} (small : ∀ field ∈ known, field.IsLowercase) :
    EndAlike SameSection (first.sectionValue? sectionName known)
      (second.sectionValue? sectionName known) := by
  have nested : (first.nestedFields sectionName).SameFields (second.nestedFields sectionName) := by
    rw [nestedFields_eq, nestedFields_eq]
    refine sameFields_fields lower.distinct otherLower.distinct fun name opens => ?_
    rw [List.append_assoc] at opens
    exact same name ((List.prefix_append ..).trans opens)
  have keyed := lowerKeyed_nestedFields lower sectionName
  have otherKeyed := lowerKeyed_nestedFields otherLower sectionName
  have laid {text : Table} (distinct : text.keys.Nodup) :
      SameSection (some (.table (withFieldNames known
          (text.overlaid (first.nestedFields sectionName)))))
        (some (.table (withFieldNames known
          (text.overlaid (second.nestedFields sectionName))))) :=
    ⟨rfl, sameFields_withFieldNames small distinct keyed otherKeyed nested⟩
  rw [sectionValue?, sectionValue?, same (lead ++ sectionName) (List.prefix_append ..)]
  cases second.get? (lead ++ sectionName) with
  | none =>
      refine .ok ?_
      rw [nested.isEmpty_eq]
      split
      · exact SameSection.refl none
      · have alone := laid Table.nodup_nil
        rwa [Table.overlaid_empty keyed.nodup, Table.overlaid_empty otherKeyed.nodup] at alone
  | some text =>
      dsimp only
      cases read : (Json.read sectionDialect text).map Value.settled with
      | error fault => cases fault <;> exact .error _
      | ok value =>
          obtain ⟨raw, _, settled⟩ := map_eq_ok_iff.mp read
          cases value with
          | table entries => exact .ok (laid (nodup_of_settled settled))
          | null => exact .ok (SameSection.refl none)
          | _ => exact .ok (SameSection.refl _)

/-- Environments with the same variables give sections that are alike, or the same fault. -/
theorem endAlike_sectionValues (lower : first.Lowered) (otherLower : second.Lowered)
    (same : ∀ name, lead <+: name → first.get? name = second.get? name)
    {sections : List (Text × List Text)}
    (small : ∀ entry ∈ sections, ∀ field ∈ entry.2, field.IsLowercase) :
    EndAlike Table.Alike (first.sectionValues sections) (second.sectionValues sections) := by
  induction sections with
  | nil => exact .ok fun name => SameSection.refl none
  | cons entry rest ih =>
      obtain ⟨here, later⟩ := List.forall_mem_cons.mp small
      refine (endAlike_sectionValue? lower otherLower same entry.1 here).bind fun given => ?_
      refine (ih later).bind fun others => .ok ?_
      rename_i value other _ _
      cases value with
      | none =>
          cases other with
          | none => exact others
          | some other => cases given.outline
      | some value =>
          cases other with
          | none => cases given.outline
          | some other => exact others.cons given entry.1

/-- Variables for settings have the same values by their names in lower case. -/
theorem Same.get?_lowered (same : first.Same second) {name : Text} (leads : lead <+: name) :
    first.lowered.get? name = second.lowered.get? name := by
  rw [Environment.get?_lowered, Environment.get?_lowered, same.order name leads]

/-- The same variables give layers that settings cannot tell apart, or the same fault. -/
theorem Same.endAlike_layer (same : first.Same second) :
    EndAlike Table.Alike first.layer second.layer := by
  have small : ∀ entry ∈ sections, ∀ field ∈ entry.2, field.IsLowercase := by decide +kernel
  refine (endAlike_sectionValues first.lowered_lowered second.lowered_lowered
    (fun name leads => same.get?_lowered leads) small).bind fun alike => .ok ?_
  rw [same.get?_lowered (List.prefix_append ..)]
  cases second.lowered.get? (lead ++ "log_level".toList) with
  | none => exact alike
  | some level => exact alike.cons (.refl _) _

/-- **Settings do not depend on the order of variables**, but for those whose names agree in lower
case. -/
theorem Same.ofLayers_eq (same : first.Same second) (config : Table) :
    Settings.ofLayers [] first config = Settings.ofLayers [] second config := by
  have ends := same.endAlike_layer
  rw [Settings.ofLayers, Settings.ofLayers]
  generalize given : first.layer = layer at ends
  generalize otherGiven : second.layer = other at ends
  cases ends with
  | error fault => rfl
  | ok alike =>
      have laid := alike.overlaid (distinct_layer given) (distinct_layer otherGiven) config
      exact congrArg (Except.mapError SettingsFault.invalid) (Settings.check_congr laid)

end Environment

end UriEndpoint
