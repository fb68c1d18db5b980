import UriEndpoint.Proofs.Sequencing
import UriEndpoint.Proofs.Settings.Reading
import UriEndpoint.Settings.Store

/-! # Which layer a setting comes from

Settings are made from what a caller passes, the environment, the overlay of the environment in use
and the configuration of every environment. The log level comes from the first of them that has it.
A field of a section comes from the first of what is passed, the environment and the configuration
that has a table with this field in the place of the section; so a layer that sets one field hides
no other field of the layers below, and a layer in the middle hides nothing by something else than a
table. Only within the configuration, which is put together first, does an overlay without a table in
the place of a section hide that section.
-/

namespace UriEndpoint

/-! ## What each layer has -/

namespace Environment

variable {environment : Environment}

theorem nodup_sectionValue? {name : Text} {fields : List Text} {value : Value}
    (given : environment.sectionValue? name fields = .ok (some value)) :
    (Table.keys (value.table?.getD [])).Nodup := by
  have renamed (entries : Table) : (withFieldNames fields entries).keys.Nodup :=
    Table.nodup_putAll Table.nodup_nil _
  rw [sectionValue?] at given
  split at given
  · split at given
    · cases given
    · cases given
      exact renamed _
  · split at given
    · cases given
    · cases given
    · cases given
    · cases given
      exact renamed _
    · rename_i value _ noTable _
      cases given
      cases value with
      | table entries => exact absurd rfl (noTable entries)
      | _ => exact List.nodup_nil

/-- The layer of the environment has its sections in order and repeats no field in them. -/
theorem layer_of_sectionValues {sections : List (Text × List Text)} {layer : Table}
    (given : environment.sectionValues sections = .ok layer) :
    List.Sublist layer.keys (sections.map Prod.fst) ∧
      ∀ entry ∈ layer, (Table.keys (entry.2.table?.getD [])).Nodup := by
  induction sections generalizing layer with
  | nil =>
      cases given
      exact ⟨List.Sublist.refl _, List.forall_mem_nil _⟩
  | cons first rest ih =>
      obtain ⟨name, fields⟩ := first
      obtain ⟨value, valueGiven, given⟩ := bind_eq_ok_iff.mp given
      obtain ⟨others, othersGiven, given⟩ := bind_eq_ok_iff.mp given
      obtain ⟨among, inside⟩ := ih othersGiven
      cases value with
      | none =>
          cases given
          exact ⟨among.cons name, inside⟩
      | some value =>
          cases given
          exact ⟨among.cons_cons name,
            List.forall_mem_cons.mpr ⟨nodup_sectionValue? valueGiven, inside⟩⟩

theorem distinct_layer {layer : Table} (given : environment.layer = .ok layer) :
    layer.Distinct := by
  obtain ⟨values, valuesGiven, given⟩ := bind_eq_ok_iff.mp given
  obtain ⟨among, inside⟩ := layer_of_sectionValues valuesGiven
  have levelNoSection : "log_level".toList ∉ sections.map Prod.fst := by decide
  have distinct : values.keys.Nodup := among.nodup (by decide)
  change (pure _ : Except EnvironmentFault Table) = _ at given
  cases levelFound : environment.lowered.get? (lead ++ "log_level".toList) with
  | none =>
      rw [levelFound] at given
      cases given
      exact Table.distinct_iff.mpr ⟨distinct, inside⟩
  | some level =>
      rw [levelFound] at given
      cases given
      have levelNew : "log_level".toList ∉ values.keys := by
        intro member
        exact levelNoSection (among.subset member)
      exact Table.distinct_iff.mpr
        ⟨List.nodup_cons.mpr ⟨levelNew, distinct⟩,
          List.forall_mem_cons.mpr ⟨List.nodup_nil, inside⟩⟩

end Environment

namespace Settings

/-- What a caller's table has for a setting: the first value whose name is that of the setting but
for letter case. -/
def passedAt? (passed : Table) (name : Text) : Option Value :=
  (passed.find? fun entry => entry.1.lowercase == name).map Prod.snd

/-- A passed name becomes that of a setting exactly if it is that name in some letter case. -/
theorem named_eq_iff {name : Text} (known : name ∈ fieldNames) (key : Text) :
    (fieldNames.find? fun name => name == key.lowercase).getD key = name ↔
      key.lowercase = name := by
  have lowered : ∀ name ∈ fieldNames, name.lowercase = name := by decide +kernel
  cases found : fieldNames.find? fun name => name == key.lowercase with
  | some other =>
      have same : other = key.lowercase := by simpa using List.find?_some found
      rw [Option.getD_some, same]
  | none =>
      have unknown : key.lowercase ∉ fieldNames := by
        intro member
        simpa using List.find?_eq_none.mp found _ member
      rw [Option.getD_none]
      constructor
      · intro same
        rw [same]
        exact lowered name known
      · intro same
        exact absurd (same ▸ known) unknown

/-- Under the name of a setting stands what the first entry of that name in any letter case has. -/
theorem get?_named (passed : Table) {name : Text} (known : name ∈ fieldNames) :
    (named passed).get? name = passedAt? passed name := by
  rw [named, Table.get?_fillAll, Table.get?_nil, Option.none_or]
  induction passed with
  | nil => rfl
  | cons entry rest ih =>
      obtain ⟨key, value⟩ := entry
      rw [List.map_cons, Table.get?_cons, passedAt?, List.find?_cons]
      by_cases same : key.lowercase = name
      · rw [if_pos ((named_eq_iff known key).mpr same).symm, beq_iff_eq.mpr same]
        rfl
      · rw [if_neg fun named => same ((named_eq_iff known key).mp named.symm), ih,
          beq_eq_false_iff_ne.mpr same]
        rfl

theorem distinct_named {passed : Table} (distinct : passed.Distinct) :
    (named passed).Distinct := by
  refine ⟨Table.nodup_fillAll Table.nodup_nil _, ?_⟩
  intro key entries found
  rw [named, Table.get?_fillAll, Table.get?_nil, Option.none_or] at found
  obtain ⟨⟨given, value⟩, member, same⟩ := List.mem_map.mp (Table.mem_of_get? found)
  cases same
  exact (Table.distinct_iff.mp distinct).2 _ member

end Settings

/-! ## The layers together -/

/-- What the layers of settings have under a name. -/
structure Layers where
  passed : Text → Option Value
  environment : Text → Option Value
  overlay : Text → Option Value
  base : Text → Option Value

namespace Layers

/-- The layers that four tables are, names compared exactly. -/
def ofTables (passed layer overlay base : Table) : Layers :=
  ⟨passed.get?, layer.get?, overlay.get?, base.get?⟩

/-- The value of the first layer that has the name. -/
def first? (layers : Layers) (name : Text) : Option Value :=
  ((layers.passed name).or (layers.environment name)).or
    ((layers.overlay name).or (layers.base name))

/-- The value of a field in what is passed, else in the environment, else in the configuration. -/
def field? (layers : Layers) (name field : Text) : Option Value :=
  ((fieldIn? (layers.passed name) field).or (fieldIn? (layers.environment name) field)).or
    (fieldOver? (layers.base name) (layers.overlay name) field)

end Layers

namespace Settings

variable {passed base overlay layer : Table} {environment : Environment}

/-- The table that settings are checked in. -/
def laidOver (passed layer overlay base : Table) : Table :=
  (Table.overlaid (Table.overlaid [] base) overlay).overlaid (layer.overlaid passed)

/-- What the layers give under a name has the outline of what the first layer with that name has. -/
theorem outline_first (passedDistinct : passed.Distinct) (layerDistinct : layer.Distinct)
    (overlayDistinct : overlay.Distinct) (baseDistinct : base.Distinct) (name : Text) :
    ((laidOver passed layer overlay base).get? name).map Value.outline =
      ((Layers.ofTables passed layer overlay base).first? name).map Value.outline := by
  have above := layerDistinct.overlaid passedDistinct
  rw [laidOver, Table.outline_get?_overlaid above.nodup, Option.map_or,
    Table.outline_get?_overlaid passedDistinct.nodup,
    Table.outline_get?_overlaid overlayDistinct.nodup, Table.get?_overlaid_nil baseDistinct.nodup,
    ← Option.map_or]
  rfl

/-- What the layers give for a field has the outline of what the first layer with that field has. -/
theorem outline_field (passedDistinct : passed.Distinct) (layerDistinct : layer.Distinct)
    (overlayDistinct : overlay.Distinct) (baseDistinct : base.Distinct) (name field : Text)
    (only : OnlyTable ((Layers.ofTables passed layer overlay base).first? name)) :
    (fieldIn? ((laidOver passed layer overlay base).get? name) field).map Value.outline =
      ((Layers.ofTables passed layer overlay base).field? name field).map Value.outline := by
  have above := layerDistinct.overlaid passedDistinct
  -- Below a table that is passed the environment may hold anything, but not above the configuration.
  have onlyAbove : OnlyTable ((passed.get? name).or (layer.get? name)) := only.of_or
  have onlyLaid : OnlyTable ((layer.overlaid passed).get? name) := by
    rwa [← onlyTable_outline, Table.outline_get?_overlaid passedDistinct.nodup, onlyTable_outline]
  rw [laidOver, Table.outline_fieldIn?_overlaid above, fieldOver?_of_onlyTable onlyLaid,
    Option.map_or, Table.outline_fieldIn?_overlaid passedDistinct,
    fieldOver?_of_onlyTable onlyAbove.of_or, Table.outline_fieldIn?_overlaid overlayDistinct,
    Table.get?_overlaid_nil baseDistinct.nodup, ← Option.map_or]
  rfl

/-- Settings come of four tables exactly if they are read from the first layer that has each value.
-/
theorem ofTables_eq_ok_iff (passedDistinct : passed.Distinct) (layerDistinct : layer.Distinct)
    (overlayDistinct : overlay.Distinct) (baseDistinct : base.Distinct) (settings : Settings) :
    let layers := Layers.ofTables passed layer overlay base
    ofTables passed layer (Table.overlaid (Table.overlaid [] base) overlay) = .ok settings ↔
      (∀ name ∈ sectionNames, OnlyTable (layers.first? name)) ∧
        settings.ReadFrom (layers.first? "log_level".toList) layers.field? := by
  intro layers
  have firsts := outline_first passedDistinct layerDistinct overlayDistinct baseDistinct
  have only (name : Text) : OnlyTable ((laidOver passed layer overlay base).get? name) ↔
      OnlyTable (layers.first? name) := by
    rw [← onlyTable_outline, firsts, onlyTable_outline]
  have sections := forall₂_congr fun name (_ : name ∈ sectionNames) => only name
  refine check_eq_ok_iff.trans (Iff.trans (and_congr_left fun _ => sections) ?_)
  refine and_congr_right fun tables => readFrom_congr (firsts _) ?_
  intro name known field
  exact outline_field passedDistinct layerDistinct overlayDistinct baseDistinct name field
    (tables name known)

end Settings

/-- The configuration is the overlay of the environment in use over that of every environment. -/
theorem SettingsStore.loadConfig_eq_ok {store : SettingsStore} {directory : FilePath}
    {base overlay : Table} (found : store.directory = .ok directory)
    (baseRead : store.readNamed directory "default".toList = .ok base)
    (overlayRead : store.readNamed directory store.environmentName = .ok overlay) :
    store.loadConfig = .ok (Table.overlaid (Table.overlaid [] base) overlay) := by
  refine bind_eq_ok_iff.mpr ⟨directory, found, ?_⟩
  refine bind_eq_ok_iff.mpr ⟨base, baseRead, ?_⟩
  exact bind_eq_ok_iff.mpr ⟨overlay, overlayRead, rfl⟩

/-- **Settings come from the first layer that has them.** Over the configuration that is loaded from
a base and an overlay, a caller and the environment are given settings exactly if the first layer
with a section has a table there and every value found is accepted: the log level of the first layer
that has one, each field of a section that of the first of what is passed, the environment and the
configuration that has it in a table, and the defaults of what is nowhere found. -/
theorem settings_come_from_first_layer {passed layer overlay base : Table}
    {environment : Environment} (given : environment.layer = .ok layer)
    (passedDistinct : passed.Distinct) (overlayDistinct : overlay.Distinct)
    (baseDistinct : base.Distinct) :
    let config := Table.overlaid (Table.overlaid [] base) overlay
    let layers : Layers := ⟨Settings.passedAt? passed, layer.get?, overlay.get?, base.get?⟩
    (∀ store directory, SettingsStore.directory store = .ok directory →
      store.readNamed directory "default".toList = .ok base →
      store.readNamed directory store.environmentName = .ok overlay →
        store.loadConfig = .ok config) ∧
    ∀ settings, Settings.ofLayers passed environment config = .ok settings ↔
      (∀ name ∈ Settings.sectionNames, OnlyTable (layers.first? name)) ∧
        settings.ReadFrom (layers.first? "log_level".toList) layers.field? := by
  intro config layers
  refine ⟨fun store directory => SettingsStore.loadConfig_eq_ok, fun settings => ?_⟩
  -- The layers with what is passed under the names of settings, as the table is checked.
  let spelled := Layers.ofTables (Settings.named passed) layer overlay base
  have known : ∀ name ∈ Settings.sectionNames, name ∈ Settings.fieldNames := by decide
  have firsts (name : Text) (known : name ∈ Settings.fieldNames) :
      spelled.first? name = layers.first? name := by
    simp only [Layers.first?, spelled, Layers.ofTables, layers, Settings.get?_named passed known]
  have fields (name : Text) (known : name ∈ Settings.fieldNames) (field : Text) :
      spelled.field? name field = layers.field? name field := by
    simp only [Layers.field?, spelled, Layers.ofTables, layers, Settings.get?_named passed known]
  have sections : (∀ name ∈ Settings.sectionNames, OnlyTable (spelled.first? name)) ↔
      ∀ name ∈ Settings.sectionNames, OnlyTable (layers.first? name) :=
    forall₂_congr fun name among => iff_of_eq (congrArg OnlyTable (firsts name (known name among)))
  have read : settings.ReadFrom (spelled.first? "log_level".toList) spelled.field? ↔
      settings.ReadFrom (layers.first? "log_level".toList) layers.field? := by
    rw [firsts _ (by decide)]
    exact Settings.readFrom_congr rfl fun name among field =>
      congrArg (Option.map Value.outline) (fields name (known name among) field)
  have spelledRead := Settings.ofTables_eq_ok_iff (Settings.distinct_named passedDistinct)
    (Environment.distinct_layer given) overlayDistinct baseDistinct settings
  rw [Settings.ofLayers, given]
  exact mapError_eq_ok_iff.trans (spelledRead.trans (and_congr sections read))

/-- One variable, which gives a number for a whole section. -/
def numberedSection : Environment := ⟨[("APITEMPLATE_HTTP".toList, "3".toList)]⟩

theorem settings_come_from_first_layer_of_number_between :
    let passed : Table := [("HTTP".toList, .table [("max_connections".toList, .integer 5)]),
      ("logging".toList, .table [])]
    let layer : Table := [("http".toList, .integer 3)]
    let overlay : Table := [("http".toList, .table [("user_agent".toList, .null)]),
      ("logging".toList, .boolean true)]
    let base : Table := [("http".toList, .table [("base_url".toList, .text ['/']),
      ("user_agent".toList, .text ['u']), ("max_connections".toList, .integer 6)]),
      ("logging".toList, .table [("format".toList, .text "console".toList)])]
    numberedSection.layer = .ok layer ∧ passed.Distinct ∧ overlay.Distinct ∧ base.Distinct ∧
      Settings.ofLayers passed numberedSection (Table.overlaid (Table.overlaid [] base) overlay) =
        .ok { http := { baseUrl := ['/'], userAgent := none, maxConnections := 5 } } := by
  intro passed layer overlay base
  have given : numberedSection.layer = .ok layer := rfl
  have passedDistinct : passed.Distinct := by decide
  have overlayDistinct : overlay.Distinct := by decide
  have baseDistinct : base.Distinct := by decide
  have read := settings_come_from_first_layer given passedDistinct overlayDistinct baseDistinct
  refine ⟨given, passedDistinct, overlayDistinct, baseDistinct, (read.2 _).mpr ⟨?_, ?_⟩⟩
  · exact Settings.forall_sectionNames.mpr ⟨trivial, trivial, trivial⟩
  · exact ⟨rfl, rfl, rfl, rfl, rfl, rfl, rfl, rfl, rfl⟩

/-- When it is passed, a setting may be named in capitals: settings are given that are not read from
the layers by their exact names. -/
theorem level_in_capitals_is_given :
    let passed : Table := [("LOG_LEVEL".toList, .text "DEBUG".toList)]
    let layers := Layers.ofTables passed [] [] []
    Environment.empty.layer = .ok [] ∧ passed.Distinct ∧ ∃ settings,
      Settings.ofLayers passed .empty (Table.overlaid (Table.overlaid [] []) []) = .ok settings ∧
        ¬ settings.ReadFrom (layers.first? "log_level".toList) layers.field? := by
  intro passed layers
  have distinct : passed.Distinct := by decide
  refine ⟨rfl, distinct, { logLevel := .debug }, rfl, ?_⟩
  intro read
  cases read.logLevel

end UriEndpoint
