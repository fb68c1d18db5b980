import UriEndpoint.Proofs.Settings.Determined
import UriEndpoint.Proofs.Settings.OverlaidPaths
import UriEndpoint.Proofs.Value.Equality

/-! # Laws of laying over

The empty table changes nothing, above or below, and a table laid over itself, or a second time over
the same table, changes nothing either. Layers may be put together in any grouping, unless somewhere
a table above and a table below are kept apart by something else in the middle
(`Table.Severed`): from the right the middle goes away first and the two meet, from the left the
lower one has gone before they can. The laws hold with the order of the keys.
-/

namespace UriEndpoint

namespace Value

/-- An upper value stands alone unless two tables meet. -/
theorem overlaid_eq_self {lower : Option Value} {value : Value}
    (alone : value.table? = none ∨ lower.bind Value.table? = none) :
    Value.overlaid lower value = value := by
  rcases overlaid_cases lower value with ⟨below, above, rfl, rfl⟩ | ⟨kept, _⟩
  · rcases alone with plain | plain <;> cases plain
  · exact kept

/-- Values of three layers go together from both sides if their tables do and if, around a middle
that is no table, the lower table adds nothing to the upper one. -/
theorem overlaid_assoc {lower : Option Value} {middle upper : Value}
    (meet : ∀ below between above : Table, lower = some (.table below) →
      middle = .table between → upper = .table above →
      (below.overlaid between).overlaid above = below.overlaid (between.overlaid above))
    (part : ∀ below above : Table, lower = some (.table below) → middle.table? = none →
      upper = .table above → below.overlaid above = above) :
    Value.overlaid (some (Value.overlaid lower middle)) upper =
      Value.overlaid lower (Value.overlaid (some middle) upper) := by
  rcases overlaid_cases (some middle) upper with ⟨between, above, here, rfl⟩ | ⟨kept, alone⟩
  · obtain rfl := Option.some.inj here
    rcases overlaid_cases lower (.table between) with ⟨below, _, rfl, same⟩ | ⟨_, plain | plain⟩
    · cases same
      exact congrArg Value.table (meet below _ above rfl rfl rfl)
    · cases plain
    · rw [overlaid_eq_self (.inr plain), overlaid_eq_self (.inr plain)]
  · rw [kept]
    rcases alone with plain | plain
    · rw [overlaid_eq_self (.inl plain), overlaid_eq_self (.inl plain)]
    · have covered : Value.overlaid lower middle = middle := overlaid_eq_self (.inl plain)
      rw [covered, kept]
      rcases overlaid_cases lower upper with ⟨below, above, rfl, rfl⟩ | ⟨whole, _⟩
      · exact congrArg Value.table (part below above rfl plain rfl).symm
      · exact whole.symm

end Value

namespace Table

variable {table lower middle upper : Table} {key : Text}

/-! ## One layer over another -/

/-- A table laid over itself stays as it is. -/
theorem overlaid_self (keyed : table.Keyed) : table.overlaid table = table := by
  induction table using induction_on_inner with
  | step table ih =>
      apply ext_of_get? (nodup_overlaid keyed.nodup table)
      · rw [keys_overlaid keyed.nodup]
        simp
      · intro key
        rw [get?_overlaid keyed.nodup]
        cases found : table.get? key with
        | none => rfl
        | some value =>
            cases shape : value.table? with
            | none => exact congrArg some (Value.overlaid_eq_self (.inl shape))
            | some entries =>
                obtain rfl := Value.table?_eq_some_iff.mp shape
                have inner := ih key entries found (keyed.inside found)
                exact congrArg (fun entries => some (Value.table entries)) inner

/-! ## Three layers -/

/-- At a path there are tables below and above, and something else in the middle. -/
def Severed (lower middle upper : Table) (path : List Text) (below above : Table) : Prop :=
  lower.at? path = some (.table below) ∧
    (∃ value, middle.at? path = some value ∧ value.table? = none) ∧
    upper.at? path = some (.table above)

theorem not_severed_nil {below above : Table} : ¬Severed lower middle upper [] below above := by
  rintro ⟨_, ⟨value, reached, plain⟩, _⟩
  cases reached
  cases plain

/-- A value in the middle severs two tables under its key. -/
theorem severed_singleton {below above : Table} : Severed lower middle upper [key] below above ↔
    lower.get? key = some (.table below) ∧
      (∃ value, middle.get? key = some value ∧ value.table? = none) ∧
      upper.get? key = some (.table above) := by
  have single (table : Table) : table.at? [key] = table.get? key := Option.bind_fun_some _
  rw [Severed, single, single, single]

/-- Tables are severed further down as they are in the tables under a key. -/
theorem severed_cons {first second third : Table} {path : List Text} {below above : Table}
    (lowerFound : lower.get? key = some (.table first))
    (middleFound : middle.get? key = some (.table second))
    (upperFound : upper.get? key = some (.table third)) :
    Severed lower middle upper (key :: path) below above ↔
      Severed first second third path below above := by
  rw [Severed, at?_cons_of_get? lowerFound, at?_cons_of_get? middleFound,
    at?_cons_of_get? upperFound]
  exact Iff.rfl

/-- A path that goes on leads through tables. -/
theorem exists_of_at?_cons_cons {next : Text} {path : List Text} {value : Value}
    (reached : table.at? (key :: next :: path) = some value) :
    ∃ entries, table.get? key = some (.table entries) := by
  cases found : (table.get? key).bind Value.table? with
  | none =>
      rw [at?_cons_cons_of_not_table found] at reached
      cases reached
  | some entries =>
      obtain ⟨inner, here, shape⟩ := Option.bind_eq_some_iff.mp found
      exact ⟨entries, Value.table?_eq_some_iff.mp shape ▸ here⟩

/-- Regrouping changes no key and no order of keys. -/
theorem keys_overlaid_assoc (middleDistinct : middle.keys.Nodup) (upperDistinct : upper.keys.Nodup)
    (lower : Table) :
    ((lower.overlaid middle).overlaid upper).keys =
      (lower.overlaid (middle.overlaid upper)).keys := by
  have whole := nodup_overlaid middleDistinct upper
  rw [keys_overlaid upperDistinct, keys_overlaid whole, keys_overlaid middleDistinct,
    keys_overlaid upperDistinct, List.filter_append, List.filter_filter, List.append_assoc]
  congr 2
  apply List.filter_congr
  intro name _
  by_cases below : name ∈ lower.keys <;> simp [below]

/-- Grouping from the right is grouping from the left if, wherever two tables are kept apart, the
lower one adds nothing to the upper one. -/
theorem overlaid_assoc (lowerKeyed : lower.Keyed) (middleKeyed : middle.Keyed)
    (upperKeyed : upper.Keyed)
    (harmless : ∀ path below above, Severed lower middle upper path below above →
      below.overlaid above = above) :
    (lower.overlaid middle).overlaid upper = lower.overlaid (middle.overlaid upper) := by
  induction upper using induction_on_inner generalizing lower middle with
  | step upper ih =>
      apply ext_of_get? (nodup_overlaid (nodup_overlaid lowerKeyed.nodup middle) upper)
      · exact keys_overlaid_assoc middleKeyed.nodup upperKeyed.nodup lower
      · intro key
        rw [get?_overlaid upperKeyed.nodup, get?_overlaid middleKeyed.nodup,
          get?_overlaid (nodup_overlaid middleKeyed.nodup upper), get?_overlaid upperKeyed.nodup]
        cases upperFound : upper.get? key with
        | none => rfl
        | some top =>
            cases middleFound : middle.get? key with
            | none => simp only [Value.overlaid_none]
            | some value =>
                refine congrArg some (Value.overlaid_assoc ?_ ?_)
                · rintro below between above lowerFound rfl rfl
                  apply ih key above upperFound (lowerKeyed.inside lowerFound)
                    (middleKeyed.inside middleFound) (upperKeyed.inside upperFound)
                  intro path inner outer severed
                  apply harmless (key :: path)
                  exact (severed_cons lowerFound middleFound upperFound).mpr severed
                · rintro below above lowerFound plain rfl
                  apply harmless [key]
                  exact severed_singleton.mpr ⟨lowerFound, ⟨value, middleFound, plain⟩, upperFound⟩

/-- Where two tables are kept apart, grouping from the right lets them meet. -/
theorem overlaid_eq_of_severed {path : List Text} {below above : Table}
    (middleKeyed : middle.Keyed) (upperKeyed : upper.Keyed)
    (severed : Severed lower middle upper path below above)
    (same : (lower.overlaid middle).overlaid upper = lower.overlaid (middle.overlaid upper)) :
    below.overlaid above = above := by
  induction path generalizing lower middle upper with
  | nil => exact absurd severed not_severed_nil
  | cons key path ih =>
      have here := congrArg (fun table : Table => table.get? key) same
      simp only [get?_overlaid upperKeyed.nodup, get?_overlaid middleKeyed.nodup,
        get?_overlaid (nodup_overlaid middleKeyed.nodup upper)] at here
      cases path with
      | nil =>
          obtain ⟨there, ⟨value, between, plain⟩, onTop⟩ := severed_singleton.mp severed
          have covered : Value.overlaid (some (.table below)) value = value :=
            Value.overlaid_eq_self (.inl plain)
          have alone : Value.overlaid (some value) (.table above) = .table above :=
            Value.overlaid_eq_self (.inr plain)
          simp only [there, between, onTop, covered, alone] at here
          exact (Value.table.inj (Option.some.inj here)).symm
      | cons next path =>
          obtain ⟨_, between, _⟩ := severed.2.1
          obtain ⟨first, lowerFound⟩ := exists_of_at?_cons_cons severed.1
          obtain ⟨second, middleFound⟩ := exists_of_at?_cons_cons between
          obtain ⟨third, upperFound⟩ := exists_of_at?_cons_cons severed.2.2
          rw [severed_cons lowerFound middleFound upperFound] at severed
          rw [lowerFound, middleFound, upperFound] at here
          exact ih (middleKeyed.inside middleFound) (upperKeyed.inside upperFound) severed
            (Value.table.inj (Option.some.inj here))

/-- Three layers may be regrouped exactly if the tables that the middle one severs would not change
each other. -/
theorem overlaid_assoc_iff (lowerKeyed : lower.Keyed) (middleKeyed : middle.Keyed)
    (upperKeyed : upper.Keyed) :
    (lower.overlaid middle).overlaid upper = lower.overlaid (middle.overlaid upper) ↔
      ∀ path below above, Severed lower middle upper path below above →
        below.overlaid above = above :=
  ⟨fun same _ _ _ severed => overlaid_eq_of_severed middleKeyed upperKeyed severed same,
    overlaid_assoc lowerKeyed middleKeyed upperKeyed⟩

/-- Laying the same table over a second time changes nothing. -/
theorem overlaid_again (lowerKeyed : lower.Keyed) (upperKeyed : upper.Keyed) :
    (lower.overlaid upper).overlaid upper = lower.overlaid upper := by
  rw [overlaid_assoc lowerKeyed upperKeyed upperKeyed, overlaid_self upperKeyed]
  rintro path below above ⟨_, ⟨value, reached, plain⟩, onTop⟩
  rw [onTop] at reached
  cases reached
  cases plain

end Table

/-! ## The base as its own overlay -/

namespace SettingsStore

variable {store : SettingsStore}

/-- A named file that is there is read. -/
theorem readNamed_of_file {directory : FilePath} {name : Text} {content : ByteArray}
    (relative : FilePath.isAbsolute (name ++ ".toml".toList) = false)
    (found : store.files.find (directory ++ FilePath.ofText (name ++ ".toml".toList)) =
      .file content) :
    store.readNamed directory name = (Toml.readBytes content).mapError .unreadable := by
  unfold readNamed
  simp only [relative, Bool.false_eq_true, if_false, found, readFound]

/-- With the base in the place of the overlay, what is loaded is the base. -/
theorem loadConfig_of_default
    (named : store.environment.get? environmentVariable = some "default".toList) :
    store.loadConfig =
      store.directory >>= fun directory => store.readNamed directory "default".toList := by
  have overlay : store.environmentName = "default".toList := by
    rw [environmentName, named]
    rfl
  unfold loadConfig
  rw [overlay]
  cases store.directory with
  | error fault => rfl
  | ok directory =>
      cases base : store.readNamed directory "default".toList with
      | error fault => simp only [bind, Except.bind, base]
      | ok table =>
          have keyed := (holds_iff.mpr base).keyed
          simp only [bind, Except.bind, base, pure, Except.pure, Table.overlaid_empty keyed.nodup,
            Table.overlaid_self keyed]

/-- If the environment in use is that of the default file, the configuration is what the file holds.
-/
theorem loadConfig_of_default_file {directory : FilePath} {content : ByteArray}
    (named : store.environment.get? environmentVariable = some "default".toList)
    (found : store.directory = .ok directory)
    (file : store.files.find (directory ++ FilePath.ofText "default.toml".toList) =
      .file content) :
    store.loadConfig = (Toml.readBytes content).mapError .unreadable := by
  rw [loadConfig_of_default named, found]
  exact readNamed_of_file rfl file

end SettingsStore

/-- **The laws of layers.** The empty table is neutral, a table laid over itself is itself, a table
that has been laid over another may be laid over it again, and three layers may be put together in
either grouping if nowhere a table below and a table above are kept apart by something else. All of
this goes for the order of keys, too. So an environment that is named like the base loads the base,
which is what its file holds, whatever that is. -/
theorem overlaid_algebra :
    (∀ table : Table, table.Keyed → Table.overlaid [] table = table ∧
      table.overlaid [] = table ∧ table.overlaid table = table) ∧
    (∀ lower upper : Table, lower.Keyed → upper.Keyed →
      (lower.overlaid upper).overlaid upper = lower.overlaid upper) ∧
    (∀ lower middle upper : Table, lower.Keyed → middle.Keyed → upper.Keyed →
      (∀ path below above, ¬Table.Severed lower middle upper path below above) →
      (lower.overlaid middle).overlaid upper = lower.overlaid (middle.overlaid upper)) ∧
    ∀ store : SettingsStore,
      store.environment.get? SettingsStore.environmentVariable = some "default".toList →
      store.loadConfig =
        (store.directory >>= fun directory => store.readNamed directory "default".toList) ∧
      ∀ directory content, store.directory = .ok directory →
        store.files.find (directory ++ FilePath.ofText "default.toml".toList) = .file content →
        store.loadConfig = (Toml.readBytes content).mapError .unreadable := by
  refine ⟨?_, ?_, ?_, ?_⟩
  · intro table keyed
    exact ⟨Table.overlaid_empty keyed.nodup, rfl, Table.overlaid_self keyed⟩
  · intro lower upper lowerKeyed upperKeyed
    exact Table.overlaid_again lowerKeyed upperKeyed
  · intro lower middle upper lowerKeyed middleKeyed upperKeyed together
    apply (Table.overlaid_assoc_iff lowerKeyed middleKeyed upperKeyed).mpr
    intro path below above severed
    exact absurd severed (together path below above)
  · intro store named
    refine ⟨SettingsStore.loadConfig_of_default named, ?_⟩
    intro directory content found file
    exact SettingsStore.loadConfig_of_default_file named found file

/-- A base of two tables, one in the other, in bytes. -/
def nestedBase : ByteArray :=
  ⟨#[0x62, 0x3D, 0x27, 0x27, 0x0A, 0x5B, 0x61, 0x5D, 0x0A, 0x62, 0x3D, 0x27, 0x27]⟩

/-- A store in which the base is its own overlay. -/
def baseOnly : SettingsStore where
  files := Files.empty.write "config/default.toml".toList (.file nestedBase)
  environment := ⟨[(SettingsStore.environmentVariable, "default".toList)]⟩

theorem overlaid_algebra_of_nested :
    let lower : Table := [(['a'], .table [(['x'], .integer 1)]), (['b'], .text ['s'])]
    let middle : Table := [(['b'], .table [(['p'], .integer 2)]), (['a'], .table [(['y'], .null)])]
    let upper : Table := [(['c'], .null), (['a'], .table [(['x'], .table [])])]
    lower.Keyed ∧ middle.Keyed ∧ upper.Keyed ∧
      (∀ path below above, ¬Table.Severed lower middle upper path below above) ∧
      Table.overlaid [] lower = lower ∧
      (lower.overlaid middle).overlaid middle = lower.overlaid middle ∧
      (lower.overlaid middle).overlaid upper = lower.overlaid (middle.overlaid upper) ∧
      baseOnly.loadConfig = .ok [(['b'], .text []), (['a'], .table [(['b'], .text [])])] := by
  intro lower middle upper
  have lowerKeyed : lower.Keyed := by simp [lower, Table.Keyed, Value.Keyed, Table.keys]
  have middleKeyed : middle.Keyed := by simp [middle, Table.Keyed, Value.Keyed, Table.keys]
  have upperKeyed : upper.Keyed := by simp [upper, Table.Keyed, Value.Keyed, Table.keys]
  have together : ∀ path below above, ¬Table.Severed lower middle upper path below above := by
    rintro (_ | ⟨key, path⟩) below above severed
    · exact Table.not_severed_nil severed
    · obtain ⟨there, ⟨value, between, plain⟩, onTop⟩ := severed
      by_cases shared : key = ['a']
      · subst shared
        cases path with
        | nil =>
            cases between
            cases plain
        | cons next path =>
            have inner : Table.at? [(['y'], .null)] (next :: path) = some value := between
            have outer : Table.at? [(['x'], .table [])] (next :: path) = some (.table above) := onTop
            rw [Table.at?_cons, Table.get?_cons, Table.get?_nil] at inner outer
            by_cases named : next = ['y'] <;> simp [named] at inner outer
      · by_cases text : key = ['b']
        · subst text
          cases onTop
        · simp [lower, Table.at?_cons, Table.get?_cons, Table.get?_nil, shared, text] at there
  have content : Toml.readBytes nestedBase =
      .ok [(['b'], .text []), (['a'], .table [(['b'], .text [])])] := by decide +kernel
  obtain ⟨neutral, again, grouped, based⟩ := overlaid_algebra
  refine ⟨lowerKeyed, middleKeyed, upperKeyed, together, (neutral lower lowerKeyed).1,
    again lower middle lowerKeyed middleKeyed,
    grouped lower middle upper lowerKeyed middleKeyed upperKeyed together, ?_⟩
  rw [(based baseOnly rfl).2 ["config".toList] nestedBase rfl rfl, content]
  rfl

end UriEndpoint
