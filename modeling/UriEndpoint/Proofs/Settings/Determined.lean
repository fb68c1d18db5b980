import UriEndpoint.Proofs.Settings.Precedence
import UriEndpoint.Proofs.Toml.DistinctKeys

/-! # What files and an environment determine

A description of loading that does not mention the store. The environment names a directory, two
files of it are read, and from what they hold and the layer that the environment gives the settings
are read, each from the first of the layers that has it. Each step may fail instead, and then its
fault is what is determined. The store loads what is determined, and nothing else
(`determines_iff`).
-/

namespace UriEndpoint

namespace SettingsStore

variable {files : Files} {environment : Environment}

/-! ## Files -/

/-- The directory of configuration that an environment names, or why it cannot be had. -/
inductive Directs (files : Files) (environment : Environment) :
    Except SettingsFault FilePath → Prop
  | unset (unset : environment.get? directoryVariable = none) :
      Directs files environment (.ok ["config".toList])
  | empty (empty : environment.get? directoryVariable = some []) :
      Directs files environment (.ok ["config".toList])
  | there {configured : Text} (given : environment.get? directoryVariable = some configured)
      (named : configured ≠ []) (found : files.find (FilePath.ofText configured) = .directory) :
      Directs files environment (.ok (FilePath.ofText configured))
  | tooLong {configured : Text} (given : environment.get? directoryVariable = some configured)
      (named : configured ≠ []) (found : files.find (FilePath.ofText configured) = .tooLong) :
      Directs files environment (.error .pathTooLong)
  | missing {configured : Text} (given : environment.get? directoryVariable = some configured)
      (named : configured ≠ []) (elsewhere : files.find (FilePath.ofText configured) ≠ .directory)
      (short : files.find (FilePath.ofText configured) ≠ .tooLong) :
      Directs files environment (.error (.noDirectory configured))

/-- The path of a file of configuration, which an absolute name leads out of the directory. -/
def configPath (directory : FilePath) (name : Text) : FilePath :=
  if FilePath.isAbsolute (name ++ ".toml".toList) then FilePath.ofText (name ++ ".toml".toList)
  else directory ++ FilePath.ofText (name ++ ".toml".toList)

/-- The table that a file of configuration holds, or why it cannot be read. A file that is missing
holds nothing. -/
inductive Holds (files : Files) (directory : FilePath) (name : Text) :
    Except SettingsFault Table → Prop
  | table {content : ByteArray} {table : Table}
      (found : files.find (configPath directory name) = .file content)
      (read : Toml.readBytes content = .ok table) : Holds files directory name (.ok table)
  | unreadable {content : ByteArray} {fault : Toml.ReadFault}
      (found : files.find (configPath directory name) = .file content)
      (unread : Toml.readBytes content = .error fault) :
      Holds files directory name (.error (.unreadable fault))
  | tooLong (found : files.find (configPath directory name) = .tooLong) :
      Holds files directory name (.error .pathTooLong)
  | missing (noFile : ∀ content, files.find (configPath directory name) ≠ .file content)
      (short : files.find (configPath directory name) ≠ .tooLong) :
      Holds files directory name (.ok [])

/-- The two tables that the files hold: that of every environment, and that of the one in use. -/
inductive Tables (files : Files) (environment : Environment) (base overlay : Table) : Prop
  | intro {directory : FilePath} (directed : Directs files environment (.ok directory))
      (below : Holds files directory "default".toList (.ok base))
      (above : Holds files directory
        ((environment.get? environmentVariable).getD "development".toList) (.ok overlay))

/-- Why the files cannot be read: the first fault of the directory, the base and the overlay. -/
inductive Unread (files : Files) (environment : Environment) (fault : SettingsFault) : Prop
  | directory (failed : Directs files environment (.error fault))
  | base {directory : FilePath} (directed : Directs files environment (.ok directory))
      (failed : Holds files directory "default".toList (.error fault))
  | overlay {directory : FilePath} {base : Table}
      (directed : Directs files environment (.ok directory))
      (read : Holds files directory "default".toList (.ok base))
      (failed : Holds files directory
        ((environment.get? environmentVariable).getD "development".toList) (.error fault))

/-! ## Settings -/

/-- The settings that are read from the layer of an environment and two tables below it: each value
from the first layer that has it, and nothing but tables in the place of sections. -/
inductive Gives (environment : Environment) (base overlay : Table) (settings : Settings) : Prop
  | intro {layer : Table} (given : environment.layer = .ok layer)
      (sections : ∀ name ∈ Settings.sectionNames,
        OnlyTable ((Layers.ofTables [] layer overlay base).first? name))
      (read : settings.ReadFrom ((Layers.ofTables [] layer overlay base).first? "log_level".toList)
        (Layers.ofTables [] layer overlay base).field?)

/-- Why there are no settings: a fault of the environment, or issues of its layer over the tables. -/
inductive Refuses (environment : Environment) (base overlay : Table) : SettingsFault → Prop
  | environment {fault : EnvironmentFault} (failed : environment.layer = .error fault) :
      Refuses environment base overlay (.environment fault)
  | invalid {layer : Table} {issues : List Issue} (given : environment.layer = .ok layer)
      (refused : Settings.check (Settings.laidOver [] layer overlay base) = .error issues) :
      Refuses environment base overlay (.invalid issues)

/-- The settings that files and an environment determine, or the fault. -/
inductive Determines (files : Files) (environment : Environment) :
    Except SettingsFault Settings → Prop
  | unread {fault : SettingsFault} (unread : Unread files environment fault) :
      Determines files environment (.error fault)
  | refused {base overlay : Table} {fault : SettingsFault}
      (tables : Tables files environment base overlay)
      (refused : Refuses environment base overlay fault) :
      Determines files environment (.error fault)
  | given {base overlay : Table} {settings : Settings}
      (tables : Tables files environment base overlay)
      (given : Gives environment base overlay settings) :
      Determines files environment (.ok settings)

/-! ## What the store reads -/

variable {store : SettingsStore}

/-- The store reads the directory that its environment names. -/
theorem directs_iff {result : Except SettingsFault FilePath} :
    Directs store.files store.environment result ↔ store.directory = result := by
  constructor
  · rintro (unset | empty | ⟨given, named, found⟩ | ⟨given, named, found⟩ |
      ⟨given, named, elsewhere, short⟩)
    · rw [directory, unset]
    · rw [directory, empty]
    · rw [directory, given]
      simp [found]
    · rw [directory, given]
      simp [found]
    · rw [directory, given]
      simp
  · rintro rfl
    rw [directory]
    split
    · exact .unset ‹_›
    · exact .empty ‹_›
    · rename_i configured named given
      dsimp only
      split
      · exact .there given named ‹_›
      · exact .tooLong given named ‹_›
      · exact .missing given named ‹_› ‹_›

/-- A configuration file is looked for where its path leads. -/
theorem find_configPath (files : Files) (directory : FilePath) (name : Text) :
    files.find (configPath directory name) =
      files.find ((if FilePath.isAbsolute (name ++ ".toml".toList) then [] else directory) ++
        FilePath.ofText (name ++ ".toml".toList)) := by
  rw [configPath]
  split <;> rfl

/-- The store reads what the named file of a directory holds. -/
theorem holds_iff {directory : FilePath} {name : Text} {result : Except SettingsFault Table} :
    Holds store.files directory name result ↔ store.readNamed directory name = result := by
  rw [readNamed, ← find_configPath]
  constructor
  · rintro (⟨found, read⟩ | ⟨found, unread⟩ | found | ⟨noFile, short⟩)
    · rw [found, readFound, read]
      rfl
    · rw [found, readFound, unread]
      rfl
    · rw [found, readFound]
    · split
      · exact absurd ‹_› (noFile _)
      · exact absurd ‹_› short
      · rfl
  · rintro rfl
    split
    · rename_i content found
      rw [found, readFound]
      cases read : Toml.readBytes content with
      | error fault => exact .unreadable found read
      | ok table => exact .table found read
    · rename_i found
      rw [found, readFound]
      exact .tooLong found
    · exact .missing ‹_› ‹_›

/-- A file of configuration holds no key twice. -/
theorem Holds.keyed {directory : FilePath} {name : Text} {table : Table}
    (holds : Holds files directory name (.ok table)) : table.Keyed := by
  cases holds with
  | table _ read => exact Toml.keyed_of_readBytes read
  | missing => exact Table.keyed_nil

/-- A load of the configuration fails with the faults that files and environment determine. -/
theorem unread_iff {fault : SettingsFault} :
    Unread store.files store.environment fault ↔ store.loadConfig = .error fault := by
  rw [loadConfig, bind_eq_error_iff]
  simp only [bind_eq_error_iff, ← directs_iff, ← holds_iff]
  constructor
  · rintro (failed | ⟨directed, failed⟩ | ⟨directed, read, failed⟩)
    · exact .inl failed
    · exact .inr ⟨_, directed, .inl failed⟩
    · exact .inr ⟨_, directed, .inr ⟨_, read, .inl failed⟩⟩
  · rintro (failed | ⟨_, directed, failed | ⟨_, read, failed | ⟨_, _, done⟩⟩⟩)
    · exact .directory failed
    · exact .base directed failed
    · exact .overlay directed read failed
    · cases done

/-- A load of the configuration lays the two tables over each other that files and environment
determine. -/
theorem tables_iff {config : Table} :
    (∃ base overlay, Tables store.files store.environment base overlay ∧
      Table.overlaid (Table.overlaid [] base) overlay = config) ↔
      store.loadConfig = .ok config := by
  rw [loadConfig, bind_eq_ok_iff]
  simp only [bind_eq_ok_iff, ← directs_iff, ← holds_iff]
  constructor
  · rintro ⟨base, overlay, ⟨directed, below, above⟩, laid⟩
    exact ⟨_, directed, base, below, overlay, above, congrArg Except.ok laid⟩
  · rintro ⟨directory, directed, base, below, overlay, above, laid⟩
    exact ⟨base, overlay, ⟨directed, below, above⟩, Except.ok.inj laid⟩

/-! ## What the store gives -/

/-- Settings are refused with the faults that the tables and the environment determine. -/
theorem refuses_iff {base overlay : Table} {fault : SettingsFault} :
    Refuses environment base overlay fault ↔
      Settings.ofLayers [] environment (Table.overlaid (Table.overlaid [] base) overlay) =
        .error fault := by
  rw [Settings.ofLayers, bind_eq_error_iff]
  simp only [mapError_eq_error_iff, mapError_eq_ok_iff]
  constructor
  · rintro (failed | ⟨given, refused⟩)
    · exact .inl ⟨_, failed, rfl⟩
    · exact .inr ⟨_, given, _, refused, rfl⟩
  · rintro (⟨_, failed, rfl⟩ | ⟨_, given, _, refused, rfl⟩)
    · exact .environment failed
    · exact .invalid given refused

/-- Settings come out as the tables and the environment determine. -/
theorem gives_iff {base overlay : Table} {settings : Settings}
    (tables : Tables files environment base overlay) :
    Gives environment base overlay settings ↔
      Settings.ofLayers [] environment (Table.overlaid (Table.overlaid [] base) overlay) =
        .ok settings := by
  obtain ⟨_, below, above⟩ := tables
  rw [Settings.ofLayers, bind_eq_ok_iff]
  simp only [mapError_eq_ok_iff]
  have read {layer : Table} (given : environment.layer = .ok layer) :=
    Settings.ofTables_eq_ok_iff (Table.Keyed.distinct Table.keyed_nil)
      (Environment.distinct_layer given) above.keyed.distinct below.keyed.distinct settings
  constructor
  · rintro ⟨given, sections, fields⟩
    exact ⟨_, given, (read given).mpr ⟨sections, fields⟩⟩
  · rintro ⟨layer, given, made⟩
    obtain ⟨sections, fields⟩ := (read given).mp made
    exact ⟨given, sections, fields⟩

/-- **Loading gives what files and environment determine**: the settings read from the two files and
the layer of the environment, or the first fault on the way. -/
theorem determines_iff {result : Except SettingsFault Settings} :
    Determines store.files store.environment result ↔
      (store.loadConfig >>= fun config => Settings.ofLayers [] store.environment config) =
        result := by
  constructor
  · rintro (unread | ⟨tables, refused⟩ | ⟨tables, given⟩)
    · rw [unread_iff.mp unread]
      rfl
    · rw [tables_iff.mp ⟨_, _, tables, rfl⟩]
      exact refuses_iff.mp refused
    · rw [tables_iff.mp ⟨_, _, tables, rfl⟩]
      exact (gives_iff tables).mp given
  · rintro rfl
    cases loaded : store.loadConfig with
    | error fault => exact .unread (unread_iff.mpr loaded)
    | ok config =>
        obtain ⟨base, overlay, tables, rfl⟩ := tables_iff.mpr loaded
        change Determines _ _ (Settings.ofLayers [] store.environment _)
        cases made : Settings.ofLayers [] store.environment
          (Table.overlaid (Table.overlaid [] base) overlay) with
        | error fault => exact .refused tables (refuses_iff.mpr made)
        | ok settings => exact .given tables ((gives_iff tables).mpr made)

end SettingsStore

end UriEndpoint
