import UriEndpoint.Settings.Environment
import UriEndpoint.Settings.Files
import UriEndpoint.Settings.Section
import UriEndpoint.Toml.Reader

/-!
# The settings store

Settings come from four layers: what a caller passes, the environment, the loaded configuration and
the defaults. The configuration is read from two files, one for every environment and an overlay for
the one in use. The store keeps the configuration last loaded or set, and the settings last loaded,
which it hands out until it is told to reload. A load that fails leaves nothing to hand out; it
leaves the configuration alone when the files could not be read.
-/

namespace UriEndpoint

/-- Why settings, or a part of what they are made from, cannot be had. -/
inductive SettingsFault where
  /-- The directory that the environment names for configuration does not exist. -/
  | noDirectory (configured : Text)
  | noFile
  | isDirectory
  | notDirectory
  /-- A path, or a name in it, is longer than any may be. -/
  | pathTooLong
  | unreadable (fault : Toml.ReadFault)
  | environment (fault : EnvironmentFault)
  | invalid (issues : List Issue)
deriving DecidableEq, Repr

/-- A missing directory in words; other faults have no words of their own here. -/
def SettingsFault.message : SettingsFault → Text
  | noDirectory configured => "Config directory not found: ".toList ++ configured
  | environment fault => fault.message
  | _ => []

namespace Settings

/-- The settings that three tables give, each laid over the next. -/
def ofTables (passed layer config : Table) : Checked Settings :=
  check (config.overlaid (layer.overlaid passed))

/-- The names of the settings and their sections. -/
def fieldNames : List Text := ["log_level", "logging", "http", "decode"].map String.toList

/-- A caller's table with the names of settings in place of names that differ in case; of names that
fall together the first counts. -/
def named (passed : Table) : Table :=
  Table.fillAll [] <| passed.map fun entry =>
    ((fieldNames.find? fun name => name == entry.1.lowercase).getD entry.1, entry.2)

/-- The settings that a caller's table gives over the environment and the configuration. -/
def ofLayers (passed : Table) (environment : Environment) (config : Table) :
    Except SettingsFault Settings := do
  let layer ← environment.layer.mapError .environment
  (ofTables (named passed) layer config).mapError .invalid

end Settings

/-- Settings as handed out; two loads never hand out the same identity. -/
structure LoadedSettings where
  identity : Nat
  settings : Settings

/-- The state that settings are made from, and the settings last loaded. -/
structure SettingsStore where
  files : Files := {}
  environment : Environment := {}
  config : Table := []
  cached : Option LoadedSettings := none
  issued : Nat := 0

namespace SettingsStore

/-- The variable that names the directory of configuration files. -/
def directoryVariable : Text := "APITEMPLATE_CONFIG_DIR".toList

/-- The variable that names the environment in use. -/
def environmentVariable : Text := "APITEMPLATE_ENV".toList

/-- The store before anything was done. -/
def fresh : SettingsStore := {}

/-- The directory of configuration files. -/
def directory (store : SettingsStore) : Except SettingsFault FilePath :=
  match store.environment.get? directoryVariable with
  | none | some [] => .ok ["config".toList]
  | some configured =>
      let path := FilePath.ofText configured
      match store.files.find path with
      | .directory => .ok path
      | .tooLong => .error .pathTooLong
      | _ => .error (.noDirectory configured)

/-- The name of the environment in use. -/
def environmentName (store : SettingsStore) : Text :=
  (store.environment.get? environmentVariable).getD "development".toList

/-- The configuration in what was found at a path. -/
def readFound : Found → Except SettingsFault Table
  | .nothing => .error .noFile
  | .directory => .error .isDirectory
  | .notDirectory => .error .notDirectory
  | .tooLong => .error .pathTooLong
  | .file content => (Toml.readBytes content).mapError .unreadable

/-- The configuration in a file by its path as written. -/
def readPath (store : SettingsStore) (path : Text) : Except SettingsFault Table :=
  readFound (store.files.find (FilePath.ofText path))

/-- The configuration in a named file of a directory; a missing file gives none. -/
def readNamed (store : SettingsStore) (directory : FilePath) (name : Text) :
    Except SettingsFault Table :=
  let file := name ++ ".toml".toList
  let above := if FilePath.isAbsolute file then [] else directory
  let found := store.files.find (above ++ FilePath.ofText file)
  match found with
  | .file _ | .tooLong => readFound found
  | _ => .ok []

/-- The configuration in the files: that of every environment below that of the one in use. -/
def loadConfig (store : SettingsStore) : Except SettingsFault Table := do
  let directory ← store.directory
  let base ← store.readNamed directory "default".toList
  let overlay ← store.readNamed directory store.environmentName
  return Table.overlaid (Table.overlaid [] base) overlay

/-- What the configuration has under a name, the name, and whether that counts as found: a null
counts as nothing. -/
def field (store : SettingsStore) (name : Text) : Value × Text × Bool :=
  let value := (store.config.get? name).getD .null
  (value, name, !value.isNull)

/-- The settings that a caller's layer gives over the environment and the configuration. -/
def settingsWith (store : SettingsStore) (passed : Table) : Except SettingsFault Settings :=
  Settings.ofLayers passed store.environment store.config

/-- Loads the settings anew: the store afterwards, and the settings handed out. -/
def load (store : SettingsStore) : SettingsStore × Except SettingsFault LoadedSettings :=
  match store.loadConfig with
  | .error fault => ({ store with cached := none }, .error fault)
  | .ok config =>
      match Settings.ofLayers [] store.environment config with
      | .error fault => ({ store with config, cached := none }, .error fault)
      | .ok settings =>
          let loaded : LoadedSettings := ⟨store.issued + 1, settings⟩
          ({ store with config, cached := some loaded, issued := store.issued + 1 }, .ok loaded)

/-- Hands out the settings last loaded, or loads them. -/
def get (store : SettingsStore) : SettingsStore × Except SettingsFault LoadedSettings :=
  match store.cached with
  | some loaded => (store, .ok loaded)
  | none => store.load

/-- Forgets the settings last loaded and loads them anew. -/
def reload (store : SettingsStore) : SettingsStore × Except SettingsFault LoadedSettings :=
  get { store with cached := none }

end SettingsStore

/-- A step in the life of a settings store. -/
inductive SettingsStep where
  /-- Writes a file, or makes a directory. -/
  | write (path : Text) (entry : FileEntry)
  | remove (path : Text)
  | setVariable (name value : Text)
  | unsetVariable (name : Text)
  | setConfig (config : Table)
  /-- Makes settings with a layer on top, without the files. -/
  | make (passed : Table)
  | get
  | reload

/-- What a step gives. -/
inductive SettingsOutcome where
  | done
  | made (result : Except SettingsFault Settings)
  | loaded (result : Except SettingsFault LoadedSettings)

namespace SettingsStore

/-- Takes one step. -/
def step (store : SettingsStore) : SettingsStep → SettingsStore × SettingsOutcome
  | .write path entry => ({ store with files := store.files.write path entry }, .done)
  | .remove path => ({ store with files := store.files.remove path }, .done)
  | .setVariable name value =>
      ({ store with environment := store.environment.set name value }, .done)
  | .unsetVariable name => ({ store with environment := store.environment.unset name }, .done)
  | .setConfig config => ({ store with config }, .done)
  | .make passed => (store, .made (store.settingsWith passed))
  | .get => let (next, result) := store.get; (next, .loaded result)
  | .reload => let (next, result) := store.reload; (next, .loaded result)

/-- Takes steps one after another. -/
def run (store : SettingsStore) (steps : List SettingsStep) : SettingsStore :=
  steps.foldl (fun store next => (store.step next).1) store

end SettingsStore

end UriEndpoint
