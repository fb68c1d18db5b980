import Mathlib.Data.List.Induction
import UriEndpoint.Proofs.Settings.Determined
import UriEndpoint.Proofs.Settings.LayerOrder
import UriEndpoint.Proofs.Value.Equality

/-! # The settings that a store hands out

What a store loads is what the files and the environment determine as they are (`Determines`), and
nothing that was done before changes it. What it has loaded it hands out until it is told to reload,
or a reload fails. So the settings at hand are always those of the last load, made from what the files
and the environment were then. Files are the same if they have the same at every path, and
environments if they have the same variables; only variables for settings whose names agree in lower
case must come in the same order, since of these the last counts (`Environment.Same`).
-/

namespace UriEndpoint

namespace Files

/-- Two collections of files have the same at every path. -/
def Same (first second : Files) : Prop := ∀ path, first.at? path = second.at? path

variable {first second : Files}

theorem Same.walk_eq (same : first.Same second) (here names : FilePath) :
    first.walk here names = second.walk here names := by
  induction names generalizing here with
  | nil => rfl
  | cons name rest ih =>
      unfold walk
      simp only [same (here ++ [name]), ih]

/-- The same is found at every path of files that are the same. -/
theorem Same.find_eq (same : first.Same second) (path : FilePath) :
    first.find path = second.find path := by
  rw [find, find, same.walk_eq]

end Files

namespace SettingsStore

variable {store : SettingsStore}

/-- A store that has loaded nothing yet. -/
def started (files : Files) (environment : Environment) : SettingsStore := { files, environment }

/-! ## What a load depends on -/

/-- The configuration depends on the files and on the values of variables. -/
theorem loadConfig_congr {first second : SettingsStore} (files : first.files.Same second.files)
    (values : ∀ name, first.environment.get? name = second.environment.get? name) :
    first.loadConfig = second.loadConfig := by
  have named (directory : FilePath) (name : Text) :
      first.readNamed directory name = second.readNamed directory name := by
    simp only [readNamed, files.find_eq]
  have directories : first.directory = second.directory := by
    simp only [directory, values, files.find_eq]
  have names : first.environmentName = second.environmentName := by
    rw [environmentName, environmentName, values]
  simp only [loadConfig, directories, named, names]

/-! ## How a load ends -/

/-- A load ends in one of three ways. -/
inductive LoadEnds (store : SettingsStore) :
    SettingsStore × Except SettingsFault LoadedSettings → Prop
  | unread {fault : SettingsFault} (unread : store.loadConfig = .error fault) :
      LoadEnds store ({ store with cached := none }, .error fault)
  | refused {config : Table} {fault : SettingsFault} (read : store.loadConfig = .ok config)
      (refused : Settings.ofLayers [] store.environment config = .error fault) :
      LoadEnds store ({ store with config, cached := none }, .error fault)
  | loaded {config : Table} {settings : Settings} (read : store.loadConfig = .ok config)
      (made : Settings.ofLayers [] store.environment config = .ok settings) :
      LoadEnds store
        ({ store with
            config
            cached := some ⟨store.issued + 1, settings⟩
            issued := store.issued + 1 },
          .ok ⟨store.issued + 1, settings⟩)

/-- A load has one of three ends. -/
theorem loadEnds (store : SettingsStore) : LoadEnds store store.load := by
  rw [load]
  split
  · next fault unread => exact .unread unread
  · next config read =>
      split
      · next fault refused => exact .refused read refused
      · next settings made => exact .loaded read made

/-- What was handed out before has no part in a reload. -/
theorem reload_eq_load (store : SettingsStore) : store.reload = store.load := by
  change load { store with cached := none } = load store
  rw [load, load]
  rfl

theorem get_of_cached {loaded : LoadedSettings} (cached : store.cached = some loaded) :
    store.get = (store, .ok loaded) := by
  rw [get, cached]

/-- A store that holds nothing loads. -/
theorem get_of_none (nothing : store.cached = none) : store.get = store.load := by
  rw [get, nothing]

/-- A load hands out the settings of the configuration that it reads. -/
theorem map_settings_load (store : SettingsStore) :
    store.load.2.map LoadedSettings.settings =
      store.loadConfig >>= fun config => Settings.ofLayers [] store.environment config := by
  have ends := store.loadEnds
  generalize store.load = ended at ends ⊢
  cases ends with
  | unread unread => rw [unread]; rfl
  | refused read refused => rw [read]; exact refused.symm
  | loaded read made => rw [read]; exact made.symm

/-- A load gives what the files and the environment determine. -/
theorem map_settings_load_iff {result : Except SettingsFault Settings} :
    store.load.2.map LoadedSettings.settings = result ↔
      Determines store.files store.environment result := by
  rw [map_settings_load, determines_iff]

/-- From the same files and the same variables the same is loaded. -/
theorem map_settings_load_congr {first second : SettingsStore}
    (files : first.files.Same second.files) (same : first.environment.Same second.environment) :
    first.load.2.map LoadedSettings.settings = second.load.2.map LoadedSettings.settings := by
  simp only [map_settings_load, loadConfig_congr files same.values, same.ofLayers_eq]

/-- After a load the store holds the settings that were loaded, or nothing. -/
theorem cached_load (store : SettingsStore) : store.load.1.cached = store.load.2.toOption := by
  have ends := store.loadEnds
  generalize store.load = ended at ends ⊢
  cases ends <;> rfl

/-- A load that hands out settings gives them a number of their own. -/
theorem issued_load (store : SettingsStore) :
    store.issued ≤ store.load.1.issued ∧
      ∀ loaded, store.load.2 = .ok loaded →
        loaded.identity = store.issued + 1 ∧ store.load.1.issued = store.issued + 1 := by
  have ends := store.loadEnds
  generalize store.load = ended at ends ⊢
  cases ends with
  | unread _ => exact ⟨Nat.le_refl _, fun loaded failed => by cases failed⟩
  | refused _ _ => exact ⟨Nat.le_refl _, fun loaded failed => by cases failed⟩
  | loaded _ _ =>
      refine ⟨Nat.le_succ _, fun loaded done => ?_⟩
      cases done
      exact ⟨rfl, rfl⟩

/-- How a load that fails leaves the store: with nothing to hand out, and with the configuration as
it was if the files could not be read, else as it was read. -/
inductive Fails (store : SettingsStore) (fault : SettingsFault) : SettingsStore → Prop
  | unread (unread : Unread store.files store.environment fault) :
      Fails store fault { store with cached := none }
  | refused {base overlay : Table} (tables : Tables store.files store.environment base overlay)
      (refused : Refuses store.environment base overlay fault) :
      Fails store fault
        { store with config := Table.overlaid (Table.overlaid [] base) overlay, cached := none }

/-- A load that fails without reading the files leaves the configuration. -/
theorem Fails.eq_of_unread {fault other : SettingsFault} {next : SettingsStore}
    (fails : store.Fails fault next) (unread : store.loadConfig = .error other) :
    next = { store with cached := none } := by
  cases fails with
  | unread _ => rfl
  | refused tables _ =>
      have read := tables_iff.mp ⟨_, _, tables, rfl⟩
      rw [unread] at read
      cases read

/-- A load that fails after reading the files leaves the configuration that was read. -/
theorem Fails.eq_of_read {fault : SettingsFault} {next : SettingsStore} {config : Table}
    (fails : store.Fails fault next) (read : store.loadConfig = .ok config) :
    next = { store with config, cached := none } := by
  cases fails with
  | unread unread =>
      rw [unread_iff.mp unread] at read
      cases read
  | refused tables _ =>
      rw [tables_iff.mp ⟨_, _, tables, rfl⟩] at read
      rw [Except.ok.inj read]

/-- A load that reports a fault leaves the store as that fault does. -/
theorem fails_load {fault : SettingsFault} (failed : store.load.2 = .error fault) :
    store.Fails fault store.load.1 := by
  have ends := store.loadEnds
  generalize store.load = ended at ends failed ⊢
  cases ends with
  | unread unread =>
      cases failed
      exact .unread (unread_iff.mpr unread)
  | refused read refused =>
      cases failed
      obtain ⟨base, overlay, tables, rfl⟩ := tables_iff.mpr read
      exact .refused tables (refuses_iff.mpr refused)
  | loaded _ _ => cases failed

/-- What a store holds is handed out without a fault, so a fault is that of a load. -/
theorem fails_get {fault : SettingsFault} (failed : store.get.2 = .error fault) :
    store.Fails fault store.get.1 := by
  cases cached : store.cached with
  | none =>
      rw [get_of_none cached] at failed ⊢
      exact fails_load failed
  | some loaded =>
      rw [get_of_cached cached] at failed
      cases failed

end SettingsStore

/-- What a step hands out or fails to, if it is a get or a reload. -/
def SettingsOutcome.loaded? : SettingsOutcome → Option (Except SettingsFault LoadedSettings)
  | loaded result => some result
  | _ => none

namespace SettingsStore

variable {store : SettingsStore}

/-- A step loads if it is a reload, or a get with nothing at hand. -/
def Loads (store : SettingsStore) (next : SettingsStep) : Prop :=
  next = .reload ∨ next = .get ∧ store.cached = none

/-- A step loads, hands out what is at hand, or does neither. -/
inductive StepEnds (store : SettingsStore) (next : SettingsStep) :
    SettingsStore × SettingsOutcome → Prop
  | loads (loads : store.Loads next) :
      StepEnds store next (store.load.1, .loaded store.load.2)
  | handsOut {loaded : LoadedSettings} (get : next = .get) (cached : store.cached = some loaded) :
      StepEnds store next (store, .loaded (.ok loaded))
  | other {changed : SettingsStore} {outcome : SettingsOutcome} (reload : next ≠ .reload)
      (cached : changed.cached = store.cached) (issued : changed.issued = store.issued)
      (done : outcome.loaded? = none) : StepEnds store next (changed, outcome)

/-- A step loads, or it leaves what the store holds alone. -/
theorem stepEnds (store : SettingsStore) (next : SettingsStep) :
    StepEnds store next (store.step next) := by
  cases next with
  | get =>
      change StepEnds store .get (store.get.1, .loaded store.get.2)
      cases cached : store.cached with
      | none =>
          rw [get_of_none cached]
          exact .loads (.inr ⟨rfl, cached⟩)
      | some loaded =>
          rw [get_of_cached cached]
          exact .handsOut rfl cached
  | reload =>
      change StepEnds store .reload (store.reload.1, .loaded store.reload.2)
      rw [reload_eq_load]
      exact .loads (.inl rfl)
  | _ => exact .other (fun same => by cases same) rfl rfl rfl

theorem run_cons (store : SettingsStore) (next : SettingsStep) (rest : List SettingsStep) :
    store.run (next :: rest) = (store.step next).1.run rest := rfl

theorem run_get (store : SettingsStore) (rest : List SettingsStep) :
    store.run (.get :: rest) = store.get.1.run rest := rfl

theorem run_append (store : SettingsStore) (before after : List SettingsStep) :
    store.run (before ++ after) = (store.run before).run after :=
  List.foldl_append

/-- What the steps of a run give, one after another. -/
def outcomes (store : SettingsStore) : List SettingsStep → List SettingsOutcome
  | [] => []
  | next :: rest => (store.step next).2 :: (store.step next).1.outcomes rest

/-- What the last get or reload of a run gave, if there was one. -/
def lastLoaded? (outcomes : List SettingsOutcome) :
    Option (Except SettingsFault LoadedSettings) :=
  (outcomes.filterMap SettingsOutcome.loaded?).getLast?

/-- After a get or a reload the settings at hand are those it gave; other steps leave them. -/
theorem cached_step (store : SettingsStore) (next : SettingsStep) :
    (store.step next).1.cached =
      ((store.step next).2.loaded?).elim store.cached Except.toOption := by
  have ends := store.stepEnds next
  generalize store.step next = ended at ends ⊢
  cases ends with
  | loads loads => exact store.cached_load
  | handsOut get cached => exact cached
  | other reload cached issued done => rw [cached, done, Option.elim_none]

/-- What a store holds after a run is what was last loaded in it, or what it held before. -/
theorem cached_run (store : SettingsStore) (steps : List SettingsStep) :
    (store.run steps).cached =
      (lastLoaded? (store.outcomes steps)).elim store.cached Except.toOption := by
  induction steps generalizing store with
  | nil => rfl
  | cons next rest ih =>
      rw [run_cons, ih, cached_step, outcomes, lastLoaded?, lastLoaded?]
      cases handed : (store.step next).2.loaded? with
      | none => rw [List.filterMap_cons_none handed, Option.elim_none]
      | some result =>
          rw [List.filterMap_cons_some handed, List.getLast?_cons]
          cases (((store.step next).1.outcomes rest).filterMap
            SettingsOutcome.loaded?).getLast? <;> rfl

/-- Only a reload takes away what a store holds. -/
theorem cached_step_of_cached {loaded : LoadedSettings} (cached : store.cached = some loaded)
    {next : SettingsStep} (kept : next ≠ .reload) :
    (store.step next).1.cached = some loaded := by
  have ends := store.stepEnds next
  generalize store.step next = ended at ends ⊢
  cases ends with
  | loads loads =>
      rcases loads with reload | ⟨_, nothing⟩
      · exact absurd reload kept
      · rw [cached] at nothing
        cases nothing
  | handsOut _ _ => exact cached
  | other _ same _ _ => exact same.trans cached

/-- Without a reload a store holds on to its settings. -/
theorem cached_run_of_cached {loaded : LoadedSettings} (cached : store.cached = some loaded)
    {later : List SettingsStep} (kept : .reload ∉ later) :
    (store.run later).cached = some loaded := by
  induction later generalizing store with
  | nil => exact cached
  | cons next rest ih =>
      rw [List.mem_cons, not_or] at kept
      exact ih (cached_step_of_cached cached (Ne.symm kept.1)) kept.2

/-- The step of a run at which settings were loaded that have been at hand ever since. -/
structure LoadedBy (start : SettingsStore) (loaded : LoadedSettings)
    (before : List SettingsStep) (next : SettingsStep) (after : List SettingsStep) : Prop where
  loads : (start.run before).Loads next
  outcome : ((start.run before).step next).2 = .loaded (.ok loaded)
  settings : Determines (start.run before).files (start.run before).environment
    (.ok loaded.settings)
  kept : .reload ∉ after

/-- A step that loads settings is the step that they were loaded by. -/
theorem loadedBy_of_load {start : SettingsStore} {loaded : LoadedSettings}
    {before : List SettingsStep} {next : SettingsStep} (loads : (start.run before).Loads next)
    (step : (start.run before).step next =
      ((start.run before).load.1, .loaded (start.run before).load.2))
    (done : (start.run before).load.2 = .ok loaded) :
    LoadedBy start loaded before next [] where
  loads := loads
  outcome := by rw [step, done]
  settings := map_settings_load_iff.mp (by rw [done]; rfl)
  kept := List.not_mem_nil

/-- Settings stay those of one load until the next reload. -/
theorem LoadedBy.snoc {start : SettingsStore} {loaded : LoadedSettings}
    {before : List SettingsStep} {next : SettingsStep} {after : List SettingsStep}
    (loadedBy : LoadedBy start loaded before next after) {last : SettingsStep}
    (kept : last ≠ .reload) : LoadedBy start loaded before next (after ++ [last]) where
  loads := loadedBy.loads
  outcome := loadedBy.outcome
  settings := loadedBy.settings
  kept := by
    rw [List.mem_append, not_or, List.mem_singleton]
    exact ⟨loadedBy.kept, Ne.symm kept⟩

theorem eq_ok_of_toOption {ε α : Type} {result : Except ε α} {value : α}
    (found : result.toOption = some value) : result = .ok value := by
  cases result with
  | error fault => cases found
  | ok other => exact congrArg Except.ok (Option.some.inj found)

/-- Settings at hand have been loaded by some step, and not been let go since. -/
theorem exists_loadedBy {start : SettingsStore} (nothing : start.cached = none)
    {steps : List SettingsStep} {loaded : LoadedSettings}
    (cached : (start.run steps).cached = some loaded) :
    ∃ before next after, steps = before ++ next :: after ∧
      LoadedBy start loaded before next after := by
  induction steps using List.reverseRecOn with
  | nil =>
      change start.cached = some loaded at cached
      rw [nothing] at cached
      cases cached
  | append_singleton steps last ih =>
      rw [run_append] at cached
      change ((start.run steps).step last).1.cached = some loaded at cached
      -- A step that does not load has left the settings where the run before it had them.
      have earlier (kept : last ≠ .reload) (same : (start.run steps).cached = some loaded) :
          ∃ before next after, steps ++ [last] = before ++ next :: after ∧
            LoadedBy start loaded before next after := by
        obtain ⟨before, next, after, whole, loadedBy⟩ := ih same
        refine ⟨before, next, after ++ [last], ?_, loadedBy.snoc kept⟩
        rw [whole, List.append_assoc, List.cons_append]
      have ends := (start.run steps).stepEnds last
      generalize taken : (start.run steps).step last = ended at ends cached
      cases ends with
      | loads loads =>
          have done : (start.run steps).load.2 = .ok loaded := by
            rw [cached_load] at cached
            exact eq_ok_of_toOption cached
          exact ⟨steps, last, [], rfl, loadedBy_of_load loads taken done⟩
      | handsOut get same => exact earlier (fun reload => by rw [get] at reload; cases reload) cached
      | other kept same _ _ => exact earlier kept (same.symm.trans cached)

/-! ## Numbers of settings -/

/-- The settings at hand have a number that has been given. -/
def Numbered (store : SettingsStore) : Prop :=
  ∀ loaded, store.cached = some loaded → loaded.identity ≤ store.issued

/-- A step takes back no number, and what it hands out bears one that was issued. -/
theorem numbered_step (numbered : store.Numbered) (next : SettingsStep) :
    store.issued ≤ (store.step next).1.issued ∧ (store.step next).1.Numbered ∧
      ∀ loaded, (store.step next).2 = .loaded (.ok loaded) →
        loaded.identity ≤ (store.step next).1.issued := by
  have ends := store.stepEnds next
  generalize store.step next = ended at ends ⊢
  cases ends with
  | loads loads =>
      obtain ⟨more, given⟩ := store.issued_load
      have numbers (loaded : LoadedSettings) (done : store.load.2 = .ok loaded) :
          loaded.identity ≤ store.load.1.issued := by
        obtain ⟨identity, issued⟩ := given loaded done
        exact Nat.le_of_eq (identity.trans issued.symm)
      refine ⟨more, fun loaded cached => ?_, fun loaded done => ?_⟩
      · rw [cached_load] at cached
        exact numbers loaded (eq_ok_of_toOption cached)
      · exact numbers loaded (SettingsOutcome.loaded.inj done)
  | handsOut get cached =>
      refine ⟨Nat.le_refl _, numbered, fun other done => ?_⟩
      cases done
      exact numbered _ cached
  | other kept cached issued done =>
      refine ⟨Nat.le_of_eq issued.symm, fun loaded found => ?_, fun loaded handed => ?_⟩
      · rw [issued]
        exact numbered loaded (cached.symm.trans found)
      · obtain rfl : _ = SettingsOutcome.loaded (.ok loaded) := handed
        cases done

/-- What a run has handed out has a number that has been given. -/
theorem numbered_run (numbered : store.Numbered) (steps : List SettingsStep) :
    store.issued ≤ (store.run steps).issued ∧
      ∀ loaded, .loaded (.ok loaded) ∈ store.outcomes steps →
        loaded.identity ≤ (store.run steps).issued := by
  induction steps generalizing store with
  | nil => exact ⟨Nat.le_refl _, fun loaded member => by cases member⟩
  | cons next rest ih =>
      obtain ⟨more, still, given⟩ := numbered_step numbered next
      obtain ⟨later, others⟩ := ih still
      rw [run_cons]
      refine ⟨Nat.le_trans more later, fun loaded member => ?_⟩
      rcases List.mem_cons.mp member with here | among
      · exact Nat.le_trans (given loaded here.symm) later
      · exact others loaded among

/-- **A store hands out the last load.** After any run, a reload gives what the files and the
environment determine as they are, as a new object, and so does a get with nothing at hand. A get
with settings at hand gives those and changes nothing, whatever is done before the next reload. A
load that fails leaves nothing at hand, and the configuration alone if the files could not be read.
What is at hand is what the last get or reload gave, made from what the files and the environment
were when it was loaded. -/
theorem store_hands_out_last_load (files : Files) (environment : Environment)
    (steps : List SettingsStep) :
    let start := started files environment
    let store := start.run steps
    (∀ result, store.reload.2.map LoadedSettings.settings = result ↔
      Determines store.files store.environment result) ∧
    (∀ loaded, store.reload.2 = .ok loaded →
      ∀ earlier, .loaded (.ok earlier) ∈ start.outcomes steps →
        earlier.identity < loaded.identity) ∧
    (store.cached = none → store.get = store.reload) ∧
    (∀ otherFiles otherEnvironment otherSteps,
      let other := (started otherFiles otherEnvironment).run otherSteps
      other.files.Same store.files → other.environment.Same store.environment →
        other.reload.2.map LoadedSettings.settings =
          store.reload.2.map LoadedSettings.settings) ∧
    (∀ loaded, store.cached = some loaded →
      store.get = (store, .ok loaded) ∧
      ∀ later, .reload ∉ later → (store.run later).get = (store.run later, .ok loaded)) ∧
    (∀ fault, store.get.2 = .error fault → store.Fails fault store.get.1) ∧
    (∀ fault, store.reload.2 = .error fault → store.Fails fault store.reload.1) ∧
    store.cached = (lastLoaded? (start.outcomes steps)).bind Except.toOption ∧
    ∀ loaded, store.cached = some loaded → ∃ before next after,
      steps = before ++ next :: after ∧ LoadedBy start loaded before next after := by
  intro start store
  refine ⟨fun result => ?_, ?_, ?_, ?_, ?_, fun fault => fails_get, ?_, ?_, ?_⟩
  · rw [reload_eq_load]
    exact map_settings_load_iff
  · intro loaded done earlier member
    have unnumbered : start.Numbered := fun loaded cached => by cases cached
    have given := (numbered_run unnumbered steps).2 earlier member
    rw [reload_eq_load] at done
    rw [(store.issued_load.2 loaded done).1]
    exact Nat.lt_succ_of_le given
  · intro nothing
    rw [get_of_none nothing, reload_eq_load]
  · intro otherFiles otherEnvironment otherSteps other files environments
    rw [reload_eq_load, reload_eq_load]
    exact map_settings_load_congr files environments
  · intro loaded cached
    refine ⟨get_of_cached cached, fun later kept => ?_⟩
    exact get_of_cached (cached_run_of_cached cached kept)
  · intro fault failed
    rw [reload_eq_load] at failed ⊢
    exact fails_load failed
  · change (start.run steps).cached = _
    rw [cached_run]
    cases lastLoaded? (start.outcomes steps) <;> rfl
  · intro loaded cached
    exact exists_loadedBy rfl cached

/-! ## A base that changes -/

/-- Without an overlay the configuration is what the base holds. -/
theorem loadConfig_of_base (content : ByteArray)
    (unset : store.environment.get? directoryVariable = none)
    (unnamed : store.environment.get? environmentVariable = none)
    (found : store.files.find (configPath ["config".toList] "default".toList) = .file content)
    (alone : store.files.find (configPath ["config".toList] "development".toList) = .nothing) :
    store.loadConfig = (Toml.readBytes content).mapError .unreadable := by
  have overlay : Holds store.files ["config".toList]
      ((store.environment.get? environmentVariable).getD "development".toList) (.ok []) := by
    rw [unnamed, Option.getD_none]
    exact .missing (fun _ => by rw [alone]; exact nofun) (by rw [alone]; exact nofun)
  cases read : Toml.readBytes content with
  | error fault => exact unread_iff.mp (.base (.unset unset) (.unreadable found read))
  | ok base =>
      have below : Holds store.files ["config".toList] "default".toList (.ok base) :=
        .table found read
      refine tables_iff.mp ⟨base, [], ⟨.unset unset, below, overlay⟩, ?_⟩
      rw [Table.overlaid_nil, Table.overlaid_empty below.keyed.nodup]

/-- The path of the base. -/
def basePath : Text := "config/default.toml".toList

/-- A base that asks for every line to be logged, in bytes. -/
def debugBase : ByteArray :=
  ⟨#[0x6C, 0x6F, 0x67, 0x5F, 0x6C, 0x65, 0x76, 0x65, 0x6C, 0x3D,
    0x27, 0x44, 0x45, 0x42, 0x55, 0x47, 0x27]⟩

/-- A base that breaks off after a key. -/
def brokenBase : ByteArray := ⟨#[0x78]⟩

/-- A base with a text in the place of a section. -/
def wrongBase : ByteArray := ⟨#[0x68, 0x74, 0x74, 0x70, 0x3D, 0x27, 0x27]⟩

theorem readBytes_debugBase :
    Toml.readBytes debugBase = .ok [("log_level".toList, .text "DEBUG".toList)] := by
  decide +kernel

theorem readBytes_wrongBase : Toml.readBytes wrongBase = .ok [("http".toList, .text [])] := by
  decide +kernel

/-- A store with a base alone. -/
def debugStore : SettingsStore :=
  started (Files.empty.write basePath (.file debugBase)) .empty

/-- The store when it has loaded from its base. -/
def debugLoaded : SettingsStore :=
  { debugStore with
    config := [("log_level".toList, .text "DEBUG".toList)]
    cached := some ⟨1, { logLevel := .debug }⟩
    issued := 1 }

/-- The first step of these runs is a load. -/
theorem run_debugStore (later : List SettingsStep) :
    debugStore.run (.get :: later) = debugLoaded.run later := by
  have config : debugStore.loadConfig = _ := loadConfig_of_base debugBase rfl rfl rfl rfl
  rw [readBytes_debugBase] at config
  rw [run_get, get_of_none rfl, load, config]
  rfl

/-- A base that is written anew is what the next load reads, while the last one is held. -/
theorem run_rewritten (content : ByteArray) :
    let store := debugStore.run [.get, .write basePath (.file content)]
    store.loadConfig = (Toml.readBytes content).mapError .unreadable ∧
      store.environment = .empty ∧ store.cached = some ⟨1, { logLevel := .debug }⟩ := by
  rw [run_debugStore]
  exact ⟨loadConfig_of_base content rfl rfl rfl rfl, rfl, rfl⟩

/-- When a base is broken or wrong, what was loaded before is handed out until it is told to reload,
which fails. Two variables are set in either order. -/
theorem store_hands_out_last_load_of_failures :
    let debug : LoadedSettings := ⟨1, { logLevel := .debug }⟩
    let broken := debugStore.run [.get, .write basePath (.file brokenBase)]
    let wrong := debugStore.run [.get, .write basePath (.file wrongBase)]
    let level : SettingsStep := .setVariable "APITEMPLATE_LOG_LEVEL".toList "ERROR".toList
    let agent : SettingsStep := .setVariable "APITEMPLATE_HTTP__USER_AGENT".toList ['u']
    let set := debugStore.run [.get, level, agent]
    let otherwise := debugStore.run [.get, agent, level]
    broken.get = (broken, .ok debug) ∧
      broken.reload.2 = .error (.unreadable .malformed) ∧
      broken.reload.1 = { broken with cached := none } ∧
      wrong.reload.2 = .error (.invalid [⟨.modelType, [.key "http".toList]⟩]) ∧
      wrong.reload.1 = { wrong with config := [("http".toList, .text [])], cached := none } ∧
      set.reload.2.map LoadedSettings.settings =
        .ok { logLevel := .error, http := { userAgent := some ['u'] } } ∧
      otherwise.reload.2.map LoadedSettings.settings = set.reload.2.map LoadedSettings.settings := by
  intro debug broken wrong level agent set otherwise
  have setRun : set = debugLoaded.run [level, agent] := run_debugStore _
  have otherwiseRun : otherwise = debugLoaded.run [agent, level] := run_debugStore _
  obtain ⟨brokenUnread, _, held⟩ := run_rewritten brokenBase
  obtain ⟨wrongRead, wrongEnvironment, _⟩ := run_rewritten wrongBase
  rw [readBytes_wrongBase] at wrongRead
  have setRead : set.loadConfig = .ok [("log_level".toList, .text "DEBUG".toList)] := by
    rw [setRun, loadConfig_of_base debugBase rfl rfl rfl rfl, readBytes_debugBase]
    rfl
  obtain ⟨_, _, _, _, handsOut, _, brokenFails, _⟩ :=
    store_hands_out_last_load debugStore.files .empty [.get, .write basePath (.file brokenBase)]
  obtain ⟨_, _, _, _, _, _, wrongFails, _⟩ :=
    store_hands_out_last_load debugStore.files .empty [.get, .write basePath (.file wrongBase)]
  obtain ⟨_, _, _, inAnyOrder, _⟩ :=
    store_hands_out_last_load debugStore.files .empty [.get, level, agent]
  have brokenFault : broken.reload.2 = .error (.unreadable .malformed) := by
    rw [reload_eq_load, load, brokenUnread]
    rfl
  have wrongFault : wrong.reload.2 = .error (.invalid [⟨.modelType, [.key "http".toList]⟩]) := by
    rw [reload_eq_load, load, wrongRead, wrongEnvironment]
    rfl
  have sameFiles : otherwise.files.Same set.files := by
    have setFiles : set.files = debugStore.files := by rw [setRun]; rfl
    have otherFiles : otherwise.files = debugStore.files := by rw [otherwiseRun]; rfl
    rw [setFiles, otherFiles]
    exact fun _ => rfl
  have sameVariables : otherwise.environment.Same set.environment := by
    rw [setRun, otherwiseRun]
    exact Environment.same_of_perm (.swap ..) (by decide +kernel)
  have setGives : set.reload.2.map LoadedSettings.settings =
      .ok { logLevel := .error, http := { userAgent := some ['u'] } } := by
    rw [reload_eq_load, map_settings_load, setRead, setRun]
    rfl
  exact ⟨(handsOut debug held).1, brokenFault, (brokenFails _ brokenFault).eq_of_unread brokenUnread,
    wrongFault, (wrongFails _ wrongFault).eq_of_read wrongRead, setGives,
    inAnyOrder debugStore.files .empty [.get, agent, level] sameFiles sameVariables⟩

/-- Variables of two names are kept in the order in which they are set. -/
theorem run_setVariable_setVariable {name other : Text} (differ : name ≠ other) (files : Files)
    (value otherValue : Text) :
    (started files .empty).run [.setVariable name value, .setVariable other otherValue] =
      started files ⟨[(name, value), (other, otherValue)]⟩ := by
  have entries : Environment.assign other otherValue [(name, value)] =
      [(name, value), (other, otherValue)] := if_neg differ
  exact congrArg (fun entries => started files ⟨entries⟩) entries

/-- Where names agree in lower case the order does count: with the same files and the same variables
two runs reload different settings. -/
theorem reload_depends_on_order_of_spellings :
    let capital : SettingsStep := .setVariable "APITEMPLATE_LOG_LEVEL".toList "DEBUG".toList
    let small : SettingsStep := .setVariable "apitemplate_log_level".toList "ERROR".toList
    let first := (started .empty .empty).run [capital, small]
    let second := (started .empty .empty).run [small, capital]
    first.files.Same second.files ∧
      (∀ name, first.environment.get? name = second.environment.get? name) ∧
      first.reload.2.map LoadedSettings.settings = .ok { logLevel := .error } ∧
      second.reload.2.map LoadedSettings.settings = .ok { logLevel := .debug } := by
  intro capital small first second
  let debug : Text × Text := ("APITEMPLATE_LOG_LEVEL".toList, "DEBUG".toList)
  let error : Text × Text := ("apitemplate_log_level".toList, "ERROR".toList)
  have differ : debug.1 ≠ error.1 := by decide
  have names : ([debug, error].map Prod.fst).Nodup := by decide
  have firstRun : first = started .empty ⟨[debug, error]⟩ :=
    run_setVariable_setVariable differ .empty debug.2 error.2
  have secondRun : second = started .empty ⟨[error, debug]⟩ :=
    run_setVariable_setVariable differ.symm .empty error.2 debug.2
  rw [firstRun, secondRun]
  refine ⟨?_, Environment.lookup_eq_of_perm (.swap error debug []) names, ?_, ?_⟩
  · change Files.Same .empty .empty
    exact fun _ => rfl
  · rfl
  · rfl

end SettingsStore

end UriEndpoint
