import UriEndpoint.Logging.Logbook
import UriEndpoint.Settings.Store

/-!
# Setting up logging from settings

Logging is set up directly, from settings made for the purpose, or from the settings of the store,
which are loaded if they have not been.
-/

namespace UriEndpoint

/-- Where a logging set-up comes from. -/
inductive LogPlan where
  | direct (setup : LogSetup)
  | fromLayer (passed : Table)
  | fromStore

namespace LogPlan

/-- The set-up of a plan, and the store afterwards. -/
def setup (plan : LogPlan) (store : SettingsStore) :
    SettingsStore × Except SettingsFault LogSetup :=
  match plan with
  | direct setup => (store, .ok setup)
  | fromLayer passed => (store, (store.settingsWith passed).map Settings.logSetup)
  | fromStore =>
      let (store, result) := store.get
      (store, result.map fun loaded => loaded.settings.logSetup)

end LogPlan

end UriEndpoint
