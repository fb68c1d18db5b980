import UriEndpoint.Logging.Line
import UriEndpoint.Validation.Scalar

/-!
# Settings and their sections

Settings are a log level and three sections, each a table of fields with defaults. A field that is
present is taken in the lax way and must keep within its bounds; unknown fields are ignored. Fields
are checked in the order in which they are declared, with at most one issue each.
-/

namespace UriEndpoint

/-- A field of a table: its default when absent, else its checked value. -/
def Table.field {α : Type} (table : Table) (name : String) (default : α)
    (check : Value → Except IssueKind α) : Checked α :=
  match table.get? name.toList with
  | none => .ok default
  | some value => Checked.under (.key name.toList) (Checked.ofScalar (check value))

/-- A section of a table: its defaults when absent, else its checked fields. -/
def Table.section_ {α : Type} (table : Table) (name : String) (default : α)
    (check : Table → Checked α) : Checked α :=
  match table.get? name.toList with
  | none => .ok default
  | some (.table entries) => Checked.under (.key name.toList) (check entries)
  | some _ => Checked.under (.key name.toList) (Checked.fail .modelType)

/-- A value within a bound, or the issue of the bound. -/
def Scalar.bounded {α : Type} (holds : α → Bool) (issue : IssueKind) (value : α) :
    Except IssueKind α :=
  if holds value then .ok value else .error issue

/-- How log lines are written. -/
structure LoggingSection where
  format : LineFormat := .json
  redactSensitive : Bool := true
deriving DecidableEq, Repr

namespace LoggingSection

/-- The formats by name. -/
def formatNames : List (Text × LineFormat) :=
  [("json".toList, .json), ("console".toList, .console)]

/-- A format named exactly. -/
def format? : Value → Except IssueKind LineFormat
  | .text name =>
      match formatNames.lookup name with
      | some format => .ok format
      | none => .error .literalError
  | .halfText _ => .error .stringUnicode
  | _ => .error .literalError

/-- The section that a table gives. -/
def check (table : Table) : Checked LoggingSection :=
  ((table.field "format" .json format?).both
    (table.field "redact_sensitive" true (Scalar.boolean .lax))).map
    fun (format, redactSensitive) => { format, redactSensitive }

end LoggingSection

/-- How requests are made. -/
structure HttpSection where
  baseUrl : Text := []
  timeoutSeconds : Float := Binary64.nearestInt 30
  userAgent : Option Text := none
  followRedirects : Bool := false
  maxConnections : Int := 100

namespace HttpSection

/-- The section with every field at its default. -/
def default : HttpSection := {}

/-- The most connections that may be kept. -/
def mostConnections : Int := 1000

/-- Whether an integer is beyond the greatest real. -/
def isBeyondReals : Value → Bool
  | .integer value =>
      match Binary64.ofFloat (Binary64.nearestInt value) with
      | .infinite _ => true
      | _ => false
  | _ => false

/-- A timeout above zero. -/
def timeout? (value : Value) : Except IssueKind Float := do
  if isBeyondReals value then throw .floatType
  Scalar.bounded (fun seconds => (Binary64.ofFloat seconds).isPositive) .greaterThan
    (← Scalar.real .lax value)

/-- A text that is not empty. -/
def agent? (value : Value) : Except IssueKind Text := do
  Scalar.bounded (fun agent => !agent.isEmpty) .stringTooShort (← Scalar.text value)

/-- A number of connections from one to the most. -/
def connections? (value : Value) : Except IssueKind Int := do
  let count ← Scalar.integer .lax value
  let count ← Scalar.bounded (1 ≤ ·) .greaterThanEqual count
  Scalar.bounded (· ≤ mostConnections) .lessThanEqual count

/-- The section that a table gives. -/
def check (table : Table) : Checked HttpSection :=
  ((table.field "base_url" default.baseUrl Scalar.text).both
    ((table.field "timeout_seconds" default.timeoutSeconds timeout?).both
      ((table.field "user_agent" default.userAgent (Scalar.nullable agent?)).both
        ((table.field "follow_redirects" default.followRedirects (Scalar.boolean .lax)).both
          (table.field "max_connections" default.maxConnections connections?))))).map
    fun (baseUrl, timeoutSeconds, userAgent, followRedirects, maxConnections) =>
      { baseUrl, timeoutSeconds, userAgent, followRedirects, maxConnections }

end HttpSection

/-- How bodies are decoded. -/
structure DecodeSection where
  strict : Option Bool := none
deriving DecidableEq, Repr

/-- The section that a table gives. -/
def DecodeSection.check (table : Table) : Checked DecodeSection :=
  (table.field "strict" none (Scalar.nullable (Scalar.boolean .lax))).map fun strict => { strict }

/-- The settings of the program. -/
structure Settings where
  logLevel : Level := .info
  logging : LoggingSection := {}
  http : HttpSection := {}
  decode : DecodeSection := {}

namespace Settings

/-- A level named exactly as in settings. -/
def level? : Value → Except IssueKind Level
  | .text name =>
      match Level.all.find? fun level => level.settingName == name with
      | some level => .ok level
      | none => .error .literalError
  | _ => .error .literalError

/-- The settings that a table gives. -/
def check (table : Table) : Checked Settings :=
  ((table.field "log_level" .info level?).both
    ((table.section_ "logging" {} LoggingSection.check).both
      ((table.section_ "http" {} HttpSection.check).both
        (table.section_ "decode" {} DecodeSection.check)))).map
    fun (logLevel, logging, http, decode) => { logLevel, logging, http, decode }

/-- The logging set-up that settings ask for. -/
def logSetup (settings : Settings) : LogSetup where
  threshold := settings.logLevel
  format := settings.logging.format
  redacts := settings.logging.redactSensitive

end Settings

end UriEndpoint
