import UriEndpoint.Text.Lowercase
import UriEndpoint.Json.Reader
import UriEndpoint.Settings.Layer

/-!
# Settings from environment variables

Variables are compared without regard to letter case. The log level has a variable of its own. A
section may come whole, as JSON, and its fields one by one, with two underscores between the names;
single fields win over the whole. Field names inside JSON match in any letter case. A section given
as null counts as not given, and then its single fields do too.
-/

namespace UriEndpoint

/-- Environment variables in the order in which they were first set. -/
structure Environment where
  entries : List (Text × Text) := []

/-- Why the environment gives no settings. -/
inductive EnvironmentFault where
  /-- The variable of a section is no JSON. -/
  | malformed (sectionName : Text)
  /-- The JSON of a section nests too deep. -/
  | tooDeep
deriving DecidableEq, Repr

/-- A malformed section in words; nesting has no words of its own here. -/
def EnvironmentFault.message : EnvironmentFault → Text
  | malformed sectionName =>
      "error parsing value for field ".toList ++ Text.quotationMark :: sectionName ++
        Text.quotationMark :: " from source ".toList ++ Text.quotationMark ::
        "EnvSettingsSource".toList ++ [Text.quotationMark]
  | tooDeep => []

namespace Environment

/-- The environment without any variables. -/
def empty : Environment := {}

/-- The value of a variable by its exact name. -/
def get? (environment : Environment) (name : Text) : Option Text :=
  environment.entries.lookup name

/-- Pairs with a value under a name: in the name's place if it has one, else at the end. -/
def assign (name value : Text) : List (Text × Text) → List (Text × Text)
  | [] => [(name, value)]
  | (other, kept) :: rest =>
      if other = name then (name, value) :: rest else (other, kept) :: assign name value rest

/-- The environment with a variable set. -/
def set (environment : Environment) (name value : Text) : Environment :=
  ⟨assign name value environment.entries⟩

/-- The environment with a variable removed. -/
def unset (environment : Environment) (name : Text) : Environment :=
  ⟨environment.entries.filter fun entry => entry.1 != name⟩

/-- The environment with every name in lower case; of names that fall together the last counts. -/
def lowered (environment : Environment) : Environment :=
  ⟨environment.entries.foldl
    (fun entries entry => assign entry.1.lowercase entry.2 entries) []⟩

/-- What every variable for settings begins with, in lower case. -/
def lead : Text := "apitemplate_".toList

/-- The sections and their fields, in the order of declaration. -/
def sections : List (Text × List Text) :=
  [("logging".toList, ["format", "redact_sensitive"].map String.toList),
    ("http".toList, ["base_url", "timeout_seconds", "user_agent", "follow_redirects",
      "max_connections"].map String.toList),
    ("decode".toList, ["strict"].map String.toList)]

/-- The parts of a name between double underscores. -/
def nestedNames (part : Text) : Text → List Text
  | '_' :: '_' :: rest => part.reverse :: nestedNames [] rest
  | letter :: rest => nestedNames (letter :: part) rest
  | [] => [part.reverse]

/-- A text written under nested names; a text on the way stays, and what is nested in it is lost. -/
def placed (table : Table) (names : List Text) (value : Text) : Table :=
  match names with
  | [] => table
  | [name] => table.put name (.text value)
  | name :: rest =>
      match table.get? name with
      | none => table.put name (.table (placed [] rest value))
      | some (.table inner) => table.put name (.table (placed inner rest value))
      | some _ => table

/-- The single fields of a section that the variables set. -/
def nestedFields (environment : Environment) (sectionName : Text) : Table :=
  let opening := lead ++ sectionName ++ ['_', '_']
  environment.entries.foldl
    (fun table entry =>
      if opening.isPrefixOf entry.1 then
        placed table (nestedNames [] (entry.1.drop opening.length)) entry.2
      else table)
    []

/-- The entries with the names of known fields in place of names that differ in case. -/
def withFieldNames (fields : List Text) (entries : Table) : Table :=
  Table.putAll [] <| entries.map fun entry =>
    ((fields.find? fun field => field.lowercase == entry.1.lowercase).getD entry.1, entry.2)

/-- The most digits of an integer in the JSON of a section. -/
def mostDigits : Nat := 4300

/-- The JSON of sections: integers are limited, and strings may hold any escape. -/
def sectionDialect : Json.Dialect where
  depth := 970
  takes := fun _ digits isWhole => !isWhole || digits ≤ mostDigits
  halves := true

/-- What the variables, named in lower case, give for a section. -/
def sectionValue? (environment : Environment) (sectionName : Text) (fields : List Text) :
    Except EnvironmentFault (Option Value) :=
  let nested := environment.nestedFields sectionName
  match environment.get? (lead ++ sectionName) with
  | none =>
      .ok (if nested.isEmpty then none else some (.table (withFieldNames fields nested)))
  | some text =>
      match (Json.read sectionDialect text).map Value.settled with
      | .error .malformed => .error (.malformed sectionName)
      | .error .tooDeep => .error .tooDeep
      | .ok .null => .ok none
      | .ok (.table entries) =>
          .ok (some (.table (withFieldNames fields (Table.overlaid entries nested))))
      | .ok value => .ok (some value)

/-- What the variables, named in lower case, give for some sections. -/
def sectionValues (environment : Environment) :
    List (Text × List Text) → Except EnvironmentFault Table
  | [] => .ok []
  | (name, fields) :: rest => do
      let value ← environment.sectionValue? name fields
      let others ← sectionValues environment rest
      return match value with
        | some value => (name, value) :: others
        | none => others

/-- The layer of settings that the environment gives. -/
def layer (environment : Environment) : Except EnvironmentFault Table := do
  let lowered := environment.lowered
  let values ← lowered.sectionValues sections
  let levelName := "log_level".toList
  return match lowered.get? (lead ++ levelName) with
    | some level => (levelName, .text level) :: values
    | none => values

end Environment

end UriEndpoint
