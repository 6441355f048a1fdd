import FluentQuery.Settings.EnvFile
import FluentQuery.Schema.Validate
import FluentQuery.Sql.Dialect

/-!
# Settings

The settings of the library are read from variables of the environment, which win over those of
the file beside the program. They are read once and kept until they are dropped; what cannot be
read is not kept, so that the next use tries again.
-/

namespace FluentQuery

/-- The settings of the library. -/
structure Settings where
  logSql : Bool := false
  logLevel : String := "INFO"
  maxPageSize : Option Int := none
  sqlDialect : Option String := none
  deriving Inhabited, DecidableEq

namespace Settings

/-- What stands in front of a setting's name in the name of its variable, in small letters. -/
def variableStem : String := "querywrapper_"

/-- The types of the settings with their defaults, in order. -/
def fields : List (String × Schema × Option Value) :=
  [("log_sql", .bool, some (.bool false)), ("log_level", .text, some (.text "INFO")),
    ("max_page_size", .optional (.atLeast 1 .int), some .null),
    ("sql_dialect", .optional .text, some .null)]

/-- The settings as a record type. -/
def schema : Schema := .model "Settings" fields .ignore false

/-- The text that the environment holds for a setting. -/
def given? (e : Environment) (name : String) : Option String :=
  let inFile := e.file.bind fun content =>
    (Environment.folded (variableStem ++ name) (EnvFile.read e.bindings content)).join
  (e.get? (variableStem ++ name)).or inFile

/-- The texts that the environment holds for settings. -/
def given (e : Environment) : Entries :=
  fields.filterMap fun f => (given? e f.1).map fun s => (.text f.1, .text s)

/-- What is wrong with a name for a dialect. -/
def dialectIssues (dialect : Option String) : List Issue :=
  match dialect with
  | none => []
  | some d =>
    if Sql.isKnownDialect (.text d) then []
    else [⟨["sql_dialect"], .rejected ("Unknown sqlglot dialect " ++ Text.quoted d ++
      ". Use a name such as 'postgres', 'duckdb' or 'sqlite'")⟩]

/-- The settings of a fitted record. -/
def ofFields (found : List (String × Value)) : Settings where
  logSql := match found.lookup "log_sql" with
    | some (.bool b) => b
    | _ => false
  logLevel := match found.lookup "log_level" with
    | some (.text s) => s
    | _ => "INFO"
  maxPageSize := match found.lookup "max_page_size" with
    | some (.int n) => some n
    | _ => none
  sqlDialect := match found.lookup "sql_dialect" with
    | some (.text s) => some s
    | _ => none

/-- Reads the settings. -/
def load (e : Environment) : Except Invalid Settings :=
  let wrong := dialectIssues (given? e "sql_dialect")
  match schema.fit false (.dict (given e)) with
  | .ok (.record _ _ found) =>
    if wrong.isEmpty then .ok (ofFields found) else .error ⟨"Settings", wrong⟩
  | .ok _ => .error ⟨"Settings", wrong⟩
  | .error issues => .error ⟨"Settings", issues ++ wrong⟩

end Settings

/-- The environment and the settings that were read from it, if they are kept. -/
structure Configuration where
  environment : Environment := {}
  kept : Option Settings := none
  deriving Inhabited, DecidableEq

namespace Configuration

/-- The settings in force: those kept, or else those of the environment, which are then kept. -/
def settings (c : Configuration) : Except Invalid Settings × Configuration :=
  match c.kept with
  | some s => (.ok s, c)
  | none =>
    match Settings.load c.environment with
    | .ok s => (.ok s, { c with kept := some s })
    | .error e => (.error e, c)

/-- Drops the settings that are kept. -/
def reset (c : Configuration) : Configuration := { c with kept := none }

end Configuration

end FluentQuery
