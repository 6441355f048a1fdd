import FluentQuery.Action
import FluentQuery.Adapter.Driver
import FluentQuery.Adapter.Engine
import FluentQuery.Adapter.Options
import FluentQuery.Adapter.Path

/-!
# Adapters

An adapter runs statements on at most one connection of a driver. Its state is the connection it
holds, whether it counts as connected, and all calls it has made so far.

* **`Adapter.make`** — an adapter from options, which are checked first;
* **`Adapter.describe`** — where it connects to, in a form for logs without a password;
* **`Adapter.call`** — one call to the driver, noted before it can fail.
-/

namespace FluentQuery

/-- An adapter. -/
structure Adapter where
  engine : Engine
  options : Value
  files : Path.Files := {}
  driver : Driver := default
  /-- Whether the driver can be loaded. -/
  installed : Bool := true
  connection : Option Nat := none
  connected : Bool := false
  /-- The number of connections opened so far. -/
  opened : Nat := 0
  calls : List DriverCall := []
  deriving Inhabited

namespace Adapter

/-- An error of connecting that has no cause in the driver. -/
def connectionError (engine text : String) : Failure := .connection ⟨text, engine, none⟩

/-- An error of a statement that has no cause in the driver. -/
def statementError (engine text : String) : Failure := .statement ⟨text, engine, none⟩

/-- Whether options name the database in memory. -/
def isMemory (database : Value) : Bool := database.equals (.text ":memory:")

/-- Checks the options of an SQLite adapter. -/
def checkSqlite (engine : Engine) (options : Value) (files : Path.Files) : Except Failure Unit := do
  if !(← Options.has options "database") then
    throw (connectionError engine.name "Missing required config: database")
  let database ← Options.required options "database"
  if !isMemory database then
    let create ← Options.optional options "create" (.bool false)
    if !create.isTruthy && !files.exist database then
      throw (connectionError engine.name ("Database file not found: " ++ database.plain))

/-- Checks the options of a PostgreSQL adapter. -/
def checkPostgres (engine : Engine) (options : Value) : Except Failure Unit := do
  if !(← Options.has options "dsn") then
    let missing ← ["host", "database", "user"].filterM fun name => do
      return !(← Options.has options name)
    if !missing.isEmpty then
      throw (connectionError engine.name
        ("Missing required config: " ++ joinWith ", " missing ++ " (or pass a dsn)"))

/-- Makes an adapter that is not connected. -/
def make (engine : Engine) (options : Value) (driver : Driver) (files : Path.Files) :
    Except Failure Adapter := do
  match engine with
  | .sqlite | .other =>
    checkSqlite engine options files
    return { engine, options, files, driver }
  | .postgres =>
    checkPostgres engine options
    return { engine, options, files, driver }
  | .duckdb =>
    let options := if options.isTruthy then options else .dict []
    let _ ← Options.optional options "database" .null
    return { engine, options, files, driver }
  | .fake => return { engine, options, files, driver }

/-- The option under a name, or a default. -/
def option (a : Adapter) (name : String) (default : Value) : Value :=
  match Options.optional a.options name default with
  | .ok v => v
  | .error _ => default

/-- The database of an adapter that has one. -/
def database (a : Adapter) : Value :=
  a.option "database" (if a.engine = .duckdb then .text ":memory:" else .null)

/-- The options of an adapter that can be looked at. -/
def attributes (a : Adapter) : List (String × Value) :=
  if a.engine.isSqlite then
    [("database", a.database), ("is_memory", .bool (isMemory a.database)),
      ("read_only", a.option "read_only" (.bool false)),
      ("timeout", a.option "timeout" (.float (.ofInt 30))),
      ("isolation_level", a.option "isolation_level" .null)]
  else if a.engine = .duckdb then
    [("database", a.database), ("read_only", a.option "read_only" (.bool false))]
  else []

/-- Where an adapter connects to. Integers among the options are shown however long they are: a
driver that is handed one that cannot be written opens no connection, so there is no place to tell
of. -/
def describe (a : Adapter) : Except Failure Value :=
  match a.engine with
  | .duckdb => .ok a.database
  | .postgres => do
    if ← Options.has a.options "dsn" then return .text "dsn"
    let host ← Options.required a.options "host"
    let service ← Options.optional a.options "port" (.int 5432)
    let database ← Options.required a.options "database"
    return .text (host.plain ++ ":" ++ service.plain ++ "/" ++ database.plain)
  | _ => do return .text (← Options.optional a.options "database" (.text "")).plain

/-- Makes a call to the driver. -/
def call (c : DriverCall) : Action Adapter Unit := do
  Action.update fun a => { a with calls := a.calls ++ [c] }
  let a ← Action.current
  match a.driver.fault a.calls with
  | some f => throw (.fault f)
  | none => return

/-- The connection that an adapter holds, to be used for something. -/
def held (member : String) : Action Adapter Nat := do
  match (← Action.current).connection with
  | some n => return n
  | none => throw (.misuse (.noMember "NoneType" member))

end Adapter

end FluentQuery
