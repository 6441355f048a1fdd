import FluentQuery.Error.Failure

/-!
# Engines

An engine is a kind of database with its own driver. Besides the three built in there is one that
leaves every hook at its default, and one that is SQLite under another name.
-/

namespace FluentQuery

/-- The kinds of adapters. -/
inductive Engine where
  | sqlite
  | duckdb
  | postgres
  | fake
  | other
  deriving DecidableEq, Inhabited

namespace Engine

/-- The name of an engine. -/
def name : Engine → String
  | .sqlite => "sqlite"
  | .duckdb => "duckdb"
  | .postgres => "postgres"
  | .fake => "fake"
  | .other => "other"

/-- The name of the kind of adapter for an engine. -/
def adapterName : Engine → String
  | .sqlite => "SQLiteAdapter"
  | .duckdb => "DuckDBAdapter"
  | .postgres => "PostgresAdapter"
  | .fake => "FakeAdapter"
  | .other => "OtherAdapter"

/-- The maker of the driver that an engine uses. -/
def vendor : Engine → Vendor
  | .sqlite => .sqlite
  | .duckdb => .duckdb
  | .postgres => .postgres
  | .fake => .fake
  | .other => .sqlite

/-- What stands for a bound value in the text that a driver takes. -/
def placeholder : Engine → String
  | .postgres => "%s"
  | _ => "?"

/-- Whether an engine works like SQLite. -/
def isSqlite : Engine → Bool
  | .sqlite => true
  | .other => true
  | _ => false

/-- A fault that is an error of the engine's own driver. -/
def owns (e : Engine) : Fault → Bool
  | .driver vendor _ => vendor == e.vendor
  | .foreign _ _ => false

/-- The fault behind a failure, if it is an error of the engine's own driver. -/
def ownFault? (e : Engine) : Failure → Option Fault
  | .fault f => if e.owns f then some f else none
  | _ => none

end Engine

end FluentQuery
