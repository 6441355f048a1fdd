import FluentQuery.Adapter.Registry
import FluentQuery.Adapter.Script
import FluentQuery.Log.Threshold
import FluentQuery.Query.Terminal

/-!
# Operations of a session

A session holds queries and adapters under names. These are the operations on it, and what they
answer with.
-/

namespace FluentQuery

/-- The statement that is compiled from the clauses of a query. -/
inductive StatementKind where
  | select (o : Overrides)
  | count
  | delete
  deriving Inhabited

/-- Where the kind of a new adapter comes from. -/
inductive AdapterSource where
  | engine (e : Engine)
  | registered (name : Value)
  deriving Inhabited

/-- Makes the adapter that a source stands for. -/
def AdapterSource.make (source : AdapterSource) (r : Registry) (options : Value) (driver : Driver)
    (files : Path.Files) : Except Failure Adapter :=
  match source with
  | .engine e => Adapter.make e options driver files
  | .registered name => r.make name options driver files

/-- An operation of an adapter. -/
inductive AdapterCall where
  | connect
  | disconnect
  | describe
  | isConnected
  | healthCheck
  | execute (sql : String) (params : Value)
  | executeQuery (sql : String) (params : Value)
  | executeCount (sql : String) (params : Value)
  | executeUpdate (sql : String) (params : Value)
  | prepare (sql : String) (params : Value)
  | executeScript (script : String)
  | enter
  | leave
  deriving Inhabited

/-- A terminal operation of a query. -/
inductive TerminalCall where
  | fetchAll (table : Value) (type : Option Schema)
  | fetchOne (table : Value) (type : Option Schema)
  | count (table : Value)
  | fetchPage (table pageNo pageSize : Value) (type : Option Schema)
  | delete (table : Value) (allowFullTable : Bool)
  deriving Inhabited

/-- A new query: its dialect and its first calls. -/
structure QueryStart where
  dialect : Value := .null
  chain : List ClauseCall := []
  deriving Inhabited

/-- An operation of a session. -/
inductive Operation where
  | new (query : String) (start : QueryStart)
  | call (query : String) (c : ClauseCall)
  | copy (query target : String)
  | clauses (query : String)
  | quoted (query : String)
  | build (query : String) (start : Option QueryStart) (table : Value)
  | compile (query : String) (start : Option QueryStart) (dialect : Value) (kind : StatementKind)
      (table : Value)
  | terminal (query adapter : String) (c : TerminalCall)
  | adapter (name : String) (source : AdapterSource) (options : Value) (connect : Bool)
      (driver : Driver) (files : Path.Files)
  | adapterCall (name : String) (c : AdapterCall) (installed : Bool)
  | register (name : String) (engine : Engine)
  | engines
  | logReport (r : Report) (method : String)
  | environment (changes : List (String × Option String)) (file : Option String) (reset : Bool)
  | settings
  | configureLogging (level : Value)
  deriving Inhabited

/-- The result of an operation. -/
inductive Reply where
  | done
  | query (q : Query)
  | clauses (s : Clauses)
  | statement (s : Statement)
  | value (v : Value)
  | page (p : Page)
  | execution (engine : Engine) (e : Execution)
  | adapter (a : Adapter)
  | report (r : Report)
  | settings (s : Settings)
  deriving Inhabited

/-- What an operation answers: its result, for a clause call the clauses after it, for an
operation of an adapter the calls that the driver saw, and the records that are shown. -/
structure Response where
  result : Except Failure Reply
  after : Option Clauses := none
  calls : Option (List DriverCall) := none
  records : List LogRecord := []

end FluentQuery
