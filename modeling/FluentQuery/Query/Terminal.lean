import FluentQuery.Adapter.Execute
import FluentQuery.Page.Basic
import FluentQuery.Query.Basic
import FluentQuery.Statement.Compile

/-!
# Terminal operations

A terminal operation compiles the clauses of a query and hands the statement to an adapter. All
that can be wrong with the query or the arguments is found before the adapter is used, and the
query itself is never changed. What it found is told in a line of the log, and where a number of
that line is too long to be written the operation fails behind its statements.

* **`Query.fetchAll`**, **`Query.fetchOne`** — the rows, or the first row, decoded;
* **`Query.count`** — the number of rows, without regard to sort keys and bounds;
* **`Query.fetchPage`** — one page with the total: both statements are compiled before either
  runs, the count runs first, and when it is zero nothing else does;
* **`Query.delete`** — deletes the rows that the conditions match.
-/

namespace FluentQuery

/-- What a terminal operation works with. -/
structure Context where
  configuration : Configuration
  adapter : Adapter
  deriving Inhabited

namespace Context

/-- Runs an action that needs settings alone. -/
def compile {α : Type} (act : Action Configuration α) : Action Context α :=
  act.zoom configuration fun c s => { s with configuration := c }

/-- Runs an action of the adapter. -/
def execute {α : Type} (act : Action Adapter α) : Action Context α :=
  act.zoom adapter fun a s => { s with adapter := a }

end Context

namespace Query

/-- The rows a statement is about, in a log. -/
def place (table : Value) : Except Failure String :=
  if table.isTruthy then table.written else .ok "<custom sql>"

/-- The line about all rows. -/
def rowsLine (table : Value) (rows : Nat) : Except Failure String := do
  return "query on " ++ (← place table) ++ " returned " ++ intText rows ++ " row(s)"

/-- The line about a row that is not there. -/
def noRowLine (table : Value) : Except Failure String := do
  return "get_one on " ++ (← place table) ++ " found no row"

/-- The line about a page: the number of its records and the total, if there are any. -/
def pageLine (number : Nat) (table : Value) (found : Option (Nat × Int)) :
    Except Failure String := do
  let which := "page " ++ (← numeral number) ++ " of " ++ (← place table) ++ ": "
  match found with
  | none => return which ++ "no matching rows"
  | some (records, total) =>
    return which ++ intText records ++ " of " ++ (← numeral total) ++ " row(s)"

/-- The line about a deletion. -/
def deletionLine (affected table : Value) : Except Failure String := do
  return "Deleted " ++ (← affected.written) ++ " row(s) from " ++ (← table.written)

/-- The statement that a query stands for. -/
def build (q : Query) (table : Value) : Action Configuration Statement :=
  Compile.select q.dialect q.clauses table

/-- All rows, decoded. -/
def fetchAll (q : Query) (table : Value) (type : Option Schema) (fit : Row.Fit := Row.lenient) :
    Action Context (List Value) := do
  let statement ← Context.compile (q.build table)
  let rows ← Context.execute (Adapter.executeQuery statement.sql (.list statement.params))
  Action.log .query .debug (← Action.ofExcept (rowsLine table rows.length))
  Action.ofExcept (Row.decodeAll fit type rows)

/-- The first row, decoded, if there is one. -/
def fetchOne (q : Query) (table : Value) (type : Option Schema) (fit : Row.Fit := Row.lenient) :
    Action Context (Option Value) := do
  let statement ← Context.compile
    (Compile.select q.dialect q.clauses table { limit := .int 1 })
  let rows ← Context.execute (Adapter.executeQuery statement.sql (.list statement.params))
  match rows with
  | [] =>
    Action.log .query .debug (← Action.ofExcept (noRowLine table))
    return none
  | row :: _ => return some (← Action.ofExcept (Row.decode fit type 0 row))

/-- The number of rows. -/
def count (q : Query) (table : Value) : Action Context Int := do
  let statement ← Context.compile (Compile.count q.dialect q.clauses table)
  Context.execute (Adapter.executeCount statement.sql (.list statement.params))

/-- A number of a page or a size of pages, which start at one. -/
def positive? (v : Value) : Option Nat := v.count?.filter (1 ≤ ·)

/-- Checks the number and the size of a page. -/
def checkPage (pageNo pageSize : Value) : Action Configuration (Nat × Nat) := do
  match positive? pageNo, positive? pageSize with
  | some number, some size =>
    let settings ← Action.settings
    match settings.maxPageSize with
    | some most =>
      if most < (size : Int) then throw (.refusal (.pageSizeExceeded pageSize (.int most)))
      else return (number, size)
    | none => return (number, size)
  | _, _ => throw (.refusal (.invalidPagination pageNo pageSize))

/-- One page, with the total of all rows. -/
def fetchPage (q : Query) (table pageNo pageSize : Value) (type : Option Schema)
    (fit : Row.Fit := Row.lenient) : Action Context Page := do
  let (number, size) ← Context.compile (checkPage pageNo pageSize)
  let counting ← Context.compile (Compile.count q.dialect q.clauses table)
  let reading ← Context.compile (Compile.select q.dialect q.clauses table
    { limit := .int size, offset := .int ((number - 1) * size : Nat) })
  let total ← Context.execute (Adapter.executeCount counting.sql (.list counting.params))
  if total = 0 then
    Action.log .query .debug (← Action.ofExcept (pageLine number table none))
    Action.ofExcept (Page.empty none (.int number) (.int size))
  else
    let rows ← Context.execute (Adapter.executeQuery reading.sql (.list reading.params))
    let records ← Action.ofExcept (Row.decodeAll fit type rows)
    Action.log .query .debug
      (← Action.ofExcept (pageLine number table (some (records.length, total))))
    Action.ofExcept (Page.build none (.list records) (.int total) (.int number) (.int size))

/-- Why a query must not delete rows, if there is a reason. -/
def deleteRefusal? (s : Clauses) (allowFullTable : Bool) : Option String :=
  if s.isCustom then some "custom SQL cannot be combined with delete()"
  else if !s.joins.isEmpty then some "joins cannot be combined with delete()"
  else if !s.selected.isEmpty then some "a column projection has no meaning in a DELETE"
  else if s.conditions.isEmpty && !allowFullTable then some "no conditions given"
  else none

/-- Deletes the rows that the conditions match, and tells how many. -/
def delete (q : Query) (table : Value) (allowFullTable : Bool := false) : Action Context Value := do
  match deleteRefusal? q.clauses allowFullTable with
  | some reason => throw (.builder (.unsafeDelete reason))
  | none =>
    let statement ← Context.compile (Compile.delete q.clauses table)
    let affected ← Context.execute (Adapter.executeUpdate statement.sql (.list statement.params))
    Action.log .query .info (← Action.ofExcept (deletionLine affected table))
    return affected

end Query

end FluentQuery
