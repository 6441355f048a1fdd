import FluentQuery.Adapter.Connect
import FluentQuery.Adapter.Placeholder
import FluentQuery.Row.Decode

/-!
# Executing statements

One execution takes a cursor, hands the statement to the driver, fetches the rows if there are
columns, and commits. When the driver raises an error of its own the work is rolled back and the
error wrapped; any other fault goes through as it is. A cursor is released at the end in any case.
-/

namespace FluentQuery

/-- The outcome of a statement. -/
structure Execution where
  rows : List Row
  columns : List String
  rowsAffected : Value
  sql : String
  deriving Inhabited

namespace Adapter

/-- A row of values under the names of columns; what is left over on either side is dropped. -/
def rowOf (columns : List String) (values : List Value) : Row :=
  Entries.ofPairs ((columns.map Value.text).zip values)

/-- Takes a cursor where the engine has them. -/
def takeCursor : Action Adapter Unit := do
  if (← Action.current).engine = .duckdb then return
  call (.cursor (← held "cursor"))

/-- Releases the cursor. -/
def release : Action Adapter Unit := do
  if (← Action.current).engine = .duckdb then return
  call (.closeCursor (← held "cursor"))

/-- Whether a transaction is open. -/
def isInTransaction : Action Adapter Bool := do
  let a ← Action.current
  return a.driver.inTransaction a.calls

/-- Ends the work of a statement that succeeded. -/
def commit : Action Adapter Unit := do
  match (← Action.current).engine with
  | .sqlite | .other => if ← isInTransaction then call (.commit (← held "commit"))
  | .postgres => call (.commit (← held "commit"))
  | .duckdb | .fake => return

/-- Undoes the work of a statement that failed. -/
def rollback : Action Adapter Unit := do
  let a ← Action.current
  match a.engine with
  | .sqlite | .other => if ← isInTransaction then call (.rollback (← held "rollback"))
  | .postgres =>
    match ← Action.attempt (do call (.rollback (← held "rollback"))) with
    | .ok () => return
    | .error e =>
      match a.engine.ownFault? e with
      | some f => Action.log .postgres .warning ("PostgreSQL rollback failed: " ++ f.message)
      | none => throw e
  | .duckdb | .fake => return

/-- Hands a statement to the driver, fetches its rows and commits. -/
def work (sql : String) (params : List Value) : Action Adapter Execution := do
  let n ← held "execute"
  call (.execute n sql (if params.isEmpty then none else some params))
  let a ← Action.current
  let answer := a.driver.answer a.calls
  let columns := answer.columns.getD []
  if !columns.isEmpty then call (.fetchAll n)
  commit
  return {
    rows := if columns.isEmpty then [] else answer.rows.map (rowOf columns)
    columns
    rowsAffected := answer.rowCount.getD (.int (-1))
    sql }

/-- Answers a failed statement: an error of the engine's own driver is rolled back and wrapped. -/
def recover {α : Type} (what : String) (e : Failure) : Action Adapter α := do
  let a ← Action.current
  match a.engine.ownFault? e with
  | some f => do
    rollback
    throw (.statement ⟨what ++ f.message, a.engine.name, some (.fault f)⟩)
  | none => throw e

/-- Executes a statement. -/
def execute (sql : String) (params : Value := .null) : Action Adapter Execution := do
  let a ← Action.current
  if !a.connected then
    throw (statementError a.engine.name ("Not connected to " ++ a.engine.name))
  let values ← Action.ofExcept (boundValues params)
  let (driverSql, driverParams) := a.engine.prepare sql values
  let what := a.engine.name ++ " statement failed: "
  match ← Action.attempt takeCursor with
  | .error e => recover what e
  | .ok () =>
    let outcome ← Action.attempt (work driverSql driverParams)
    let outcome ← match outcome with
      | .ok r => pure (.ok r)
      | .error e => Action.attempt (recover what e)
    release
    Action.ofExcept outcome

/-- Whether a trivial statement still runs. -/
def healthCheck : Action Adapter Bool := do
  if !(← Action.current).connected then return false
  match ← Action.attempt (execute "SELECT 1") with
  | .ok _ => return true
  | .error (.connection _) => return false
  | .error (.statement _) => return false
  | .error e => throw e

/-- The rows of a statement. -/
def executeQuery (sql : String) (params : Value := .null) : Action Adapter (List Row) := do
  return (← execute sql params).rows

/-- The first value of the first row, if there are rows; a row without columns gives none. -/
def firstValue (rows : List Row) : Option (Option Value) :=
  rows.head?.map fun row => row.head?.map Prod.snd

/-- The failure of a statement that counts a value that is no integer. The error shows the value, if
it can be written. -/
def notCounted (engine : Engine) (v : Value) (fault : IntegerFault) : Failure :=
  if v.isWritable then
    .statement ⟨"Count statement returned a non-integer value: " ++ v.quoted, engine.name,
      some (.integer fault)⟩
  else .unwritable

/-- The number that a statement counts: nothing is zero, and a value that is no integer is an
error. -/
def countOf (engine : Engine) (rows : List Row) : Except Failure Int :=
  match (firstValue rows).join with
  | none => .ok 0
  | some .null => .ok 0
  | some v =>
    match v.toInteger with
    | .ok n => .ok n
    | .error (.infinite written) => .error (.integer (.infinite written))
    | .error fault => .error (notCounted engine v fault)

/-- Executes a statement that counts. -/
def executeCount (sql : String) (params : Value := .null) : Action Adapter Int := do
  let result ← execute sql params
  Action.ofExcept (countOf (← Action.current).engine result.rows)

/-- The number of changed rows that an engine answers with a row. -/
def changedOf (rows : List Row) : Except Failure Int :=
  match firstValue rows with
  | none => .ok 0
  | some none => .error (.misuse .exhausted)
  | some (some v) =>
    match v.toInteger with
    | .ok n => .ok n
    | .error fault => .error (.integer fault)

/-- Executes a statement that changes rows, and tells how many. -/
def executeUpdate (sql : String) (params : Value := .null) : Action Adapter Value := do
  let result ← execute sql params
  if (← Action.current).engine = .duckdb then
    return .int (← Action.ofExcept (changedOf result.rows))
  else return result.rowsAffected

/-- Runs several statements in one text, where the engine can. -/
def executeScript (script : String) : Action Adapter Unit := do
  let a ← Action.current
  let known := if a.engine = .duckdb then "duckdb" else "sqlite"
  match a.engine with
  | .postgres | .fake => throw (.misuse (.noMember a.engine.adapterName "execute_script"))
  | _ =>
    if !a.connected then throw (statementError a.engine.name ("Not connected to " ++ known))
    let step : Action Adapter Unit := do
      let n ← held "execute"
      call (if a.engine = .duckdb then .execute n script none else .script n script)
    match ← Action.attempt step with
    | .ok () => return
    | .error e =>
      match a.engine.ownFault? e with
      | some f =>
        throw (.statement
          ⟨known ++ " script failed: " ++ f.message, a.engine.name, some (.fault f)⟩)
      | none => throw e

end Adapter

end FluentQuery
