import FluentQuery.Action
import FluentQuery.Settings.Load
import FluentQuery.Statement.Render

/-!
# Compiling

Compiling turns clauses into a statement: it inspects custom SQL by the rules of a dialect, and
logs each statement if the settings ask for it. The clauses are never changed.
-/

namespace FluentQuery

/-- The settings in force. -/
def Action.settings : Action Configuration Settings := ExceptT.mk do
  let s ← get
  let (found, kept) := s.state.settings
  set { s with state := kept }
  return match found with
    | .ok settings => .ok settings
    | .error e => .error (.invalid e)

namespace Compile

/-- The dialect for a value given for one: null stands for the one of the settings. -/
def dialect (given : Value) : Action Configuration Value := do
  match given with
  | .null =>
    let settings ← Action.settings
    return match settings.sqlDialect with
      | some d => .text d
      | none => .null
  | v =>
    if Sql.isKnownDialect v then return v
    else throw (.refusal (.unknownDialect v))

/-- The head over the custom SQL of a query. The record of custom SQL that cannot be read ends where
the words of the parser about it would follow. -/
def customHead (dialect : Value) (s : Clauses) : Action Configuration Head := do
  let sql ← Action.ofExcept (customText s.customSql)
  let found := Sql.inspect (.ofValue dialect) sql
  if found = .unparsed then
    Action.log .compiler .debug "Could not parse custom SQL, falling back to keyword match"
  return .ofCustomSql found s sql

/-- Passes a statement on and logs it if the settings ask for it. -/
def finish (statement : Statement) : Action Configuration Statement := do
  let settings ← Action.settings
  if settings.logSql then
    Action.log .compiler .debug
      ("Compiled SQL: " ++ statement.sql ++ " | " ++ intText statement.params.length ++
        " bound param(s)")
  return statement

/-- The statement that reads rows. -/
def select (dialect : Value) (s : Clauses) (table : Value) (o : Overrides := {}) :
    Action Configuration Statement := do
  if s.isCustom then
    let head ← customHead dialect s
    finish (← Action.ofExcept (s.selectOver head o))
  else finish (← Action.ofExcept (s.selectFrom table o))

/-- The statement that counts rows: sort keys and bounds are dropped, and custom SQL becomes a
derived table. -/
def count (dialect : Value) (s : Clauses) (table : Value) : Action Configuration Statement := do
  if s.isCustom then
    finish (Clauses.countOf (← select dialect s.withoutPaging .null { withOrder := false }))
  else finish (← Action.ofExcept (s.countFrom table))

/-- The statement that deletes rows by the conditions alone. -/
def delete (s : Clauses) (table : Value) : Action Configuration Statement := do
  finish (← Action.ofExcept (s.deleteFrom table))

end Compile

end FluentQuery
