import FluentQuery.Sql.Query

/-!
# Changes to rows

Statements that change, remove, add or merge rows. Each reader starts behind the keyword of its
statement.
-/

namespace FluentQuery.Sql

open Reader

/-- The columns of the changed rows, behind RETURNING. -/
def returning : Reader (Option Node) := do
  if ← takeKeyword "RETURNING" then
    requiredItems (← items expression)
    if ← takeKeyword "INTO" then discard (tablePart false)
    return some .other
  else return none

/-- One part of a change of values, under the name that it counts by. -/
def updatePart : Reader (Option String) := do
  if ← takeKeyword "SET" then
    discard (items equality)
    return some "set"
  else if ← isKeyword "RETURNING" then
    discard returning
    return some "returning"
  else if ← isKeyword "FROM" then
    discard (source true)
    return some "from"
  else if ← isKeyword "WHERE" then
    discard whereClause
    return some "where"
  else if ← isKeyword "ORDER BY" then
    discard order
    return some "order"
  else if ← isKeyword "LIMIT" then
    discard limit
    return some "limit"
  else return none

/-- A change of values. -/
def update : Reader (Option Node) := do
  let _ ← takeKeyword "HINT"
  discard (need (table { joins := true, excluded := some "SET" }))
  return some (← grow (fun n => return (← updatePart).map n.adding) (.of .change))

/-- A removal of rows. -/
def deletion : Reader (Option Node) := do
  let _ ← takeKeyword "HINT"
  if !(← isKeyword "FROM") then discard (items table)
  discard returning
  if ← takeKeyword "FROM" then discard (need (table { joins := true }))
  if ← takeKeyword "ON" then discard name
  if ← takeKeyword "USING" then discard (items (table { joins := true }))
  let filtered ← whereClause
  discard returning
  discard order
  discard limit
  return some ((Node.of .change).addingIf filtered.isSome "where")

/-- What happens to a row that is there already. -/
def conflict : Reader Unit := do
  let found ← if ← takeSequence ["ON", "CONFLICT"] then
      if ← takeSequence ["ON", "CONSTRAINT"] then discard name
      else if ← takeMark "(" then
        discard (items sortKey)
        expectMark ")"
      pure true
    else takeSequence ["ON", "DUPLICATE", "KEY"]
  if found then
    discard whereClause
    if ← takeWord "DO" then
      if !(← takeWord "NOTHING") then
        if !(← takeWord "UPDATE") then failure
    else if !(← takeWords ["ABORT", "FAIL", "IGNORE", "REPLACE", "ROLLBACK", "UPDATE"]) then failure
    if (← latest).map (·.kind) == some (.keyword "UPDATE") then
      let _ ← takeKeyword "SET"
      discard (items equality)
    discard whereClause

/-- An addition of rows. -/
def insertion : Reader (Option Node) := do
  let _ ← takeKeyword "HINT"
  let _ ← takeKeyword "OVERWRITE"
  let _ ← takeKeyword "IGNORE"
  let _ ← takeWord "LOCAL"
  if ← takeWord "DIRECTORY" then discard wordOrText
  else
    if ← takeKeyword "OR" then
      let _ ← takeWords ["ABORT", "FAIL", "IGNORE", "REPLACE", "ROLLBACK"]
    let _ ← takeKeyword "INTO"
    let _ ← takeKeyword "TABLE"
    if ← takeKeyword "FUNCTION" then discard function
    else
      discard (need (table { columns := true, part := true }))
      if ← isKeyword "AS" then discard tableAlias
  discard returning
  let _ ← takeSequence ["BY", "NAME"]
  if !(← takeSequence ["IF", "NOT", "EXISTS"]) then
    let _ ← takeSequence ["IF", "EXISTS"]
  let filtered ← takePair (.keyword "REPLACE") (.keyword "WHERE")
  let filter ← if filtered then disjunction else pure none
  let _ ← takeSequence ["DEFAULT", "VALUES"]
  let rows ← rowsOfValues
  if rows.isNone then
    discard (clauses (← setOperations (← query { nested := true, named := false })))
  conflict
  discard returning
  if ← takeKeyword "TABLE" then discard table
  return some ((Node.of .change).addingIf filter.isSome "where")

/-- What happens to the rows that are matched, or to those that are not. -/
def mergeAction : Reader (Option Node) := do
  if !(← takeKeyword "WHEN") then return none
  let _ ← takeKeyword "NOT"
  let _ ← takeWord "MATCHED"
  if !(← takeSequence ["BY", "TARGET"]) then
    let _ ← takeSequence ["BY", "SOURCE"]
  if ← takeKeyword "AND" then discard disjunction
  let _ ← takeKeyword "THEN"
  if ← takeKeyword "INSERT" then
    if !(← takeMark "*") then
      if !(← takeWord "ROW") then
        if ← isMark "(" then discard rowOfValues
        if ← takeWord "VALUES" then discard rowOfValues
    discard whereClause
    return some .other
  else if ← takeKeyword "UPDATE" then
    if !(← takeMark "*") then
      let _ ← takeKeyword "SET"
      discard (items equality)
    discard whereClause
    return some .other
  else if ← takeKeyword "DELETE" then return some .other
  else if ← takeSequence ["DO", "NOTHING"] then return some .other
  else failure

/-- A change of a table by the rows of another. -/
def merge : Reader (Option Node) := do
  let _ ← takeKeyword "INTO"
  discard (need table)
  let _ ← takeKeyword "USING"
  discard (need table)
  if ← takeKeyword "ON" then discard (need disjunction)
  else if ← takeKeyword "USING" then joinColumns
  let before ← index
  loop (return (← mergeAction).isSome)
  if (← index) ≤ before then failure
  discard returning
  return some (.of .change)

end FluentQuery.Sql
