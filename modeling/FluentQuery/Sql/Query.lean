import FluentQuery.Sql.Clause

/-!
# Queries

* **`definitions`** — queries that are given names in front of a statement;
* **`selectBody`** — the columns and tables of a query, with its clauses;
* **`queryRule`** — a query, perhaps in parentheses, perhaps with its tables in front;
* **`setOperationsRule`** — unions, intersections and differences. An order and a limit of the last
  query belong to the whole.
-/

namespace FluentQuery.Sql

open Reader

/-- A query that is given a name. -/
def definition : Reader (Option Node) := do
  let d ← dialect
  let second ← tableAlias (some (Kind.isName d))
  match second with
  | some n => if n.form != .name then failure
  | none => failure
  if ← takeSequence ["USING", "KEY"] then discard namesInParens
  let _ ← takeKeyword "AS"
  if !(← takeSequence ["NOT", "MATERIALIZED"]) then
    let _ ← takeWord "MATERIALIZED"
  let found ← wrapped statement
  let _ ← required found
  return some .other

/-- How rows that follow from others are searched. -/
def search : Reader Unit := do
  if ← takeWord "SEARCH" then
    let _ ← takeAny
    let _ ← takeSequence ["FIRST", "BY"]
    discard (items name)
    if ← takeKeyword "SET" then discard name
    if ← takeKeyword "USING" then discard name
  else if ← takeWord "CYCLE" then
    discard (items name)
    if ← takeKeyword "SET" then discard name
    if ← takeKeyword "USING" then discard name

/-- Queries that are given names, behind WITH; tells whether there are any. -/
def definitions : Reader Bool := do
  if !(← takeKeyword "WITH") then return false
  let _ ← takeKeyword "RECURSIVE"
  loop do
    let _ ← definition
    let comma ← takeMark ","
    let again ← takeKeyword "WITH"
    return comma || again
  search
  return true

/-- A list in parentheses, or an expression. -/
def distinctKeys : Reader Unit := do
  if ← takeMark "(" then
    discard (items expression)
    expectMark ")"
  else discard expression

/-- Where the rows of a query go. -/
def destination : Reader Bool := do
  let d ← dialect
  let bulk ← if d == .oracle then takeKeyword "BULK COLLECT INTO" else pure false
  if !bulk then
    if !(← takeKeyword "INTO") then return false
  if d == .oracle then
    let start ← index
    let found ← items expression
    if found.length != 1 then
      requiredItems found
      return true
    retreat start
  let _ ← takeKeyword "TEMPORARY"
  let _ ← takeWord "UNLOGGED"
  let _ ← takeKeyword "TABLE"
  discard (need (table { columns := true }))
  return true

/-- The tables of a query, behind FROM; tells whether there are any. -/
def source (joins : Bool) : Reader Bool := do
  if ← takeKeyword "FROM" then
    discard (need (table { joins }))
    return true
  else return false

/-- Words in front of the columns that say how a query runs. -/
def runWords (d : Dialect) : List String :=
  if d.family == .mysql then
    ["HIGH_PRIORITY", "STRAIGHT_JOIN", "SQL_SMALL_RESULT", "SQL_BIG_RESULT", "SQL_BUFFER_RESULT",
      "SQL_NO_CACHE", "SQL_CALC_FOUND_ROWS"]
  else []

/-- What follows SELECT; `sourced` tells that the tables stand in front. -/
def selectBody (sourced : Bool) : Reader (Option Node) := do
  let d ← dialect
  let _ ← takeKeyword "HINT"
  let isQualified : Bool := match ← peekSecondKind with
    | none => true
    | some k => k == .mark "."
  let all ← if isQualified then pure false else takeKeyword "ALL"
  let distinct ← if isQualified then pure false
    else
      takeIf fun k => k == .keyword "DISTINCT" || (d == .oracle && k == .keyword "UNIQUE")
  if all && distinct then failure
  if ← takeKeyword "AS" then
    let _ ← takeWords ["STRUCT", "VALUE"]
  if distinct then
    if ← takeKeyword "ON" then distinctKeys
  loop (takeWords (runWords d))
  let limited ← top
  discard (items expression)
  discard destination
  if !sourced then discard (source false)
  clauses (some ((Node.of .select).addingIf limited "limit"))

/-- A query or a table inside parentheses. -/
def wrappedQuery (asTable : Bool) : Reader (Option Node) := do
  let n ←
    if ← isKeyword "FROM" then query
    else if asTable then
      let n ← table
      pure (n.map fun n =>
        if n.form == .values && n.has "alias" then { n with form := .table } else n)
    else query { nested := true, sets := false }
  clauses (← setOperations n)

/-- What a table is turned into by a statement of its own. -/
def statementOfPivot : Reader (Option Node) := do
  let field : Reader (Option Node) := do
    let n ← column
    if ← takeKeyword "IN" then discard (membership n)
    let _ ← required n
    return some .other
  discard (need table)
  if ← takeKeyword "ON" then discard (items field)
  if ← takeKeyword "USING" then
    discard (items (do aliased (← field)))
  let _ ← grouping
  return some .other

/-- A description of a table or a query. -/
def description : Reader (Option Node) := do
  let _ ← takeWords ["ANALYZE", "EXTENDED", "FORMATTED", "HISTORY"]
  discard (need (table { columns := true }))
  return some .other

/-- The steps of a query behind its tables, each behind a mark of its own. -/
def step (n : Node) : Reader (Option Node) := do
  if !(← takeMark "|>") then return none
  if ← isKeyword "WHERE" then
    discard whereClause
    return some (n.adding "where")
  else if ← isKeyword "ORDER BY" then
    discard (order none)
    return some n
  else if ← isKeyword "LIMIT" then
    discard (limit none)
    discard offset
    return some n
  else if ← takeKeyword "SELECT" then
    discard (selectBody false)
    return some (.of .select)
  else if ← takeWord "EXTEND" then
    discard (items expression)
    return some (.of .select)
  else if ← takeWord "AGGREGATE" then
    discard (items (do aliased (← assignment)))
    if ← takeSequence ["GROUP", "AND", "ORDER", "BY"] then discard (items sortKey)
    else discard grouping
    return some (.of .select)
  else if ← isKeyword "AS" then
    discard tableAlias
    return some (.of .select)
  else if ← takeKeyword "DISTINCT" then return some (.of .select)
  else if ← isNext fun k => k == .keyword "PIVOT" || k == .keyword "UNPIVOT" then
    discard pivots
    return some n
  else if ← isKeyword "TABLESAMPLE" then
    discard sample
    return some n
  else
    discard (need join)
    return some n

/-- A query without others joined to it. -/
def queryUnit (place : QueryPlace) : Reader (Option Node) := do
  let sourced ← source true
  if ← takeKeyword "SELECT" then selectBody sourced
  else if ← isKeyword "VALUES" then rowsOfValues
  else if sourced then clauses (some (.of .select))
  else if ← takeKeyword "SUMMARIZE" then
    let _ ← takeKeyword "TABLE"
    let found ← match ← query with
      | some n => pure (some n)
      | none =>
        match ← text with
        | some n => pure (some n)
        | none => table
    let _ ← required found
    return some .other
  else if ← takeKeyword "DESCRIBE" then description
  else if !place.table && (← isKeyword "TABLE") then
    let isNamed : Bool := match ← peekSecondKind with
      | some .word => true
      | some .name => true
      | _ => false
    if isNamed then
      advance
      discard (need table)
      clauses (some (.of .select))
    else return none
  else return none

/-- A query. -/
def queryRule (place : QueryPlace) : Reader (Option Node) := do
  if ← definitions then
    let n := (← need statement).unwrapped
    if n.takesDefinitions then return some (n.adding "with") else failure
  else if ← onlyIf (place.table || place.nested) (takeMark "(") then
    let found ← wrappedQuery place.table
    expectMark ")"
    match found with
    | some n => return some (← parenthesised n place.named)
    | none => return none
  else
    let n ← queryUnit place
    let n ← if place.sets then setOperations n else pure n
    match n with
    | some n => if n.isQuery then return some (← grow step n) else return some n
    | none => return none

/-- Whether a union need not say whether rows may occur twice. -/
def defaultsToDistinct (d : Dialect) (operation : String) : Bool :=
  d != .bigquery && !(d == .clickhouse && operation == "UNION")

/-- A query joined to the one in front: the whole and the query on the right. -/
def setOperation : Reader (Option (Node × Node)) := do
  let d ← dialect
  let start ← index
  discard joinParts
  match ← takeOneOf ["UNION", "INTERSECT", "EXCEPT"] with
  | none =>
    retreat start
    return none
  | some operation =>
    let said ← takeKeywords ["DISTINCT", "ALL"]
    if !said && !defaultsToDistinct d operation then failure
    let byName ← if ← takeSequence ["BY", "NAME"] then pure true
      else takeSequence ["STRICT", "CORRESPONDING"]
    let corresponding ← takeWord "CORRESPONDING"
    if byName || corresponding then
      if ← takeWords ["ON", "BY"] then discard (wrapped (items column))
    let right ← need (query { nested := true, sets := false })
    return some (.of .setOperation, right)

/-- Clauses of the last query that belong to the whole. -/
def sharedClauses : List String := ["order", "limit", "offset"]

/-- The queries joined to a part. -/
def setOperationsRule (n : Option Node) : Reader (Option Node) := do
  match n with
  | none => return none
  | some n =>
    match ← setOperation with
    | none => return some n
    | some (whole, right) =>
      let (whole, right) ← go whole right ((← get).rest.length + 1)
      return some { whole with
        clauses := whole.clauses ++ sharedClauses.filter fun c => right.has c }
where
  /-- One query after the other, the latest on the right. -/
  go (whole right : Node) : Nat → Reader (Node × Node)
    | 0 => pure (whole, right)
    | fuel + 1 => do
      match ← setOperation with
      | some (whole, right) => go whole right fuel
      | none => return (whole, right)

end FluentQuery.Sql
