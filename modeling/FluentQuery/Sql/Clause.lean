import FluentQuery.Sql.Join
import FluentQuery.Sql.Window

/-!
# Clauses of queries

What follows the columns and tables of a query, in any order. No clause is given twice.

* **`clause?`** — one clause, under the name that it counts by;
* **`clausesRule`** — joins and then clauses, as long as there are any.
-/

namespace FluentQuery.Sql

open Reader

/-- A condition on rows, behind WHERE. -/
def whereClause : Reader (Option Node) := do
  if ← takeKeyword "WHERE" then
    let _ ← need disjunction
    return some .other
  else return none

/-- The definition of a window under a name. -/
def namedWindow : Reader (Option Node) := do window (← name) true

/-- Rows that follow from others, with the rows to start with. -/
def connection : Reader (Option Node) := do
  let started ← takeKeyword "START WITH"
  if started then discard disjunction
  let _ ← takeKeyword "CONNECT BY"
  let _ ← takeWord "NOCYCLE"
  modify fun c => { c with prior := true }
  let n ← disjunction
  modify fun c => { c with prior := false }
  let _ ← required n
  if !started then
    if ← takeKeyword "START WITH" then discard disjunction
  return some .other

/-- A lock of rows. -/
def lock : Reader Bool := do
  let found ←
    if ← takeSequence ["FOR", "UPDATE"] then pure true
    else if ← takeSequence ["FOR", "SHARE"] then pure true
    else if ← takeSequence ["LOCK", "IN", "SHARE", "MODE"] then pure true
    else if ← takeSequence ["FOR", "KEY", "SHARE"] then pure true
    else takeSequence ["FOR", "NO", "KEY", "UPDATE"]
  if !found then return false
  if ← takeWord "OF" then discard (items (table { columns := true }))
  if ← takeWord "NOWAIT" then return true
  else if ← takeWord "WAIT" then
    discard primary
    return true
  else
    let _ ← takeSequence ["SKIP", "LOCKED"]
    return true

/-- Locks of rows one after the other. -/
def locks : Reader (Option Node) := do
  let before ← index
  loop lock
  if before < (← index) then return some .other else return none

/-- A value of the rows that fit a pattern. -/
def measure : Reader (Option Node) := do
  let _ ← takeWords ["FINAL", "RUNNING"]
  let _ ← need expression
  return some .other

/-- Which rows there are for each fit of a pattern, and where the next fit is looked for. -/
def fitRows : Reader Unit := do
  if !(← takeSequence ["ONE", "ROW", "PER", "MATCH"]) then
    if ← takeSequence ["ALL", "ROWS", "PER", "MATCH"] then
      if !(← takeSequence ["SHOW", "EMPTY", "MATCHES"]) then
        if !(← takeSequence ["OMIT", "EMPTY", "MATCHES"]) then
          let _ ← takeSequence ["WITH", "UNMATCHED", "ROWS"]
  if ← takeSequence ["AFTER", "MATCH", "SKIP"] then
    if !(← takeSequence ["PAST", "LAST", "ROW"]) then
      if !(← takeSequence ["TO", "NEXT", "ROW"]) then
        if ← either (takeSequence ["TO", "FIRST"]) (takeSequence ["TO", "LAST"]) then
          if !(← takeAny) then failure

/-- A condition under a name. -/
def namedCondition : Reader (Option Node) := do
  let n ← name
  if ← takeKeyword "AS" then
    let _ ← need disjunction
    let _ ← required n
  return n

/-- A pattern of rows. -/
def rowPattern : Reader (Option Node) := do
  expectMark "("
  if ← takeKeyword "PARTITION BY" then discard (items disjunction)
  discard order
  if ← takeWord "MEASURES" then discard (items measure)
  fitRows
  if ← takeWord "PATTERN" then
    expectMark "("
    match insideParens 0 (← get).rest with
    | none => failure
    | some ts => advanceBy (ts.length + 1)
  if ← takeWord "DEFINE" then discard (items namedCondition)
  expectMark ")"
  discard tableAlias
  return some .other

/-- Options of a query. -/
def queryOptions : Reader (Option Node) := do
  discard (wrapped (items do
    let n ← function
    match n with
    | some n => return some n
    | none =>
      let first ← word true
      loop do
        if (← isMark ",") || (← isMark ")") || (← peek).isNone then return false
        advance
        return true
      return first))
  return some .other

/-- How the rows of a query are written as a document. -/
def documentForm : Reader (Option Node) := do
  if ← takeWords ["XML", "JSON"] then
    let _ ← items do
      match ← function with
      | some n => return some n
      | none => word true
    return some .other
  else return none

/-- A clause behind its keyword. -/
def keys : Reader (Option Node) := do
  sortKeys
  return some .other

/-- A condition behind its keyword. -/
def condition : Reader (Option Node) := do
  let _ ← need disjunction
  return some .other

/-- One clause by its keyword, under the name that it counts by; `none` if no clause comes next. -/
def clause? : Reader (Option (String × Option Node)) := do
  let d ← dialect
  match ← peekKind with
  | some (.keyword w) =>
    if !isClauseWord d (.keyword w) then return none
    let start ← index
    let named (key : String) (found : Option Node) : Reader (Option (String × Option Node)) :=
      return some (key, found)
    if w == "WHERE" then named "where" (← whereClause)
    else if w == "GROUP BY" then named "group" (← grouping)
    else if w == "LIMIT" || w == "FETCH" then named "limit" (← limit)
    else if w == "OFFSET" then named "offset" (← offset)
    else if w == "ORDER BY" || w == "ORDER SIBLINGS BY" then named "order" (← order)
    else if w == "FOR" || w == "LOCK" then
      if w == "FOR" && d.family == .tsql then
        advance
        match ← documentForm with
        | some n => named "for" (some n)
        | none =>
          retreat start
          named "locks" (← locks)
      else named "locks" (← locks)
    else if w == "TABLESAMPLE" || w == "USING" then
      let found ← sample true
      named "sample" (if found then some .other else none)
    else if w == "START WITH" || w == "CONNECT BY" then named "connect" (← connection)
    else
      advance
      if w == "HAVING" then named "having" (← condition)
      else if w == "QUALIFY" then named "qualify" (← condition)
      else if w == "PREWHERE" then named "prewhere" (← condition)
      else if w == "WINDOW" then
        let found ← items namedWindow
        named "windows" (if found.isEmpty then none else some .other)
      else if w == "CLUSTER BY" then named "cluster" (← keys)
      else if w == "DISTRIBUTE BY" then named "distribute" (← keys)
      else if w == "SORT BY" then named "sort" (← keys)
      else if w == "MATCH_RECOGNIZE" then named "match" (← rowPattern)
      else if w == "OPTION" then named "options" (← queryOptions)
      else if w == "SETTINGS" then
        let _ ← items assignment
        named "settings" (some .other)
      else if w == "FORMAT" then named "format" (← name)
      else if w == "WITH" then
        if ← takeSequence ["READ", "ONLY"] then named "restriction" (some .other)
        else if ← takeSequence ["CHECK", "OPTION"] then
          if ← takeKeyword "CONSTRAINT" then discard name
          named "restriction" (some .other)
        else
          retreat start
          return none
      else
        retreat start
        return none
  | _ => return none

/-- Adds one clause to a query, if one comes next. -/
def addClause (n : Node) : Reader (Option Node) := do
  match ← clause? with
  | some (key, some found) =>
    if n.has key then failure
    let n := n.adding key
    return some (if key == "limit" && found.has "offset" then n.adding "offset" else n)
  | _ => return none

/-- Adds joins and clauses to a query; any other part stays as it is. -/
def clausesRule (n : Option Node) : Reader (Option Node) := do
  match n with
  | none => return none
  | some n =>
    if !n.takesClauses then return some n
    let before ← index
    loop (return (← join).isSome)
    loop (return (← lateral).isSome)
    let joined : Bool := before < (← index)
    return some (← grow addClause (n.addingIf joined "joins"))

end FluentQuery.Sql
