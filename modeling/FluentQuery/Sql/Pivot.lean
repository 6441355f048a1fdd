import FluentQuery.Sql.Grouping
import FluentQuery.Sql.TypeName

/-!
# Samples and turned tables

* **`sample`** — a part of the rows of a table that is taken at random;
* **`pivots`** — a table of which rows are turned into columns, or columns into rows.
-/

namespace FluentQuery.Sql

open Reader

/-- The sample of a table; `clause` tells that it is a clause of a query. -/
def sample (clause : Bool := false) : Reader Bool := do
  let d ← dialect
  let found ← if ← takeKeyword "TABLESAMPLE" then pure true
    else if clause then takeSequence ["USING", "SAMPLE"]
    else pure false
  if !found then return false
  let _ ← word false (· == .keyword "ROW")
  let opened ← takeMark "("
  if d == .teradata then discard (items primary)
  else if ← isNext (· == .number) then discard factor
  else
    match ← primary with
    | some _ => pure ()
    | none => discard placeholder
  if ← takeWord "BUCKET" then
    let _ ← number
    let _ ← takeSequence ["OUT", "OF"]
    let _ ← number
    if ← takeKeyword "ON" then discard field
  else if !(← takeIf fun k => k == .keyword "PERCENT" || k == .mark "%") then
    let _ ← takeKeyword "ROWS"
  if opened then expectMark ")"
  if ← takeMark "(" then
    let _ ← word
    if ← takeMark "," then discard number
    expectMark ")"
  else if ← takeWords ["SEED", "REPEATABLE"] then discard (wrapped number)
  return true

/-- An expression with a second name, with or without AS. -/
def pivotValue : Reader (Option Node) := do
  let n ← queryOrExpression
  let _ ← takeKeyword "AS"
  let second ← bitwise
  if second.isSome then
    let _ ← required n
    return some .other
  else return n

/-- A column with the values that become columns. -/
def pivotField : Reader (Option Node) := do
  let value ← column
  if !(← takeKeyword "IN") then failure
  if ← takeMark "(" then
    if ← takeKeyword "ANY" then discard order else discard (items pivotValue)
    expectMark ")"
  else discard name
  let _ ← required value
  return some .other

/-- A function of the rows that are turned. -/
def pivotFunction : Reader (Option Node) := do aliased (← function)

/-- One turn of a table. -/
def pivot : Reader Bool := do
  let start ← index
  let turned ←
    if ← takeKeyword "PIVOT" then pure (some false)
    else if ← takeKeyword "UNPIVOT" then
      if !(← takeSequence ["INCLUDE", "NULLS"]) then
        let _ ← takeSequence ["EXCLUDE", "NULLS"]
      pure (some true)
    else pure none
  match turned with
  | none => return false
  | some back =>
    if !(← takeMark "(") then
      retreat start
      return false
    requiredItems (← items (if back then column else pivotFunction))
    if !(← takeKeyword "FOR") then failure
    loop (return (← attempt pivotField).isSome)
    if ← takeSequence ["DEFAULT", "ON", "NULL"] then discard (wrapped bitwise)
    let _ ← grouping
    expectMark ")"
    if !(← isNext fun k => k == .keyword "PIVOT" || k == .keyword "UNPIVOT") then
      discard tableAlias
    return true

/-- Turns of a table one after the other; tells whether there is one. -/
def pivots : Reader Bool := do
  let before ← index
  loop pivot
  return before < (← index)

/-- A query or a table in parentheses, with a second name if `named` tells so. -/
def parenthesised (n : Node) (named : Bool) : Reader Node := do
  let turned ← pivots
  let second ← if named then tableAlias else pure none
  let sampled ← sample
  return ((n.inParens.addingIf turned "pivots").addingIf second.isSome "alias").addingIf
    sampled "sample"

end FluentQuery.Sql
