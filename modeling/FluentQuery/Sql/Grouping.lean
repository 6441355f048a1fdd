import FluentQuery.Sql.Operator

/-!
# Groups of rows

What follows GROUP BY: expressions, and the words that make totals of them.
-/

namespace FluentQuery.Sql

open Reader

/-- Keywords that start a clause of a query. -/
def clauseWords : List String :=
  ["MATCH_RECOGNIZE", "PREWHERE", "WHERE", "GROUP BY", "HAVING", "QUALIFY", "WINDOW", "ORDER BY",
    "LIMIT", "FETCH", "OFFSET", "FOR", "LOCK", "TABLESAMPLE", "USING", "CLUSTER BY",
    "DISTRIBUTE BY", "SORT BY", "CONNECT BY", "START WITH"]

/-- Whether a token starts a clause of a query in a dialect. -/
def isClauseWord (d : Dialect) : Kind → Bool
  | .keyword w =>
    clauseWords.contains w ||
      (d == .oracle && (w == "ORDER SIBLINGS BY" || w == "WITH")) ||
      (d.family == .tsql && w == "OPTION") ||
      (d == .clickhouse && (w == "SETTINGS" || w == "FORMAT"))
  | _ => false

/-- Totals over parts of a list; `listed` tells that the list stands in front. -/
def totals (listed : Bool) : Reader Bool := do
  if ← takeKeywords ["CUBE", "ROLLUP"] then
    if !listed then discard (wrapped (items bitwise))
    return true
  else return false

/-- One set of a list of groups. -/
def groupingSet : Reader (Option Node) := do
  if ← totals false then return some .other else bitwise

/-- Sets of groups. -/
def groupingSets : Reader Bool := do
  if ← takeKeyword "GROUPING SETS" then
    requiredItems (← wrapped (items groupingSet))
    return true
  else return false

/-- One run of expressions with the totals behind them; tells whether more may follow. -/
def groupRun : Reader Bool := do
  let start ← index
  let _ ← items do
    if ← isNext fun k => k == .keyword "CUBE" || k == .keyword "ROLLUP" then return none
    else disjunction
  let before ← index
  let listed ← takeKeyword "WITH"
  if !(← totals listed) then
    if !(← groupingSets) then
      let _ ← takeWord "TOTALS"
  let now ← index
  if now ≤ before + 1 then
    retreat before
    return false
  else return start < now

/-- What follows GROUP BY, and the keyword itself. -/
def grouping : Reader (Option Node) := do
  if !(← takeKeyword "GROUP BY") then return none
  let d ← dialect
  if !(← takeKeyword "ALL") then
    let _ ← takeKeyword "DISTINCT"
  if ← isNext (isClauseWord d) then return some .other
  loop groupRun
  return some .other

end FluentQuery.Sql
