import FluentQuery.Sql.Operator

/-!
# Orders, limits and windows

* **`orderRule`** — keys with their directions;
* **`limitRule`**, **`offsetRule`** — how many rows there are, by LIMIT or FETCH, and how many are
  left out;
* **`windowRule`** — what may follow the parentheses of a function: an order within groups, a
  condition on rows, the treatment of nulls, and the window itself.
-/

namespace FluentQuery.Sql

open Reader

/-- One of the values that fill gaps of an order. -/
def filling : Reader Unit := do
  if ← takeKeyword "FROM" then discard bitwise
  if ← takeWord "TO" then discard bitwise
  if ← takeWord "STEP" then discard bitwise
  if ← takeWord "INTERPOLATE" then
    if ← takeMark "(" then
      discard (items (do aliased (← assignment)))
      expectMark ")"

/-- A key of an order. -/
def sortKey : Reader (Option Node) := do
  match ← disjunction with
  | none => return none
  | some _ =>
    let _ ← takeKeyword "ASC"
    let _ ← takeKeyword "DESC"
    let _ ← takeSequence ["NULLS", "FIRST"]
    let _ ← takeSequence ["NULLS", "LAST"]
    if ← takeSequence ["WITH", "FILL"] then filling
    return some .other

/-- Keys of an order, at least one. -/
def sortKeys : Reader Unit := do requiredItems (← items sortKey)

/-- An order of a part, which may also stand without one. -/
def orderRule (n : Option Node) : Reader (Option Node) := do
  if ← takeKeywords ["ORDER BY", "ORDER SIBLINGS BY"] then
    sortKeys
    return some .other
  else return n

/-- What else is said of a limit; tells whether anything is. -/
def limitOptions : Reader Unit := do
  let _ ← takeIf fun k => k == .keyword "PERCENT" || k == .mark "%" || k == .keyword "MOD"
  let _ ← takeKeywords ["ROW", "ROWS"]
  let _ ← takeWord "ONLY"
  let _ ← takeSequence ["WITH", "TIES"]

/-- Columns of which each combination has a limit of its own. -/
def limitBy : Reader Unit := do
  if ← takeWord "BY" then discard (items bitwise)

/-- Whether ALL is a limit. -/
def limitsByAll (d : Dialect) : Bool := d.isOf [.postgres, .duckdb]

/-- The number of rows behind LIMIT. A remainder is a number with a sign for percent. -/
def limitCount : Reader (Option Node) := do
  let start ← index
  match ← attempt term with
  | some { form := .remainder, .. } =>
    retreat start
    factor
  | some n => return some n
  | none =>
    retreat start
    factor

/-- A limit of the rows of a part. A number of rows to leave out may stand in front of it. -/
def limitRule (n : Option Node) : Reader (Option Node) := do
  let d ← dialect
  if ← takeKeyword "LIMIT" then
    if limitsByAll d then
      if ← takeKeyword "ALL" then return some .other
    let count ← limitCount
    limitOptions
    if ← takeMark "," then
      let _ ← need term
      limitBy
      return some (Node.other.adding "offset")
    let _ ← required count
    limitBy
    return some .other
  else if ← takeKeyword "FETCH" then
    let _ ← takeKeywords ["FIRST", "NEXT"]
    let accepts (k : Kind) : Bool :=
      k.isName d && k != .keyword "ROW" && k != .keyword "ROWS" && k != .keyword "PERCENT"
    let _ ← field false (some accepts)
    limitOptions
    return some .other
  else return n

/-- The number of rows behind TOP. -/
def top : Reader Bool := do
  if ← takeKeyword "TOP" then
    if ← takeMark "(" then
      match ← term with
      | some _ => pure ()
      | none => discard (need query)
      expectMark ")"
    else discard (need number)
    limitOptions
    if ← takeMark "," then discard (need term)
    limitBy
    return true
  else return false

/-- A number of rows to leave out. -/
def offsetRule : Reader (Option Node) := do
  if ← takeKeyword "OFFSET" then
    let _ ← need term
    let _ ← takeKeywords ["ROW", "ROWS"]
    limitBy
    return some .other
  else return none

/-- The treatment of nulls. -/
def nullTreatment (n : Option Node) : Reader (Option Node) := do
  if ← either (takeSequence ["IGNORE", "NULLS"]) (takeSequence ["RESPECT", "NULLS"]) then
    let _ ← required n
    return some .other
  else return n

/-- One end of a frame of rows. -/
def frameEnd : Reader Unit := do
  let _ ← takeKeyword "BETWEEN"
  if !(← takeWord "UNBOUNDED") then
    if !(← takeSequence ["CURRENT", "ROW"]) then discard bitwise
  let _ ← takeWords ["FOLLOWING", "PRECEDING"]

/-- What a frame leaves out. -/
def frameExclusion : Reader Unit := do
  if ← takeWord "EXCLUDE" then
    if ← takeSequence ["NO", "OTHERS"] then pure ()
    else if ← takeSequence ["CURRENT", "ROW"] then pure ()
    else if ← takeWords ["GROUP", "TIES"] then pure ()
    else failure

/-- The content of a window, up to the closing parenthesis. -/
def windowBody : Reader Unit := do
  let d ← dialect
  let accepts (k : Kind) : Bool := k.isName d && k != .type "RANGE" && k != .keyword "ROWS"
  let _ ← name false (some accepts)
  let _ ← takeKeyword "FIRST"
  let _ ← takeWord "LAST"
  if ← takeKeyword "PARTITION BY" then discard (items disjunction)
  let _ ← order
  let framed ← if ← takeIf fun k => k == .keyword "ROWS" || k == .type "RANGE" then pure true
    else takeWord "GROUPS"
  if framed then
    let _ ← takeKeyword "BETWEEN"
    frameEnd
    if ← takeKeyword "AND" then frameEnd
    frameExclusion
  expectMark ")"

/-- Whether the keyword of a window comes next. -/
def startsWindow : Reader Bool := do
  let d ← dialect
  isNext fun k => k == .keyword "OVER" || (d == .oracle && k == .keyword "KEEP")

/-- What follows the parentheses of a function; `named` tells that it is the definition of a
window under a name. -/
def windowRule (n : Option Node) (named : Bool) : Reader (Option Node) := do
  let n ← if ← takeSequence ["WITHIN", "GROUP"] then
      let _ ← wrapped order
      let _ ← required n
      pure (some .other)
    else pure n
  let n ← if ← takePair (.keyword "FILTER") (.mark "(") then
      let _ ← takeKeyword "WHERE"
      let _ ← need disjunction
      expectMark ")"
      let _ ← required n
      pure (some .other)
    else pure n
  let n ← nullTreatment n
  if named then
    let _ ← takeKeyword "AS"
    let _ ← required n
  else if ← startsWindow then
    advance
    let _ ← required n
  else return n
  if !(← takeMark "(") then
    let _ ← name false
    return some (.of .function)
  windowBody
  if ← startsWindow then window (some (.of .function)) named
  else return some (.of .function)

end FluentQuery.Sql
