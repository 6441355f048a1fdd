import FluentQuery.Sql.Call

/-!
# Tables

What rows are taken from.

* **`tableName`** — the name of a table with its parts, or a function;
* **`rowsOfValues`** — rows that are written out; **`unnest`**, **`lateral`** — tables made of a
  list or of each row in front;
* **`tableRule`** — any of these or a query, with a second name, hints, a sample and a version;
* **`joinRule`** — one more table, with what it is joined on.
-/

namespace FluentQuery.Sql

open Reader

/-- Whether no character stands between the token taken last and the next. -/
def isConnected : Reader Bool := do
  match ← latest, ← peek with
  | some a, some b => return a.stop == b.start
  | _, _ => return false

/-- Takes what goes on a name behind dashes. -/
def dashedName : Reader Unit := do
  let follows (k : Kind) : Bool := k == .mark "." || k == .mark "(" || k == .mark ")"
  loop do
    if (← isMark "-") && (← peekSecond).isSome then
      let before ← index
      loop do
        if (← isConnected) && !(← isNext follows) then
          advance
          return true
        else return false
      return before < (← index)
    else return false

/-- One part of the name of a table. -/
def tablePart (columns : Bool) : Reader (Option Node) := do
  let d ← dialect
  let called ← if columns then pure none else function { bare := false }
  let found ← match called with
    | some n => pure (some n)
    | none =>
      match ← name false with
      | some n => pure (some n)
      | none =>
        match ← textAsName with
        | some n => pure (some n)
        | none => placeholder
  if d == .bigquery then
    match found with
    | some n =>
      if n.form == .name then dashedName
      return found
    | none =>
      match ← number with
      | some n =>
        if ← isConnected then discard (word true)
        return some n
      | none => return none
  else if d == .snowflake && found.isNone then
    if ← takeMark "@" then
      loop do
        if ← isConnected then
          advance
          return true
        else return false
      return some .other
    else return none
  else return found

/-- The time of the rows that are taken. -/
def history : Reader Unit := do
  let start ← index
  let placed ← takeWords ["AT", "BEFORE", "END"]
  let opened ← onlyIf placed (takeMark "(")
  let _ ← onlyIf opened (takeWords ["OFFSET", "STATEMENT", "STREAM", "TIMESTAMP", "VERSION"])
  let time ← if ← onlyIf placed (takeMark "=>") then bitwise else pure none
  if time.isSome then expectMark ")" else retreat start

/-- The changes of a table, as its rows. -/
def changes : Reader Unit := do
  if ← takeSequence ["CHANGES", "(", "INFORMATION", "=>"] then
    discard (word true)
    expectMark ")"
    history
    history

/-- The name of a table with its parts; a part between two points may be missing. -/
def tableName (columns : Bool := false) : Reader Node := do
  let first ← tablePart columns
  let rec parts (depth : Nat) (n : Option Node) : Nat → Reader (Option Node)
    | 0 => pure n
    | fuel + 1 => do
      if ← takeMark "." then
        let part ← tablePart columns
        if 1 < depth then discard (required part)
        parts (depth + 1) part fuel
      else return n
  let last ← parts 0 first ((← get).rest.length + 1)
  let n ← required last
  changes
  history
  let turned ← pivots
  return ({ form := .table, name := n.name } : Node).addingIf turned "pivots"

/-- A row of values that are written out. -/
def rowOfValues : Reader (Option Node) := do
  if ← takeMark "(" then
    let _ ← items expression
    expectMark ")"
    return some .other
  else expression

/-- Rows that are written out. -/
def rowsOfValues : Reader (Option Node) := do
  let wrappedRows ← if ← isPair (.mark "(") (.keyword "VALUES") then
      advance
      advance
      pure true
    else pure false
  if !wrappedRows then
    if !(← takeWord "VALUES") then
      if !(← takeSequence ["FORMAT", "VALUES"]) then return none
  requiredItems (← items rowOfValues)
  let second ← tableAlias
  if wrappedRows then expectMark ")"
  let second ← if second.isSome then pure second else tableAlias
  return some ((Node.of .values).addingIf second.isSome "alias")

/-- Whether a list that is unfolded has names for columns only. -/
def namesColumnsOnly (d : Dialect) : Bool := d == .bigquery

/-- A table made of the items of a list. -/
def unnest : Reader (Option Node) := do
  let d ← dialect
  if ← isPair (.keyword "UNNEST") (.mark "(") then
    advance
    requiredItems (← wrapped (items equality))
    let numbered ← takePair (.keyword "WITH") (.keyword "ORDINALITY")
    let before ← index
    let second ← tableAlias
    if namesColumnsOnly d && second.isSome then
      if (← latest).map (·.kind) == some (.mark ")") && before < (← index) then failure
    if !numbered then
      if ← takePair (.keyword "WITH") (.keyword "OFFSET") then
        let _ ← takeKeyword "AS"
        let accepts (k : Kind) : Bool :=
          k.isName d && k != .keyword "UNION" && k != .keyword "EXCEPT"
        discard (name false (some accepts))
    return some ((Node.of .unnest).addingIf second.isSome "alias")
  else return none

/-- The parts of the name of a function behind points. -/
def lateralSource : Reader (Option Node) := do
  let part : Reader (Option Node) := do
    match ← function with
    | some n => return some n
    | none => name false
  let first ← match ← unnest with
    | some n => pure (some n)
    | none => part
  loop do
    if ← takeMark "." then
      let _ ← required first
      let _ ← need part
      return true
    else return false
  return first

/-- A table made of each row in front of it. -/
def lateral : Reader (Option Node) := do
  let applied ←
    if ← takePair (.keyword "CROSS") (.keyword "APPLY") then pure true
    else takePair (.keyword "OUTER") (.keyword "APPLY")
  let found ← if applied then pure true else takeKeyword "LATERAL"
  if !found then return none
  let first ← query { table := true }
  let isView ← if applied then pure false else takeKeyword "VIEW"
  if !applied then
    let _ ← takeKeyword "OUTER"
  let source ← match first with
    | some n => pure (some n)
    | none => lateralSource
  let n ← required source
  if isView then
    discard (name false)
    if ← takeKeyword "AS" then discard (items name)
  else if (n.form == .subquery || n.form == .unnest) && n.has "alias" then pure ()
  else
    let _ ← takePair (.keyword "WITH") (.keyword "ORDINALITY")
    discard tableAlias
  return some (.of .lateral)

/-- One end of the versions of a table. -/
def versionOfTable : Reader Unit := do
  if ← takeKeywords ["FOR TIMESTAMP", "FOR VERSION"] then
    if ← takeKeywords ["FROM", "BETWEEN"] then
      let _ ← bitwise
      let _ ← takeWords ["TO", "AND"]
      discard bitwise
    else if ← takeSequence ["CONTAINED", "IN"] then discard (wrapped (items bitwise))
    else if ← takeKeyword "ALL" then pure ()
    else
      let _ ← takeSequence ["AS", "OF"]
      discard operand

/-- Hints on how a table is read. -/
def tableHints : Reader Unit := do
  if ← takePair (.keyword "WITH") (.mark "(") then
    let _ ← items do
      match ← function with
      | some n => return some n
      | none => word true
    expectMark ")"
  else
    loop do
      if ← takeKeywords ["FORCE", "IGNORE", "USE"] then
        let _ ← takeKeywords ["INDEX", "KEY"]
        if ← takeKeyword "FOR" then
          let _ ← takeAny
        let _ ← namesInParens
        return true
      else return false

/-- Whether the second name of a table follows its sample. -/
def namesSampledTable (d : Dialect) : Bool := d.isOf [.hive, .oracle, .tsql, .snowflake]

/-- Whether the second name of a table follows its version. -/
def namesVersionedTable (d : Dialect) : Bool := d.isOf [.hive, .bigquery, .snowflake]

/-- The definitions of the columns of a table, in parentheses in which no query stands. -/
def columnList : Reader Unit := do
  let before ← index
  if ← takeMark "(" then
    if ← isNext fun k => k == .mark "(" || k == .keyword "WITH" || k == .keyword "SELECT" then
      retreat before
    else
      discard (items (do columnDefinition (← field true)))
      expectMark ")"

/-- Whether a part of a table may be chosen. -/
def choosesParts (d : Dialect) : Bool := d.isOf [.mysql]

/-- A part of a table. -/
def tablePartition : Reader Unit := do
  if ← takeKeyword "PARTITION" then discard (wrapped (items disjunction))

/-- What follows the name of a table. -/
def namedTable (place : TablePlace) : Reader (Option Node) := do
  let d ← dialect
  let _ ← takeKeyword "ONLY"
  let n ← tableName place.columns
  let n := (← bracket (some n)).map (fun m => if m == n then n else { n with form := .table })
  let n := n.getD .other
  let _ ← takeWord "*"
  if place.part || choosesParts d then tablePartition
  if place.columns then
    columnList
    return some n
  if namesVersionedTable d then versionOfTable
  let sampledFirst ← if namesSampledTable d then sample else pure false
  if d == .clickhouse then
    let _ ← takeKeyword "FINAL"
  let accepts (k : Kind) : Bool := k.isTableAlias d && some k != place.excluded.map Kind.keyword
  let second ← tableAlias (some accepts)
  if ← takeKeyword "INDEXED BY" then discard tableName
  else
    let _ ← takeSequence ["NOT", "INDEXED"]
  if ← takeWord "AT" then
    discard name
    return some .other
  tableHints
  let turned ← if n.has "pivots" then pure false else pivots
  let sampled ← if namesSampledTable d then pure sampledFirst else sample
  if !namesVersionedTable d then versionOfTable
  let joined : Bool ← if place.joins then
      let before ← index
      loop (return (← join place.excluded).isSome)
      pure (decide (before < (← index)))
    else pure false
  let second ← if ← takePair (.keyword "WITH") (.keyword "ORDINALITY") then tableAlias
    else pure second
  return some ((((n.addingIf second.isSome "alias").addingIf turned "pivots").addingIf sampled
    "sample").addingIf joined "joins")

/-- The tables of several functions side by side. -/
def rowsFrom : Reader (Option Node) := do
  if ← takeSequence ["ROWS", "FROM"] then
    discard (wrapped (items table))
    return some (.of .table)
  else return none

/-- The table that a query is. -/
def queryAsTable (place : TablePlace) : Reader (Option Node) := do
  match ← query { table := true } with
  | none => return none
  | some n =>
    let turned ← if n.has "pivots" then pure false else pivots
    if place.joins then
      let before ← index
      loop (return (← join place.excluded).isSome)
      return some ((n.addingIf turned "pivots").addingIf (before < (← index)) "joins")
    return some (n.addingIf turned "pivots")

/-- The second name in front of a table. -/
def leadingAlias : Reader Unit := do
  if (← peekSecondKind) == some (.mark ":") then
    discard tableAlias
    let _ ← takeMark ":"

/-- A table. -/
def tableRule (place : TablePlace) : Reader (Option Node) := do
  if (← dialect) == .duckdb then leadingAlias
  match ← lateral with
  | some n => return some n
  | none =>
    match ← unnest with
    | some n => return some n
    | none =>
      match ← rowsOfValues with
      | some n => return some n
      | none =>
        match ← queryAsTable place with
        | some n => return some n
        | none =>
          match ← rowsFrom with
          | some n =>
            discard tableAlias
            return some n
          | none => namedTable place

end FluentQuery.Sql
