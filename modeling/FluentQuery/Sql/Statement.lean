import FluentQuery.Sql.Definition

/-!
# Statements

* **`statementRule`** — a statement by the keyword it starts with; any other text is an expression
  or a query;
* **`grammar`** — all rules as one record, which goes on to itself a given number of times.
-/

namespace FluentQuery.Sql

open Reader

/-- A statement that sets values. -/
def setting : Reader (Option Node) := do
  let start ← index
  let left ← match ← primary with
    | some n => pure (some n)
    | none => column
  if ← onlyIf left.isSome (takeWords ["=", ":=", "TO"]) then
    match ← statement with
    | some _ => pure ()
    | none => discard (need name)
    if (← peek).isNone then return some .other
  retreat start
  whole

/-- A statement that starts a transaction. -/
def transaction : Reader (Option Node) := do
  let _ ← takeWords ["DEFERRED", "IMMEDIATE", "EXCLUSIVE"]
  let _ ← takeWords ["TRANSACTION", "WORK"]
  discard (items do
    loop (takeIf fun k => k == .word || k == .keyword "NOT")
    return (none : Option Node))
  return some .other

/-- A statement that ends a transaction. -/
def transactionEnd : Reader (Option Node) := do
  let _ ← takeWords ["TRANSACTION", "WORK"]
  if ← takeWord "TO" then
    let _ ← takeWord "SAVEPOINT"
    discard name
  if ← takeKeyword "AND" then
    let _ ← takeWord "NO"
    let _ ← takeWord "CHAIN"
  return some .other

/-- A statement that empties tables. -/
def truncation : Reader (Option Node) := do
  if ← isMark "(" then
    stepBack
    return (← function)
  let _ ← takeKeyword "TABLE"
  let _ ← takeSequence ["IF", "EXISTS"]
  discard (items (table { columns := true }))
  let _ ← takeSequence ["RESTART", "IDENTITY"]
  let _ ← takeSequence ["CONTINUE", "IDENTITY"]
  let _ ← takeWords ["CASCADE", "RESTRICT"]
  if (← peek).isSome then whole else return some .other

/-- A statement that describes something. -/
def describe : Reader (Option Node) := do
  let start ← index
  let _ ← takeIf creatable.contains
  let styled ← takeWords ["ANALYZE", "EXTENDED", "FORMATTED", "HISTORY"]
  if styled && (← isMark ".") then retreat start
  let isStatement ← isNext fun k => match k with
    | .keyword w => ["DELETE", "INSERT", "UPDATE", "MERGE", "DESCRIBE", "DESC"].contains w
    | _ => false
  if isStatement then discard statement else discard (need (table { columns := true }))
  return some .other

/-- A statement that uses a database. -/
def usage : Reader (Option Node) := do
  let _ ← takeWords ["ROLE", "WAREHOUSE", "DATABASE", "SCHEMA", "CATALOG"]
  discard (need table)
  return some .other

/-- Things that a statement can show, with words of their own behind. -/
def shown : List (List String) :=
  [["BINARY", "LOGS"], ["MASTER", "LOGS"], ["BINLOG", "EVENTS"], ["CHARACTER", "SET"],
    ["CHARSET"], ["COLLATION"], ["FULL", "COLUMNS"], ["COLUMNS"], ["CREATE", "DATABASE"],
    ["CREATE", "EVENT"], ["CREATE", "FUNCTION"], ["CREATE", "PROCEDURE"], ["CREATE", "TABLE"],
    ["CREATE", "TRIGGER"], ["CREATE", "VIEW"], ["DATABASES"], ["SCHEMAS"], ["ENGINE"],
    ["STORAGE", "ENGINES"], ["ENGINES"], ["ERRORS"], ["EVENTS"], ["FUNCTION", "CODE"],
    ["FUNCTION", "STATUS"], ["GRANTS"], ["INDEX"], ["MASTER", "STATUS"], ["OPEN", "TABLES"],
    ["PLUGINS"], ["PROCEDURE", "CODE"], ["PROCEDURE", "STATUS"], ["PRIVILEGES"],
    ["FULL", "PROCESSLIST"], ["PROCESSLIST"], ["PROFILE"], ["PROFILES"], ["RELAYLOG", "EVENTS"],
    ["REPLICAS"], ["SLAVE", "HOSTS"], ["REPLICA", "STATUS"], ["SLAVE", "STATUS"],
    ["GLOBAL", "STATUS"], ["SESSION", "STATUS"], ["STATUS"], ["TABLE", "STATUS"],
    ["FULL", "TABLES"], ["TABLES"], ["TRIGGERS"], ["GLOBAL", "VARIABLES"],
    ["SESSION", "VARIABLES"], ["VARIABLES"], ["WARNINGS"]]

/-- Things of which a name follows. -/
def shownByName : List (List String) :=
  [["FULL", "COLUMNS"], ["COLUMNS"], ["CREATE", "DATABASE"], ["CREATE", "EVENT"],
    ["CREATE", "FUNCTION"], ["CREATE", "PROCEDURE"], ["CREATE", "TABLE"], ["CREATE", "TRIGGER"],
    ["CREATE", "VIEW"], ["ENGINE"], ["FUNCTION", "CODE"], ["GRANTS"], ["INDEX"],
    ["PROCEDURE", "CODE"]]

/-- A statement that shows what there is. -/
def showing : Reader (Option Node) := do
  let rest := (← get).rest
  match shown.find? (startWords · rest) with
  | none => whole
  | some words =>
    advanceBy words.length
    let _ ← takeWord "JSON"
    if shownByName.contains words then
      let _ ← takeWords ["FROM", "FOR"]
      discard name
    if ← takeWord "IN" then discard text
    if ← takeKeyword "FROM" then discard name
    else if ← takeMark "." then discard name
    if ← takeSequence ["FOR", "CHANNEL"] then discard name
    if ← takeWord "LIKE" then discard text
    let filtered ← whereClause
    if ← takeKeyword "LIMIT" then
      discard number
      if ← takeMark "," then discard number
    let _ ← takeWords ["MUTEX", "STATUS"]
    return some (Node.other.addingIf filtered.isSome "where")

/-- A statement that attaches or detaches a database. -/
def attachment : Reader (Option Node) := do
  let _ ← takeKeyword "DATABASE"
  if !(← takeSequence ["IF", "NOT", "EXISTS"]) then
    let _ ← takeSequence ["IF", "EXISTS"]
  discard (need expression)
  if ← takeMark "(" then
    discard (items do
      discard word
      let n ← field true
      return n)
    expectMark ")"
  return some .other

/-- A statement that stops a process. -/
def kill : Reader (Option Node) := do
  let _ ← takeWords ["CONNECTION", "QUERY"]
  discard (need primary)
  return some .other

/-- Keywords of statements that are taken whole. -/
def wholeWords : List String :=
  ["ANALYZE", "DECLARE", "GRANT", "INSTALL", "LOAD", "REVOKE"]

/-- The reader of a statement by its keyword. -/
def statement? (d : Dialect) (w : String) : Option (Reader (Option Node)) :=
  match w with
  | "ALTER" => some alteration
  | "BEGIN" => some transaction
  | "CACHE" => some caching
  | "COMMENT" => some commentary
  | "COMMIT" => some transactionEnd
  | "ROLLBACK" => some transactionEnd
  | "COPY" => some copying
  | "CREATE" => some creation
  | "DELETE" => some deletion
  | "DESC" => some describe
  | "DESCRIBE" => some describe
  | "DROP" => some drop
  | "INSERT" => some insertion
  | "KILL" => some kill
  | "MERGE" => some merge
  | "PIVOT" => some statementOfPivot
  | "UNPIVOT" => some statementOfPivot
  | "PRAGMA" =>
    some do
      discard (need expression)
      return some .other
  | "REFRESH" => some refreshing
  | "SET" => some setting
  | "TRUNCATE" => some truncation
  | "UNCACHE" => some uncaching
  | "UPDATE" => some update
  | "USE" => some usage
  | "SHOW" => if d.family == .mysql then some showing else some whole
  | "ATTACH" => some attachment
  | "DETACH" => some attachment
  | "EXPORT" => if d == .bigquery then some whole else none
  | w => if wholeWords.contains w then some whole else none

/-- Keywords of commands, behind which a text may stand for what follows. -/
def commandWords : List String := ["COMMAND", "EXECUTE", "FETCH", "RENAME"]

/-- An expression or a query, with what is joined to it and its clauses. -/
def expressionOrQuery : Reader (Option Node) := do
  let startsTable := (← isKeyword "TABLE") &&
    match ← peekSecondKind with
    | some .word => true
    | some .name => true
    | _ => false
  let n ← if startsTable then pure none else expression
  let n ← match n with
    | some n => setOperations (some n)
    | none => query
  clauses n

/-- A statement. -/
def statementRule : Reader (Option Node) := do
  let d ← dialect
  match ← peekKind with
  | none => return none
  | some (.mark ";") =>
    advance
    return some .other
  | some (.keyword w) =>
    match statement? d w with
    | some reader =>
      advance
      reader
    | none =>
      if commandWords.contains w then
        advance
        discard text
        return some .other
      else if (d.family == .mysql || d == .sqlite) && w == "REPLACE" then
        advance
        discard text
        return some .other
      else if d.family == .tsql && w == "END" then
        advance
        discard text
        return some .other
      else expressionOrQuery
  | some _ => expressionOrQuery

/-- An expression with a second name, which may stand in front of it. -/
def expressionRule : Reader (Option Node) := do
  if (← dialect) == .duckdb && (← peekSecondKind) == some (.mark ":") then
    let second ← name
    let _ ← takeMark ":"
    let _ ← required second
    let _ ← need assignment
    return some .other
  else aliased (← assignment)

/-- The rules over those of a grammar. -/
def Grammar.next (g : Grammar) : Grammar where
  dialect := g.dialect
  expression := expressionRule.run g
  assignment := assignmentRule.run g
  disjunction := disjunctionRule.run g
  equality := equalityRule.run g
  bitwise := bitwiseRule.run g
  term := termRule.run g
  factor := factorRule.run g
  unary := unaryRule.run g
  operand := fun anyName => (operandRule anyName).run g
  interval := fun keyword => (intervalRule keyword).run g
  typeName := fun place => (typeNameRule place).run g
  column := columnRule.run g
  primary := primaryRule.run g
  placeholder := placeholderRule.run g
  bracket := fun n => (bracketRule n).run g
  function := fun place => (functionRule place).run g
  window := fun n named => (windowRule n named).run g
  query := fun place => (queryRule place).run g
  table := fun place => (tableRule place).run g
  join := fun excluded => (joinRule excluded).run g
  statement := statementRule.run g
  clauses := fun n => (clausesRule n).run g
  setOperations := fun n => (setOperationsRule n).run g
  order := fun n => (orderRule n).run g
  limit := fun n => (limitRule n).run g
  offset := offsetRule.run g

/-- The grammar of a dialect, in which rules refer to each other to a given depth. -/
def grammar (d : Dialect) (depth : Nat) : Grammar :=
  Nat.repeat Grammar.next depth { (default : Grammar) with dialect := d }

end FluentQuery.Sql
