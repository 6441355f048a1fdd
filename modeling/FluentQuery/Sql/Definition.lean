import FluentQuery.Sql.Change

/-!
# Definitions of tables

Statements that make, alter, drop or describe tables, views, indexes and their like. Of such a
statement only its start is read: what is made must have a name, and a query in it must be one.
Any tail is taken as it stands.

* **`creation`**, **`alteration`**, **`drop`** — what is made, altered or dropped;
* **`commentary`** — a text about a thing;
* **`caching`**, **`uncaching`**, **`refreshing`**, **`copying`** — copies of tables.
-/

namespace FluentQuery.Sql

open Reader

/-- Takes a statement whole, of which something follows the keyword. -/
def whole : Reader (Option Node) := do
  takeAll
  return some .other

/-- Things with a name of several parts, which may have columns or a query. -/
def definable : List Kind :=
  ["DATABASE", "DICTIONARY", "MODEL", "NAMESPACE", "SCHEMA", "SEQUENCE", "TABLE", "VIEW"].map
    .keyword

/-- What is made or dropped by statements. -/
def creatable : List Kind :=
  definable ++
    ["COLUMN", "CONSTRAINT", "FOREIGN KEY", "FUNCTION", "INDEX", "PROCEDURE", "TRIGGER"].map
      .keyword

/-- Words in front of what is made. -/
def creationWords : List String :=
  ["DYNAMIC", "EXTERNAL", "GLOBAL", "HYBRID", "ICEBERG", "LOCAL", "MATERIALIZED", "SECURE", "TEMP",
    "TEMPORARY", "TRANSIENT", "UNLOGGED", "VOLATILE"]

/-- Takes what is in parentheses, if they come next; they must be closed. -/
def skipParens : Reader Unit := do
  if ← takeMark "(" then
    match insideParens 0 (← get).rest with
    | none => failure
    | some ts => advanceBy (ts.length + 1)

/-- A name with what is in parentheses behind it. -/
def definedName : Reader Unit := do
  discard (tableName true)
  if !(← isPair (.mark "(") (.keyword "SELECT")) && !(← isPair (.mark "(") (.keyword "WITH")) then
    skipParens

/-- The query that a table or a view is made of. -/
def definingQuery : Reader Unit := do
  let _ ← takeKeyword "AS"
  let starts ← isNext fun k =>
    k == .keyword "SELECT" || k == .keyword "WITH" || k == .mark "("
  if starts then
    discard (clauses (← setOperations (← query { nested := true, named := false })))

/-- A statement that makes something. -/
def creation : Reader (Option Node) := do
  if ← takeKeyword "OR" then
    let _ ← takeWords ["REPLACE", "ALTER", "REFRESH"]
  let _ ← takeKeyword "UNIQUE"
  loop (takeWords creationWords)
  let made ← peekKind
  if !(← takeIf creatable.contains) then whole
  else
    let _ ← takeWord "CONCURRENTLY"
    let _ ← takeSequence ["IF", "NOT", "EXISTS"]
    if (made.map definable.contains).getD false then
      definedName
      definingQuery
      whole
    else if made == some (.keyword "FUNCTION") || made == some (.keyword "PROCEDURE") then
      definedName
      whole
    else if made == some (.keyword "INDEX") then
      if !(← takeKeyword "ON") then
        discard (need name)
        let _ ← takeKeyword "ON"
      let _ ← takeKeyword "TABLE"
      discard (tableName true)
      whole
    else
      match ← peek with
      | some _ => whole
      | none => failure

/-- A statement that alters something. -/
def alteration : Reader (Option Node) := do
  if ← takeKeywords ["INDEX", "TABLE", "VIEW"] then
    let _ ← takeSequence ["IF", "EXISTS"]
    let _ ← takeWord "ONLY"
    discard (tableName true)
  whole

/-- A statement that drops something. -/
def drop : Reader (Option Node) := do
  let start ← index
  let _ ← takeKeyword "TEMPORARY"
  let _ ← takeWord "MATERIALIZED"
  if !(← takeIf creatable.contains) then
    retreat start
    whole
  else
    let _ ← takeWord "CONCURRENTLY"
    let _ ← takeSequence ["IF", "EXISTS"]
    discard (need (table { columns := true }))
    if ← takeKeyword "ON" then discard name
    let _ ← takeWords ["CASCADE", "RESTRICT"]
    let _ ← takeWord "CONSTRAINTS"
    let _ ← takeWord "PURGE"
    return some .other

/-- A statement with a text about something. -/
def commentary : Reader (Option Node) := do
  let _ ← takeSequence ["IF", "EXISTS"]
  let _ ← takeKeyword "ON"
  let _ ← takeWord "MATERIALIZED"
  let described ← peekKind
  if !(← takeIf creatable.contains) then whole
  else
    match described with
    | some (.keyword "FUNCTION") => definedName
    | some (.keyword "PROCEDURE") => definedName
    | some (.keyword "TABLE") => discard (tableName)
    | some (.keyword "COLUMN") => discard (need column)
    | _ => discard (need name)
    let _ ← takeKeyword "IS"
    let _ ← need text
    return some .other

/-- A statement that keeps a table at hand. -/
def caching : Reader (Option Node) := do
  let _ ← takeWord "LAZY"
  let _ ← takeKeyword "TABLE"
  discard (need (table { columns := true }))
  if ← takeWord "OPTIONS" then
    discard (wrapped (do
      let _ ← need text
      let _ ← takeMark "="
      need text))
  let _ ← takeKeyword "AS"
  discard (query { nested := true })
  return some .other

/-- A statement that no longer keeps a table at hand. -/
def uncaching : Reader (Option Node) := do
  if !(← takeKeyword "TABLE") then failure
  let _ ← takeSequence ["IF", "EXISTS"]
  discard (need (table { columns := true }))
  return some .other

/-- A statement that reads a table anew. -/
def refreshing : Reader (Option Node) := do
  let _ ← takeKeyword "TABLE"
  match ← text with
  | some _ => return some .other
  | none =>
    discard (need table)
    return some .other

/-- A statement that copies rows from files or into them. -/
def copying : Reader (Option Node) := do
  let _ ← takeKeyword "INTO"
  if ← isMark "(" then discard (need (query { nested := true, named := false }))
  else discard (need (table { columns := true }))
  whole

end FluentQuery.Sql
