import FluentQuery.Sql.Operator
import FluentQuery.Sql.Interval
import FluentQuery.Sql.Pivot

/-!
# Operands

What stands between operators: literals, columns with what follows them, lists in brackets, and
everything in parentheses.

* **`parens`** — a query, a list or an expression in parentheses;
* **`primaryRule`** — a literal, a star or parentheses;
* **`bracketRule`** — an index, a list or named fields;
* **`columnRule`** — a field with the points, casts and brackets behind it;
* **`operandRule`** — an amount of time, a text with its type, or a column.
-/

namespace FluentQuery.Sql

open Reader

/-- An expression in parentheses, for which the opening one has been taken. -/
def parens : Reader (Option Node) := do
  let found ← match ← query with
    | some n => pure [n]
    | none => items expression
  let comma := (← latest).map (·.kind) == some (.mark ",")
  let inside ← match found with
    | [] =>
      if ← isMark ")" then pure .other
      else if comma then pure .other
      else failure
    | n :: rest =>
      if n.form == .select || n.form == .setOperation then parenthesised n false
      else if n.form == .subquery || n.form == .values then
        match ← clauses (← setOperations (some n)) with
        | some whole => parenthesised whole false
        | none => pure .other
      else if !rest.isEmpty || comma then pure .other
      else pure (.of (.parens (n.form == .aggregate)))
  expectMark ")"
  if inside.form == .parens true then window (some inside) else return some inside

/-- The columns left out, replaced or renamed behind a star. -/
def starList (words : List String) : Reader Unit := do
  if ← takeWords words then
    if ← isMark "(" then discard (wrapped (items expression))
    else discard (aliased (← disjunction) true)

/-- What follows a star. -/
def star : Reader Node := do
  starList ["EXCEPT", "EXCLUDE"]
  starList ["REPLACE"]
  starList ["RENAME"]
  return .other

/-- Whether texts that follow each other are one. -/
def joinsTexts (d : Dialect) : Bool := d != .bigquery

/-- A literal, a star or parentheses. -/
def primaryRule : Reader (Option Node) := do
  let d ← dialect
  match ← peek with
  | none => return none
  | some t =>
    match t.kind with
    | .text =>
      advance
      if joinsTexts d then
        if ← isNext (· == .text) then
          loop (take .text)
          return some .other
      return some { form := .text, name := t.text }
    | .markedText =>
      advance
      return some .other
    | .number =>
      advance
      return some (.of .number)
    | .markedNumber =>
      advance
      return some .other
    | .type "NULL" =>
      advance
      return some .other
    | .keyword "TRUE" =>
      advance
      return some .other
    | .keyword "FALSE" =>
      advance
      return some .other
    | .keyword "INTRODUCER" =>
      advance
      match ← primary with
      | some _ => return some .other
      | none => return some { form := .name, name := t.text }
    | .mark "@@" =>
      if d.family == .postgres then return none
      advance
      let first ← match ← name with
        | some n => pure (some n)
        | none => primary
      let _ ← required first
      if ← takeMark "." then
        match ← word with
        | some _ => pure ()
        | none => discard (need primary)
      return some .other
    | .mark "*" =>
      advance
      return some (← star)
    | .mark "#" =>
      if d != .duckdb then return none
      advance
      let _ ← need number
      return some .other
    | .mark "." =>
      if ← takePair (.mark ".") .number then return some (.of .number) else return none
    | .mark "(" =>
      advance
      parens
    | _ => return none

/-- A name or a part of a list, perhaps with the end of a range behind a colon. -/
def bracketItem : Reader (Option Node) := do
  let n ← aliased (← disjunction) true
  if ← takeMark ":" then
    if ← isPair (.mark "-") (.mark ":") then advance
    else discard assignment
    if ← takeMark ":" then
      discard unary
    return some .other
  else return n

/-- Letters in front of an instant in braces. -/
def braceLetters : List String := ["D", "T", "TS"]

/-- What follows a part in brackets or braces. -/
def bracketRule (n : Option Node) : Reader (Option Node) := do
  if ← takeMark "[" then
    let found ← items bracketItem
    expectMark "]"
    match n with
    | none => bracket (some .other)
    | some n =>
      if (n.form == .column 1) && ["ARRAY", "LIST"].contains (Text.upper n.name) then
        return some .other
      requiredItems found
      bracket (some .other)
  else if ← takeMark "\x7b" then
    let letters : Bool := match ← peek with
      | some t => t.kind == .word && braceLetters.contains t.upper
      | none => false
    if letters then
      advance
      let _ ← text
      expectMark "\x7d"
      return some .other
    let _ ← items bracketItem
    expectMark "\x7d"
    bracket (some .other)
  else return n

/-- Whether VALUES may be a name where no parenthesis follows it. -/
def valuesNeedParens (d : Dialect) : Bool := !d.isOf [.mysql, .oracle, .presto, .hive]

/-- A column without what follows it. -/
def columnReference : Reader (Option Node) := do
  let d ← dialect
  let found ← field
  let found ←
    if found.isNone && valuesNeedParens d && (← isKeyword "VALUES")
        && (← peekSecondKind) != some (.mark "(") then name
    else pure found
  return found.map fun n =>
    if n.form == .name then { n with form := .column 1 } else n

/-- Marks behind a column that take a value. -/
def columnMarks : List String := ["->", "->>", "#>", "#>>", "?"]

/-- What points, casts and other marks add to a part; brackets may follow each. -/
def columnTail (n : Node) : Reader (Option Node) := do
  let next : Option Node ←
    if ← takeMark "." then
      let found ← need (field true none true)
      let parts := match n.form with
        | .column k => if k < 4 then some (k + 1) else none
        | _ => none
      match parts with
      | some k =>
        pure (some { form := .column k, name := found.name, isQuoted := found.isQuoted })
      | none => pure (some .other)
    else if ← takeMark "::" then
      let _ ← need typeName
      pure (some (.of .cast))
    else if ← takeMarks columnMarks then
      let found ←
        if (← peek).isSome then
          match ← columnReference with
          | some m => pure (some m)
          | none => bitwise
        else pure none
      let _ ← required found
      pure (some .other)
    else pure none
  match next with
  | some m => bracket (some m)
  | none => return none

/-- Whether a colon behind a column leads into its value. -/
def colonLeadsIn (d : Dialect) : Bool := d == .snowflake || d == .databricks

/-- What follows a column behind colons. -/
def colonPath (n : Node) : Reader Node := do
  if colonLeadsIn (← dialect) then
    grow (fun _ => do
      if ← takeMark ":" then
        let found ← field true
        let _ ← match found with
          | some m => do
            let after ← grow columnTail m
            pure (some after)
          | none => pure none
        return some .other
      else return none) n
  else return n

/-- A part with what follows it. -/
def columnOperators (n : Node) : Reader Node := do
  match ← bracket (some n) with
  | some m => colonPath (← grow columnTail m)
  | none => colonPath (← grow columnTail n)

/-- A column with what follows it, or a list in brackets. -/
def columnRule : Reader (Option Node) := do
  let found ← match ← columnReference with
    | some n => pure (some (← columnOperators n))
    | none => bracket none
  if found.isSome then
    let _ ← takeMark "(+)"
  return found

/-- An operand that starts with a type: a text of this type, or a type with its sizes. -/
def typedOperand (start : Nat) : Reader (Option Node) := do
  match ← typeName { call := true, names := false } with
  | some { form := .cast, .. } => return some (← columnOperators (.of .cast))
  | some { form := .dataType t sized, .. } =>
    let after ← index
    match ← primary with
    | some n =>
      if n.form == .text || n.form == .number then
        let _ ← columnOperators n
        return some (.of .cast)
    | none => pure ()
    if sized && 1 < after - start then
      retreat after
      return some (← columnOperators (.of (.dataType t sized)))
    retreat start
    return none
  | _ =>
    retreat start
    return none

/-- An operand; `anyName` tells that any name will do and that it is no amount of time. -/
def operandRule (anyName : Bool) : Reader (Option Node) := do
  let d ← dialect
  if d.family == .mysql && (← isNext (· == .type "BINARY")) then
    match ← typeName { call := true, names := false } with
    | some _ =>
      let _ ← need column
      return some (.of .cast)
    | none => pure ()
  let amount ← if anyName then pure none else interval
  match amount with
  | some n => return some n
  | none =>
    let start ← index
    match ← typedOperand start with
    | some n => return some n
    | none =>
      if anyName then name
      else
        match ← column with
        | some n => return some (← columnOperators n)
        | none => return none

end FluentQuery.Sql
