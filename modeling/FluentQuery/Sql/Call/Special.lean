import FluentQuery.Sql.Operand
import FluentQuery.Sql.Window

/-!
# Functions with words of their own

Functions of which the arguments are not a plain list: casts, parts of instants and of texts, and
others. Each reader starts behind the opening parenthesis and ends in front of the closing one.

* **`specialCall?`** — the reader of a function by its name.
-/

namespace FluentQuery.Sql

open Reader

/-- The bound of a list of values behind HAVING. -/
def havingExtreme (n : Option Node) : Reader (Option Node) := do
  if ← takeKeyword "HAVING" then
    let _ ← takeWords ["MAX", "MIN"]
    let _ ← need column
    let _ ← required n
    return some .other
  else return n

/-- An argument of a function that is no function itself; `named` tells that it may have a second
name. -/
def plainArgument (named : Bool) : Reader (Option Node) := do
  let n ←
    if ← takeKeyword "DISTINCT" then
      let _ ← items disjunction
      pure (some .other)
    else
      let _ ← takeKeyword "ALL"
      queryOrExpression named
  limit (← nullTreatment (← order (← havingExtreme (← nullTreatment n))))

/-- An argument of a function: names with an arrow and what is made of them, a name with a value,
or an expression. -/
def argument (named : Bool := false) : Reader (Option Node) := do
  let d ← dialect
  let start ← index
  if ← onlyIf (d == .duckdb) (takeWord "LAMBDA") then
    let _ ← items name
    if ← takeMark ":" then
      let _ ← need assignment
      return some .other
    else
      retreat start
      plainArgument named
  else
    if ← takeMark "(" then
      let _ ← items name
      if !(← takeMark ")") then retreat start
    else discard name
    if ← takeMark "->" then
      let _ ← need disjunction
      return some .other
    else if ← takeMark "=>" then
      let _ ← disjunction
      return some .other
    else
      retreat start
      plainArgument named

/-- A cast to a type. -/
def castCall : Reader (Option Node) := do
  let n ← assignment
  if !(← takeKeyword "AS") then
    expectMark ","
    let _ ← required n
    let _ ← need text
    return some .other
  let target ← typeName
  if ← takeKeyword "DEFAULT" then
    let _ ← bitwise
    let _ ← takeSequence ["ON", "CONVERSION", "ERROR"]
  if ← takeIf fun k => k == .keyword "FORMAT" || k == .mark "," then
    discard (zoned (← text))
  else
    match ← required target with
    | { form := .dataType "CHAR" _, .. } =>
      if ← takeKeyword "CHARACTER SET" then discard (need wordOrText)
    | _ => pure ()
  let _ ← required n
  if !(← takeSequence ["RENAME", "FIELDS"]) then
    let _ ← takeSequence ["ADD", "FIELDS"]
  return some (.of .cast)

/-- A conversion to a type or to a set of characters. -/
def convertCall : Reader (Option Node) := do
  let d ← dialect
  if d.family == .tsql then
    let _ ← need typeName
    expectMark ","
    let _ ← need bitwise
    if ← takeMark "," then discard bitwise
    return some (.of .cast)
  let n ← bitwise
  if ← takeKeyword "USING" then
    let _ ← need (word false (· == .type "BINARY"))
  else
    expectMark ","
    let _ ← need typeName
  let _ ← required n
  return some (.of .cast)

/-- A part of an instant. -/
def extractCall : Reader (Option Node) := do
  let part ← match ← function with
    | some n => pure (some n)
    | none => wordOrText
  if !(← takeKeyword "FROM") then expectMark ","
  let _ ← need bitwise
  let _ ← required part
  return some .other

/-- A text without some characters at its ends. -/
def trimCall : Reader (Option Node) := do
  let _ ← takeWords ["LEADING", "TRAILING", "BOTH"]
  let n ← bitwise
  if ← takeKeyword "FROM" then
    let _ ← need bitwise
  else
    let _ ← required n
    if ← takeMark "," then discard bitwise
  if ← takeKeyword "COLLATE" then discard bitwise
  return some .other

/-- A part of a text, with words in front of its bounds. -/
def substringCall : Reader (Option Node) := do
  let found ← items bitwise
  let start ← if ← takeKeyword "FROM" then bitwise else pure none
  let length ← if ← takeKeyword "FOR" then bitwise else pure none
  let start ← if ← onlyIf start.isNone (takeKeyword "FROM") then bitwise else pure start
  let count := found.length + start.toList.length + length.toList.length +
    (if start.isNone && length.isSome then 1 else 0)
  if 1 ≤ count && count ≤ 3 then return some .other else failure

/-- The place of a text in another. -/
def positionCall : Reader (Option Node) := do
  let found ← items bitwise
  if ← takeKeyword "IN" then
    let _ ← need bitwise
    requiredItems found
  else if found.length < 2 then failure
  return some .other

/-- A text in which a part is replaced. -/
def overlayCall : Reader (Option Node) := do
  let part (w : String) : Reader (Option Node) := do
    if ← takeMark "," then bitwise
    else if ← takeWord w then bitwise
    else return none
  let _ ← need bitwise
  let _ ← need (part "PLACING")
  let _ ← need (part "FROM")
  let _ ← part "FOR"
  return some .other

/-- A decoding of bytes, or a choice between values. -/
def decodeCall : Reader (Option Node) := do
  let found ← items disjunction
  if found.length < 2 then failure else return some .other

/-- Characters by their codes. -/
def charCall : Reader (Option Node) := do
  requiredItems (← items assignment)
  if ← takeKeyword "USING" then discard (word false (· == .type "BINARY"))
  return some .other

/-- A number rounded up or down. -/
def roundingCall : Reader (Option Node) := do
  let _ ← items argument
  if ← takeWord "TO" then discard word
  return some .other

/-- Texts of many rows in one. -/
def textListCall : Reader (Option Node) := do
  let found ←
    if ← takeKeyword "DISTINCT" then
      let first ← disjunction
      let more ← if ← takeMark "," then items disjunction else pure []
      pure ((first.getD .other) :: more)
    else items disjunction
  if ← takeSequence ["ON", "OVERFLOW"] then
    if !(← takeWord "ERROR") then
      let _ ← takeWord "TRUNCATE"
      let _ ← text
      if !(← takeSequence ["WITH", "COUNT"]) then
        let _ ← takeSequence ["WITHOUT", "COUNT"]
  if !(← isMark ")") && !found.isEmpty then
    let _ ← limit (← order found.head?)
    return some (.of .aggregate)
  else if 1 ≤ found.length && found.length ≤ 3 then
    let before ← index
    expectMark ")"
    if ← takeSequence ["WITHIN", "GROUP"] then
      expectMark "("
      let _ ← order
    else retreat before
    return some (.of .aggregate)
  else failure

/-- A name with its value in an object. -/
def objectEntry : Reader (Option Node) := do
  let _ ← takeWord "KEY"
  let key ← column
  if !(← takeMarks [":", ","]) then
    let _ ← takeKeyword "IS"
  let _ ← takeWord "VALUE"
  let value ← bitwise
  if key.isNone && value.isNone then return none
  let _ ← required key
  let _ ← required value
  if ← takeSequence ["FORMAT", "JSON"] then return some .other else return some .other

/-- How nulls of an object are treated. -/
def objectNulls : Reader Unit := do
  if !(← takeSequence ["NULL", "ON", "NULL"]) then
    let _ ← takeSequence ["ABSENT", "ON", "NULL"]

/-- An object with names and values. -/
def objectCall : Reader (Option Node) := do
  if ← takeMark "*" then discard star
  else discard (items objectEntry)
  objectNulls
  if ← takeSequence ["WITH", "UNIQUE"] then pure ()
  else
    let _ ← takeSequence ["WITHOUT", "UNIQUE"]
  let _ ← takeWord "KEYS"
  if ← takeWord "RETURNING" then
    let _ ← operand
    let _ ← takeSequence ["FORMAT", "JSON"]
  if ← takeWord "ENCODING" then discard word
  return some .other

/-- A search of words in columns. -/
def matchCall : Reader (Option Node) := do
  let found ← items column
  let _ ← takeSequence [")", "AGAINST", "("]
  let _ ← need text
  if ← takeSequence ["IN", "NATURAL", "LANGUAGE", "MODE"] then
    let _ ← takeSequence ["WITH", "QUERY", "EXPANSION"]
  else if !(← takeSequence ["IN", "BOOLEAN", "MODE"]) then
    let _ ← takeSequence ["WITH", "QUERY", "EXPANSION"]
  requiredItems found
  return some .other

/-- A normal form of a text. -/
def normalizeCall : Reader (Option Node) := do
  let _ ← need bitwise
  if ← takeMark "," then discard word
  return some .other

/-- The value of one column in the row where another is extreme. -/
def extremeCall : Reader (Option Node) := do
  let first ←
    if ← takeKeyword "DISTINCT" then
      let _ ← need argument
      let _ ← takeMark ","
      pure 1
    else pure 0
  let found ← items argument
  if first + found.length < 2 then failure else return some (.of .aggregate)

/-- Texts of many rows in one, with a separator behind a word of its own. -/
def separatedCall : Reader (Option Node) := do
  let found ← items argument
  if ← takeKeyword "SEPARATOR" then discard field
  requiredItems found
  return some (.of .aggregate)

/-- A name of a column that is inserted. -/
def insertedCall : Reader (Option Node) := do
  let _ ← name
  return some .other

/-- Takes what stands between the parentheses, whose own must be closed; `depth` of them are
open. -/
def insideParens : Nat → List Token → Option (List Token)
  | _, [] => none
  | depth, t :: ts =>
    if t.kind == .mark "(" then (insideParens (depth + 1) ts).map (t :: ·)
    else if t.kind == .mark ")" then
      if depth == 0 then some [] else (insideParens (depth - 1) ts).map (t :: ·)
    else (insideParens depth ts).map (t :: ·)

/-- Takes a table that a function makes of a document. -/
def documentCall : Reader (Option Node) := do
  match insideParens 0 (← get).rest with
  | none => failure
  | some ts =>
    if ts.isEmpty then failure
    advanceBy ts.length
    return some .other

/-- An element of a document. -/
def elementCall : Reader (Option Node) := do
  if !(← takeWord "NAME") then failure
  let _ ← need name
  if ← takeMark "," then discard (items expression)
  return some .other

/-- The reader of a function with words of its own. -/
def specialCall? (d : Dialect) (function : String) : Option (Reader (Option Node)) :=
  match function with
  | "CAST" => some castCall
  | "TRY_CAST" => some castCall
  | "SAFE_CAST" => some castCall
  | "CEIL" => some roundingCall
  | "FLOOR" => some roundingCall
  | "CONVERT" => some convertCall
  | "TRY_CONVERT" => some convertCall
  | "CHAR" => some charCall
  | "CHR" => some charCall
  | "DECODE" => some decodeCall
  | "EXTRACT" => some extractCall
  | "JSON_OBJECT" => some objectCall
  | "JSON_OBJECTAGG" => some objectCall
  | "JSON_TABLE" => some documentCall
  | "XMLELEMENT" => some elementCall
  | "XMLTABLE" => some documentCall
  | "OPENJSON" => some documentCall
  | "MATCH" => some matchCall
  | "NORMALIZE" => some normalizeCall
  | "OVERLAY" => some overlayCall
  | "POSITION" => some positionCall
  | "STRING_AGG" => some textListCall
  | "SUBSTRING" => some substringCall
  | "SUBSTR" => if d.family == .mysql then some substringCall else none
  | "TRIM" => if d == .bigquery then none else some trimCall
  | "ARG_MAX" => some extremeCall
  | "ARGMAX" => some extremeCall
  | "MAX_BY" => some extremeCall
  | "ARG_MIN" => some extremeCall
  | "ARGMIN" => some extremeCall
  | "MIN_BY" => some extremeCall
  | "GROUP_CONCAT" => if d.family == .mysql then some separatedCall else none
  | "VALUES" => if d.family == .mysql then some insertedCall else none
  | _ => none

end FluentQuery.Sql
