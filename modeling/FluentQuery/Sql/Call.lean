import FluentQuery.Sql.Call.Arity
import FluentQuery.Sql.Call.Special

/-!
# Functions

* **`caseCall`**, **`ifCall`** — choices between values;
* **`bareCall?`** — functions that need no parentheses;
* **`functionRule`** — a function with its arguments and its window. A known function takes a fixed
  number of arguments.
-/

namespace FluentQuery.Sql

open Reader

/-- A choice by conditions, up to its END. -/
def caseCall : Reader (Option Node) := do
  let _ ← disjunction
  let before ← index
  loop do
    if ← takeKeyword "WHEN" then
      let _ ← need disjunction
      let _ ← takeKeyword "THEN"
      let _ ← need disjunction
      return true
    else return false
  let chosen := before < (← index)
  let default ← if ← takeKeyword "ELSE" then disjunction else pure none
  if !(← takeKeyword "END") then
    match default with
    | some n => if n.form != .interval || n.name != "END" then failure
    | none => failure
  if chosen then return some .other else failure

/-- A choice by one condition. -/
def ifCall : Reader (Option Node) := do
  if ← takeMark "(" then
    let found ← items (do aliased (← assignment) true)
    if found.length < 2 || 3 < found.length then failure
    expectMark ")"
    return some .other
  else
    let start := (← index) - 1
    match ← disjunction with
    | none =>
      retreat start
      return none
    | some _ =>
      let _ ← takeKeyword "THEN"
      let _ ← need disjunction
      if ← takeKeyword "ELSE" then discard disjunction
      let _ ← takeKeyword "END"
      return some .other

/-- The next value of a sequence. -/
def nextValueCall : Reader (Option Node) := do
  if ← takeSequence ["VALUE", "FOR"] then
    let _ ← need column
    if ← takeKeyword "OVER" then discard (wrapped order)
    return some .other
  else
    stepBack
    return none

/-- A map between braces or of two lists. -/
def mapCall : Reader (Option Node) := do
  if ← isMark "\x7b" then bracket none
  else
    let _ ← wrapped (items assignment)
    return some .other

/-- What must follow a word that is a function by itself. -/
def prefixedCall (reader : Reader (Option Node)) : Reader (Option Node) := do
  let _ ← need reader
  return some .other

/-- The reader of a function that needs no parentheses; `prior` tells whether the word for the row
above is one. -/
def bareCall? (d : Dialect) (prior : Bool) (function : String) : Option (Reader (Option Node)) :=
  match function with
  | "ANY" => some (prefixedCall bitwise)
  | "CASE" => some caseCall
  | "CONNECT_BY_ROOT" => some (prefixedCall column)
  | "IF" => some ifCall
  | "NEXT" => if d.isOf [.tsql, .oracle] then some nextValueCall else none
  | "PRIOR" => if prior || d == .oracle then some (prefixedCall bitwise) else none
  | "MAP" => if d == .duckdb then some mapCall else none
  | "@" => if d == .duckdb then some (prefixedCall bitwise) else none
  | _ => none

/-- Keywords that are functions without arguments. -/
def bareWords : List String :=
  ["CURRENT_DATE", "CURRENT_DATETIME", "CURRENT_TIME", "CURRENT_TIMESTAMP", "CURRENT_USER",
    "LOCALTIME", "LOCALTIMESTAMP", "UTC_DATE", "UTC_TIME", "UTC_TIMESTAMP"]

/-- A query behind a keyword that compares with all its rows, or what stands behind LIKE. -/
def rowsOfQuery (before : Option Token) : Reader (Option Node) := do
  if ← isNext fun k => k == .keyword "SELECT" || k == .keyword "WITH" then
    let n ← query
    expectMark ")"
    return n
  else
    let isPattern := match before.map (·.kind) with
      | some (.keyword w) => w == "LIKE" || w == "ILIKE"
      | _ => false
    if isPattern then
      stepBack
      bitwise
    else return none

/-- The arguments of a function with its name, behind the opening parenthesis. -/
def argumentsOf (place : CallPlace) (function : String) : Reader (Option Node) := do
  let known := if place.anonymous then none else arity? function
  let named := known.isNone || function == "STRUCT"
  let found ← items (argument named)
  match known with
  | some a =>
    if !a.admits found.length then failure
    return some (.of (if aggregates.contains function then .aggregate else .function))
  | none => return some (.of .function)

/-- A function that starts with a given token. -/
def functionFrom (place : CallPlace) (t : Token) : Reader (Option Node) := do
  let d ← dialect
  if (← peekSecondKind) != some (.mark "(") then
    let isBare := match t.kind with
      | .keyword w => bareWords.contains w
      | _ => false
    if place.bare && isBare then
      advance
      return some (.of .function)
    else return none
  else if if place.anyName then t.kind.isReserved else !t.kind.isFunction d then return none
  else
    let before ← latest
    advance
    advance
    match if place.anonymous then none else specialCall? d t.upper with
    | some reader =>
      let n ← reader
      expectMark ")"
      window n
    | none =>
      let compares := match t.kind with
        | .keyword w => ["ANY", "ALL", "SOME", "EXISTS"].contains w
        | _ => false
      let rows ← if compares then rowsOfQuery before else pure none
      match rows with
      | some _ => return some .other
      | none =>
        let n ← argumentsOf place t.upper
        expectMark ")"
        window n

/-- A function. -/
def functionRule (place : CallPlace) : Reader (Option Node) := do
  let d ← dialect
  let prior := (← get).prior
  let braced := (← isMark "\x7b") && (← peekSecond).map (·.upper) == some "FN"
  if braced then advanceBy 2
  let found ← match ← peek with
    | none => pure none
    | some t =>
      let bare := place.bare && t.kind != .name && t.kind != .text
      match if bare then bareCall? d prior t.upper else none with
      | some reader =>
        advance
        window (← reader)
      | none => functionFrom place t
  if braced then
    let _ ← takeMark "\x7d"
  return found

end FluentQuery.Sql
