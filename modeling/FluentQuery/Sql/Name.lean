import FluentQuery.Sql.Grammar

/-!
# Names, literals and second names

The smallest parts of a statement.

* **`name`** — a name, or any word where the place admits it;
* **`text`**, **`number`** — literals; **`placeholderRule`** — a value that is filled in later;
* **`aliased`**, **`tableAlias`** — second names of expressions and of tables; a word that starts a
  limit is not one.
-/

namespace FluentQuery.Sql

open Reader

/-- Takes any word that is not reserved, and tells. -/
def takeAny : Reader Bool := takeIf fun k => !k.isReserved

/-- The token taken last as a name. -/
def latestName : Reader Node := do
  match ← latest with
  | some t => return { form := .name, name := t.text, isQuoted := t.kind == .name || t.kind == .text }
  | none => return .other

/-- A name in quotes, or a placeholder. -/
def quotedName : Reader (Option Node) := do
  if ← take .name then return some (← latestName)
  else placeholder

/-- A name: one in quotes, any word if `any` tells so, or a token of a class. -/
def name (any : Bool := true) (accepts : Option (Kind → Bool) := none) : Reader (Option Node) := do
  let d ← dialect
  if d.family == .tsql then
    if ← takeMark "#" then
      let _ ← takeMark "#"
  match ← quotedName with
  | some n => return some n
  | none =>
    if any then
      if ← takeAny then return some (← latestName)
    if ← takeIf (accepts.getD (Kind.isName d)) then return some (← latestName)
    else return none

/-- A word: any if `any` tells so, otherwise one that is no keyword or is of a class. -/
def word (any : Bool := false) (accepts : Kind → Bool := fun _ => false) : Reader (Option Node) := do
  if any then
    if ← takeAny then return some (← latestName)
  if ← takeIf fun k => k == .word || accepts k then return some (← latestName)
  else placeholder

/-- A text in quotes as a name. -/
def textAsName : Reader (Option Node) := do
  if ← take .text then return some (← latestName) else return none

/-- A text, or a placeholder. -/
def text : Reader (Option Node) := do
  if ← take .text then
    return some { form := .text, name := ((← latest).map (·.text)).getD "" }
  else if ← take .markedText then return some .other
  else placeholder

/-- A number, or a placeholder. -/
def number : Reader (Option Node) := do
  if ← take .number then return some (.of .number)
  else if ← take .markedNumber then return some .other
  else placeholder

/-- A text or any word. -/
def wordOrText : Reader (Option Node) := do
  match ← text with
  | some n => return some n
  | none => word true

/-- A literal or any word. -/
def primaryOrWord : Reader (Option Node) := do
  match ← primary with
  | some n => return some n
  | none => word true

/-- The absence of a value. -/
def null : Reader (Option Node) := do
  if ← takeIf fun k => k == .type "NULL" || k == .type "UNKNOWN" then return some .other
  else placeholder

/-- What follows the sign of a parameter. -/
def parameter : Reader (Option Node) := do
  match ← quotedName with
  | some _ => return some .other
  | none =>
    let _ ← need primaryOrWord
    return some .other

/-- A placeholder by the mark that starts it; without its name it is none. -/
def placeholderRule : Reader (Option Node) := do
  let d ← dialect
  if ← takeMark "?" then return some .other
  else if ← takeMark "@" then
    if d == .duckdb then
      if ← takeIf fun k => k == .number || k.isName d then return some .other
      stepBack
      return none
    else parameter
  else if ← takeMark ":" then
    if ← takeIf (Kind.isName d) then return some .other
    stepBack
    return none
  else if d.family == .postgres then
    if ← takeMark "%" then
      if ← isMark "(" then
        let _ ← wrapped (items name)
      let _ ← takeWord "S"
      return some .other
    else return none
  else return none

/-- Whether a limit comes next, and not a name that is spelled like one. -/
def startsLimit : Reader Bool := do
  if ← isNext fun k => k == .keyword "LIMIT" || k == .keyword "OFFSET" then
    let second ← peekSecondKind
    let before ← index
    let found ← attempt limit
    retreat before
    let found ← if found.isSome then pure found else attempt offset
    retreat before
    return found.isSome && second != some (.keyword "MATCH_CONDITION")
  else return false

/-- Whether a text may be the second name of an expression. -/
def namesByText (d : Dialect) : Bool := d.isOf [.mysql, .sqlite, .tsql]

/-- An expression with its second name; `explicit` tells that the name needs AS. -/
def aliased (n : Option Node) (explicit : Bool := false) : Reader (Option Node) := do
  if ← startsLimit then return n
  let any ← takeKeyword "AS"
  if explicit && !any then return n
  if ← takeMark "(" then
    let names ← items (name any)
    expectMark ")"
    let _ ← required n
    requiredItems names
    return some .other
  let second ← match ← name any with
    | some s => pure (some s)
    | none => if namesByText (← dialect) then textAsName else pure none
  if second.isSome then
    let _ ← required n
    return some .other
  else return n

/-- The second name of a table, perhaps with names of its columns; `column` reads one of them. -/
def tableAliasBy (column : Reader (Option Node)) (accepts : Kind → Bool) : Reader (Option Node) := do
  if ← startsLimit then return none
  let any ← takeKeyword "AS"
  let second ← match ← name any (some accepts) with
    | some s => pure (some s)
    | none => textAsName
  let before ← index
  let columns ←
    if ← takeMark "(" then
      let columns ← items column
      if columns.isEmpty then retreat before else expectMark ")"
      pure columns
    else pure []
  if second.isNone && columns.isEmpty then return none
  else return some (second.getD .other)

/-- A literal, a function or a name. -/
def field (any : Bool := false) (accepts : Option (Kind → Bool) := none)
    (anonymous : Bool := false) : Reader (Option Node) := do
  let place : CallPlace := { anonymous, anyName := any }
  let first ← if anonymous then function place else primary
  let found ← match first with
    | some n => pure (some n)
    | none => if anonymous then primary else function place
  match found with
  | some n => return some n
  | none => name any accepts

/-- A list of names in parentheses. -/
def namesInParens : Reader (List Node) := wrapped (items name)

end FluentQuery.Sql
