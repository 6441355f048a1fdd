import FluentQuery.Sql.Name
import FluentQuery.Sql.Vocabulary
import FluentQuery.Text.LetterCase

/-!
# Types and definitions of columns

* **`typeNameRule`** — a type with its arguments, its fields, its zone and its dimensions; what
  may be a function and is not followed by a text is no type;
* **`columnDefinition`** — a name with a type and constraints;
* **`tableAlias`** — the second name of a table with definitions of its columns.
-/

namespace FluentQuery.Sql

open Reader

/-- Takes a token that names a type. -/
def takeType : Reader (Option String) := do
  match (← peekKind).bind Kind.type? with
  | some t =>
    advance
    return some t
  | none => return none

/-- A reference of a column to another table. -/
def references : Reader (Option Node) := do
  let _ ← need (table { columns := true })
  return some .other

/-- A constraint of a column. -/
def columnConstraint : Reader (Option Node) := do
  if ← takeKeyword "CONSTRAINT" then
    let _ ← name
  let d ← dialect
  if ← takeWord "NOT" then
    if ← takeWord "NULL" then return some .other else failure
  else if ← takeWords ["NULL", "AUTO_INCREMENT", "AUTOINCREMENT", "UNIQUE", "PRIMARY KEY"] then
    return some .other
  else if ← takeWord "DEFAULT" then
    let _ ← need bitwise
    return some .other
  else if ← takeWord "CHECK" then
    let _ ← wrapped (need assignment)
    return some .other
  else if ← takeWord "COMMENT" then
    let _ ← need text
    return some .other
  else if ← takeWord "COLLATE" then
    let _ ← need (name (d == .generic))
    return some .other
  else if ← takeWord "REFERENCES" then references
  else return none

/-- Constraints of a column one after the other; tells whether there is one. -/
def columnConstraints : Reader Bool := do
  let before ← index
  loop (return (← columnConstraint).isSome)
  return before < (← index)

/-- What follows the name of a column in its definition. -/
def columnDefinition (n : Option Node) (computed : Bool := true) : Reader (Option Node) := do
  if !computed then
    let _ ← takeKeyword "AS"
  let kind ← typeName { definition := true }
  if ← takeSequence ["FOR", "ORDINALITY"] then
    let _ ← required n
    return some .other
  let derived ← if kind.isNone then takeWords ["AS", "ALIAS", "MATERIALIZED"]
    else takeWords ["ALIAS", "MATERIALIZED", "AS"]
  if derived then
    let _ ← need disjunction
    let _ ← takeWord "PERSISTED"
  let constrained ← columnConstraints
  if kind.isNone && !derived && !constrained then return n
  else
    let _ ← required n
    return some .other

/-- The second name of a table. -/
def tableAlias (accepts : Option (Kind → Bool) := none) : Reader (Option Node) := do
  let d ← dialect
  tableAliasBy (do columnDefinition (← name) false) (accepts.getD (Kind.isTableAlias d))

/-- The size of a type. -/
def typeSize : Reader (Option Node) := do
  match ← operand with
  | none => return none
  | some _ =>
    let _ ← word true
    return some .other

/-- A field of a type. -/
def structField : Reader (Option Node) := do
  if (← dialect) == .duckdb then columnDefinition (← field true)
  else
    let before ← index
    let isType (k : Option Kind) : Bool := (k.bind Kind.type?).isSome
    let first ←
      if isType (← peekKind) && isType (← peekSecondKind) then name
      else
        match ← operand true with
        | some n => pure (some n)
        | none => name
    let _ ← takeMark ":"
    let typed := match first with
      | some { form := .dataType _ _, .. } => true
      | _ => false
    if !typed && !isType (← peekKind) then
      retreat before
      typeName
    else columnDefinition first

/-- Types that hold values of an enumeration. -/
def enumTypes : List String := ["ENUM", "ENUM8", "ENUM16", "DYNAMIC"]

/-- The dimensions that follow a type; `definition` tells whether sizes belong to it. -/
def typeDimensions (definition : Bool) : Reader Unit := do
  let sized := (← dialect) == .duckdb
  loop (takeIf (· == .type "LIST"))
  let start ← index
  let array ← take (.type "ARRAY")
  repeatDimensions sized start array ((← get).rest.length + 1)
where
  /-- One dimension after the other. -/
  repeatDimensions (sized : Bool) (start : Nat) (array : Bool) : Nat → Reader Unit
    | 0 => pure ()
    | n + 1 => do
      if (← peek).isNone then return
      let isArray := (← latest).map (·.kind) == some (.type "ARRAY")
      let opened ← takeMark "["
      if !opened && !array then return
      if isArray then
        if ← takeMark "]" then return
      let values ← items disjunction
      let closes ← isMark "]"
      if !values.isEmpty && !definition && (!sized || isArray || !closes) then retreat start
      else
        let _ ← takeMark "]"
        repeatDimensions sized start false n

/-- The arguments of a type in parentheses, or of a function that is spelled like it. -/
def typeArguments (place : TypePlace) (t : String) : Reader (List Node) := do
  if structTypes.contains t then items structField
  else if nestedTypes.contains t then items (typeName place)
  else if enumTypes.contains t then items equality
  else items typeSize

/-- A type of which the word has been taken; `start` is the place in front of it, and the word is
empty if it is no type of the dialect. -/
def typeFrom (place : TypePlace) (start : Nat) (t : String) (userDefined : Bool) :
    Reader (Option Node) := do
  if t == "PSEUDO" || t == "OID" then return some (.of (.dataType t false))
  if t == "MAP" then
    if ← takeMark "[" then
      let _ ← typeName place
      if !(← takeMark "=>") then
        retreat start
        return none
      let _ ← typeName place
      if !(← takeMark "]") then
        retreat start
        return none
      return some (.of (.dataType t true))
  let nested := nestedTypes.contains t
  let mut sized := false
  let mut maybeCall := false
  let mut cast := false
  if ← takeMark "(" then
    let found ← typeArguments place t
    if t == "NULLABLE" && found.length == 1 then
      expectMark ")"
      return found.head?
    sized := !found.isEmpty
    if !(← takeMark ")") then
      retreat start
      return none
    maybeCall := true
  if nested then
    if ← takeMark "<" then
      let found ←
        if structTypes.contains t then items structField else items (typeName place)
      sized := !found.isEmpty
      expectMark ">"
      if ← takeMarks ["[", "("] then
        let values ← items disjunction
        if values.isEmpty && structTypes.contains t then stepBack
        else
          let _ ← takeMarks ["]", ")"]
          cast := true
  if instantTypes.contains t then
    if ← takeSequence ["WITH", "TIME", "ZONE"] then maybeCall := false
    else if ← takeSequence ["WITH", "LOCAL", "TIME", "ZONE"] then maybeCall := false
    else if ← takeSequence ["WITHOUT", "TIME", "ZONE"] then maybeCall := false
  else if t == "INTERVAL" then
    if (← word).isSome then
      if ← takeWord "TO" then
        let _ ← need word
  if maybeCall && place.call then
    let before ← index
    if (← text).isNone then
      retreat start
      return none
    retreat before
  if !userDefined then
    let _ ← takeWord "UNSIGNED"
    if t == "NULLABLE" && !sized then
      retreat start
      return none
  typeDimensions place.definition
  return some (.of (if cast then .cast else .dataType t sized))

/-- Whether any name may be a type. -/
def hasNamedTypes (d : Dialect) : Bool :=
  !d.isOf [.bigquery, .snowflake, .clickhouse, .presto]

/-- A type. -/
def typeNameRule (place : TypePlace) : Reader (Option Node) := do
  let d ← dialect
  let start ← index
  let _ ← takeSequence ["SYSUDTLIB", "."]
  match ← takeType with
  | some t => typeFrom place start t false
  | none =>
    if !place.names then return none
    match ← name false (some (· == .word)) with
    | some n =>
      if n.form != .name then return none
      match (wordKind d (Text.upper n.name)).type? with
      | some t => typeFrom place start t false
      | none =>
        if hasNamedTypes d then
          loop do
            if ← takeMark "." then
              let _ ← takeAny
              return true
            else return false
          typeFrom place start "" true
        else
          stepBack
          return none
    | none => return none

end FluentQuery.Sql
