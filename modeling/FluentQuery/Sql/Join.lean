import FluentQuery.Sql.Table

/-!
# Joins

* **`joinRule`** — one more table behind a comma or behind JOIN. What a join is made on may follow
  the joins of its table to others, and may be missing.
-/

namespace FluentQuery.Sql

open Reader

/-- The columns behind USING. -/
def joinColumns : Reader Unit := do discard (maybeWrapped (items column))

/-- How a join goes: by which method, to which side, and of which kind. -/
structure JoinWords where
  method : Option String
  side : Option String
  kind : Option String
  deriving DecidableEq, Inhabited

/-- Takes one of several keywords, and tells which. -/
def takeOneOf (ws : List String) : Reader (Option String) := do
  match ← peekKind with
  | some (.keyword w) =>
    if ws.contains w then
      advance
      return some w
    else return none
  | _ => return none

/-- The words in front of JOIN. -/
def joinParts : Reader JoinWords := do
  let d ← dialect
  let method ← takeOneOf ["ASOF", "NATURAL", "POSITIONAL"]
  let side ← takeOneOf ["LEFT", "RIGHT", "FULL"]
  let kind ← takeOneOf ["ANTI", "CROSS", "INNER", "OUTER", "SEMI", "STRAIGHT_JOIN"]
  let kind ←
    if d == .clickhouse && kind.isNone then
      if ← take (.type "ARRAY") then pure (some "ARRAY") else pure none
    else pure kind
  return ⟨method, side, kind⟩

/-- Joins behind the table of a join, up to what that one is made on. -/
def nestedJoins : Reader Unit := do
  let start ← index
  loop (return (← join).isSome)
  if start < (← index) then
    if ← takeKeyword "ON" then discard disjunction
    else if ← takeKeyword "USING" then joinColumns
    else retreat start

/-- A table behind a comma. -/
def commaJoin : Reader (Option Node) := attempt table

/-- One more table. -/
def joinRule (excluded : Option String) : Reader (Option Node) := do
  if ← takeMark "," then commaJoin
  else
    let start ← index
    let words ← joinParts
    let _ ← takeWord "DIRECTED"
    if (← dialect).family == .tsql then
      let _ ← takeWords ["LOOP", "HASH", "MERGE", "REMOTE"]
    let plain ← takeKeyword "JOIN"
    let joined := plain || words.kind == some "STRAIGHT_JOIN"
    if !joined then retreat start
    let applied := (← isPair (.keyword "OUTER") (.keyword "APPLY"))
      || (← isPair (.keyword "CROSS") (.keyword "APPLY"))
    if !joined && !applied then return none
    let n ← need (table { excluded })
    if ← takeKeyword "MATCH_CONDITION" then discard (wrapped comparison)
    if ← takeKeyword "ON" then discard disjunction
    else if ← takeKeyword "USING" then joinColumns
    else if (!joined || words.method.isNone) && !applied && n.form != .unnest
        && !(joined && (words.kind == some "CROSS" || words.kind == some "ARRAY")) then
      nestedJoins
    discard pivots
    return some .other

end FluentQuery.Sql
