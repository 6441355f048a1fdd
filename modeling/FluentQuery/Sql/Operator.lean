import FluentQuery.Sql.Name

/-!
# Operators

Expressions from conditions joined by OR down to operands with their signs. Each level joins parts
of the next by operators of its own, and an operator needs a part on both sides.

* **`assignmentRule`** to **`unaryRule`** — the levels, in the order of their strength;
* **`range`** — comparisons by words: IN, BETWEEN, LIKE, IS and their like, with or without NOT;
  NOT alone is taken too.
-/

namespace FluentQuery.Sql

open Reader

/-- Parts joined by operators of one level. -/
def joined (part : Reader (Option Node)) (isOperator : Kind → Bool) : Reader (Option Node) := do
  let first ← part
  if ← isNext isOperator then
    let first ← required first
    let whole ← grow (fun _ => do
      if ← takeIf isOperator then
        let _ ← need part
        return some .other
      else return none) first
    return some whole
  else return first

/-- What ESCAPE names. -/
def escape : Reader Unit := do
  if ← takeKeyword "ESCAPE" then
    match ← text with
    | some _ => pure ()
    | none => discard (need null)

/-- What a comparison by a word compares to. -/
def comparand (n : Option Node) : Reader (Option Node) := do
  let _ ← required n
  let _ ← need bitwise
  escape
  return some .other

/-- What follows BETWEEN. -/
def between (n : Option Node) : Reader (Option Node) := do
  let _ ← required n
  if !(← takeWord "SYMMETRIC") then
    let _ ← takeWord "ASYMMETRIC"
  let _ ← need bitwise
  let _ ← takeKeyword "AND"
  let _ ← need bitwise
  return some .other

/-- A query, or an expression that may have a second name behind AS. -/
def queryOrExpression (named : Bool := false) : Reader (Option Node) := do
  match ← query with
  | some n => return some n
  | none =>
    let n ← assignment
    setOperations (← if named then aliased n true else pure n)

/-- A function of all items of a list, as a table. -/
def unnested (n : Option Node) : Reader (Option Node) := do
  if ← isPair (.keyword "UNNEST") (.mark "(") then
    advance
    requiredItems (← wrapped (items equality))
    let _ ← takePair (.keyword "WITH") (.keyword "ORDINALITY")
    if ← takePair (.keyword "WITH") (.keyword "OFFSET") then
      let _ ← takeKeyword "AS"
      let _ ← name false
    let _ ← required n
    return some .other
  else return none

/-- What follows IN. -/
def membership (n : Option Node) : Reader (Option Node) := do
  match ← unnested n with
  | some found => return some found
  | none =>
    if ← takeMarks ["(", "["] then
      let isParen := (← latest).map (·.kind) == some (.mark "(")
      let found ← items queryOrExpression
      match found with
      | [q] => if q.isQuery then discard (clauses (some q))
      | _ => pure ()
      let _ ← required n
      expectMark (if isParen then ")" else "]")
    else
      let _ ← column
      let _ ← required n
    return some .other

/-- What follows IS. -/
def identity (n : Option Node) : Reader (Option Node) := do
  let start := (← index) - 1
  let _ ← takeKeyword "NOT"
  if ← takeSequence ["DISTINCT", "FROM"] then
    let _ ← required n
    let _ ← need bitwise
    return some .other
  else if ← take (.type "JSON") then
    let _ ← takeWords ["VALUE", "SCALAR", "ARRAY", "OBJECT"]
    if !(← takeWord "WITH") then
      let _ ← takeWord "WITHOUT"
    let _ ← takeKeyword "UNIQUE"
    let _ ← takeWord "KEYS"
    let _ ← required n
    return some .other
  else
    let found ← match ← null with
      | some m => pure (some m)
      | none => bitwise
    if found.isNone then
      retreat start
      return none
    let _ ← required n
    return some .other

/-- What follows FOR in a list that is made of another. -/
def comprehension (n : Option Node) : Reader (Option Node) := do
  let start ← index
  let _ ← column
  if ← takeMark "," then
    let _ ← column
  if !(← takeKeyword "IN") then
    retreat (start - 1)
    return none
  let _ ← need column
  if ← takeWord "IF" then
    let _ ← disjunction
  let _ ← required n
  return some .other

/-- What follows an operator that is named in parentheses. -/
def namedOperator (n : Option Node) : Reader (Option Node) := do
  loop do
    if ← takeMark "(" then
      loop do
        if (← peek).isNone then return false
        if ← takeMark ")" then return false
        advance
        return true
      let _ ← required n
      let _ ← need bitwise
      takeKeyword "OPERATOR"
    else return false
  return n

/-- Keywords that compare with what follows them. -/
def comparisonWords (d : Dialect) : List String :=
  ["GLOB", "ILIKE", "IRLIKE", "LIKE", "RLIKE", "SIMILAR TO"] ++
    (if d == .bigquery then [] else ["OVERLAPS"]) ++
    (if d == .sqlite then ["MATCH"] else []) ++
    if d.family == .mysql then ["SOUNDS LIKE"] else []

/-- Marks that compare with what follows them, and are weaker than arithmetic. -/
def comparisonMarks (d : Dialect) : List String :=
  ["<@", "@>", "?&", "?|", "#-", "-|-", "&<", "&>"] ++
    match d.family with
    | .postgres => ["&&", "@@"]
    | .duckdb => ["&&", "^@", "~"]
    | _ => []

/-- A comparison by a word, from the part in front of it. -/
def range : Reader (Option Node) := do
  let d ← dialect
  let n ← bitwise
  let negated ← takeKeyword "NOT"
  let compared ← match ← peekKind with
    | some (.keyword w) =>
      if w == "BETWEEN" then
        advance
        pure (some (← between n))
      else if w == "IN" then
        advance
        pure (some (← membership n))
      else if w == "IS" then
        advance
        pure (some (← identity n))
      else if w == "FOR" then
        advance
        pure (some (← comprehension n))
      else if w == "OPERATOR" then
        advance
        pure (some (← namedOperator n))
      else if w == "MEMBER OF" then
        advance
        let _ ← required n
        let _ ← wrapped (need expression)
        pure (some (some .other))
      else if (comparisonWords d).contains w then
        advance
        pure (some (← comparand n))
      else pure none
    | some (.mark m) =>
      if (comparisonMarks d).contains m then
        advance
        pure (some (← comparand n))
      else pure none
    | _ => pure none
  let n ← match compared with
    | some (some found) => pure (some found)
    | some none => return n
    | none =>
      if ← takeKeyword "ISNULL" then
        let _ ← required n
        pure (some .other)
      else if negated then
        if ← take (.type "NULL") then
          let _ ← required n
          pure (some .other)
        else pure n
      else pure n
  let n ← if ← takeKeyword "NOTNULL" then
      let _ ← required n
      pure (some .other)
    else pure n
  let n := if negated then n.map fun _ => .other else n
  if ← takeKeyword "IS" then identity n else return n

/-- Comparisons of size. -/
def comparison : Reader (Option Node) :=
  joined range fun k => match k with
    | .mark m => ["<", ">", "<=", ">="].contains m
    | _ => false

/-- Comparisons for equality. -/
def equalityRule : Reader (Option Node) :=
  joined comparison fun k => match k with
    | .mark m => ["=", "<>", "<=>"].contains m
    | _ => false

/-- Conditions joined by AND. -/
def conjunction : Reader (Option Node) := do
  let d ← dialect
  joined equalityRule fun k =>
    k == .keyword "AND" ||
      (d.family == .mysql && (k == .mark "&&" || k == .keyword "XOR"))

/-- Whether two bars join conditions and not texts. -/
def barsAreOr (d : Dialect) : Bool := d.isOf [.mysql, .solr]

/-- Conditions joined by OR. -/
def disjunctionRule : Reader (Option Node) := do
  let d ← dialect
  joined conjunction fun k => k == .keyword "OR" || (barsAreOr d && k == .mark "||")

/-- Assignments; any word may stand on the left of one. -/
def assignmentRule : Reader (Option Node) := do
  let found ← disjunction
  let n ←
    if found.isNone && (← peekSecondKind) == some (.mark ":=") then
      advance
      pure (some (.of (.column 1)))
    else pure found
  if ← takeMark ":=" then
    let _ ← required n
    let _ ← need assignment
    return some .other
  else return n

/-- Marks that join terms as bits. -/
def bitMarks (d : Dialect) : List String :=
  match d.family with
  | .postgres => ["&", "|", "#"]
  | .duckdb => ["&", "|"]
  | _ => ["&", "^", "|"]

/-- Terms joined by operators on bits, by two bars or by two question marks. -/
def bitwiseRule : Reader (Option Node) := do
  let d ← dialect
  let isMark (k : Kind) : Bool := match k with
    | .mark m => (bitMarks d).contains m || (m == "||" && !barsAreOr d)
    | _ => false
  let step (n : Option Node) : Reader (Option (Option Node)) := do
    if ← takeIf isMark then
      let _ ← required n
      let _ ← need term
      return some (some .other)
    else if ← takeMark "??" then
      let _ ← required n
      let _ ← term
      return some (some .other)
    else if ← either (takePair (.mark "<") (.mark "<")) (takePair (.mark ">") (.mark ">")) then
      let _ ← required n
      let _ ← need term
      return some (some .other)
    else return none
  let first ← term
  match ← step first with
  | some (some n) =>
    return some (← grow (fun n => do return (← step (some n)).join) n)
  | _ => return first

/-- Factors joined by plus, minus, a remainder or a collation. -/
def termRule : Reader (Option Node) := do
  let isSum (k : Kind) : Bool :=
    k == .mark "-" || k == .mark "+" || k == .mark "%" || k == .keyword "MOD"
      || k == .keyword "COLLATE"
  let first ← factor
  if ← isNext isSum then
    let first ← required first
    let whole ← grow (fun _ => do
      if ← takeIf isSum then
        let operator ← latest
        let _ ← need factor
        let isRemainder := operator.map (·.kind) == some (.mark "%")
          || operator.map (·.kind) == some (.keyword "MOD")
        return some (if isRemainder then .of .remainder else .other)
      else return none) first
    return some whole
  else return first

/-- A part in a zone of time. -/
def zoned (n : Option Node) : Reader (Option Node) := do
  if startWords ["AT", "TIME", "ZONE"] (← get).rest then
    let first ← required n
    let whole ← grow (fun _ => do
      if ← takeSequence ["AT", "TIME", "ZONE"] then
        let _ ← need unary
        return some .other
      else return none) first
    return some whole
  else return n

/-- Powers, where a dialect has a mark for them. -/
def power : Reader (Option Node) := do
  let d ← dialect
  let isPower (k : Kind) : Bool :=
    match d.family with
    | .postgres => k == .mark "^"
    | .duckdb => k == .mark "^" || k == .mark "**"
    | _ => false
  joined unary isPower

/-- Operands joined by marks of a product. The word for a whole quotient is a name where nothing
follows it. -/
def factorRule : Reader (Option Node) := do
  let isProduct (k : Kind) : Bool :=
    k == .keyword "DIV" || k == .mark "<->" || k == .mark "/" || k == .mark "*"
  let first ← zoned (← power)
  let step (n : Option Node) : Reader (Option Node) := do
    if ← takeIf isProduct then
      let operator ← latest
      match ← power with
      | some _ =>
        let _ ← required n
        return some .other
      | none =>
        if (operator.map (·.upper)) == some "DIV" then
          stepBack
          return none
        else failure
    else return none
  match ← step first with
  | some n => return some (← grow (fun n => step (some n)) n)
  | none => return first

/-- An operand with its sign. -/
def unaryRule : Reader (Option Node) := do
  let d ← dialect
  if ← takeMark "+" then unary
  else if ← takeKeyword "NOT" then
    let _ ← need equality
    return some .other
  else if ← takeMarks (if d.family == .postgres then ["-", "|/", "||/"] else ["-", "~"]) then
    let _ ← need unary
    return some .other
  else if d.family == .postgres then
    if ← takeKeyword "RLIKE" then
      let _ ← need unary
      return some .other
    else zoned (← operand)
  else zoned (← operand)

end FluentQuery.Sql
