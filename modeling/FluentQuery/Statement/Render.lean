import FluentQuery.Clause.Basic
import FluentQuery.Error.Failure
import FluentQuery.Sql.Shape

/-!
# Statements

A statement is a text with placeholders and the values that are bound to them, in order. Its
parts, joined by single blanks, are a head, the joins, the filter, the sort keys and the bounds.

* **`Head.ofTable`** — the head over a table, with the columns selected;
* **`Head.ofCustomSql`** — the head over custom SQL: the SQL as it is, or as a derived table when
  it is a set operation that joins or conditions follow;
* **`Clauses.selectOver`** — a whole statement over a head.

Nothing here looks at a dialect: what is known of custom SQL comes in as an `Inspection`.
-/

namespace FluentQuery

/-- A text with placeholders and the values bound to them. -/
structure Statement where
  sql : String
  params : List Value
  deriving Inhabited, BEq

/-- How one statement departs from the clauses of its query. A bound that is null is taken from
the query. -/
structure Overrides where
  limit : Value := .null
  offset : Value := .null
  withOrder : Bool := true
  deriving Inhabited

/-- The front of a statement, and whether conditions go on with a filter that it already has. -/
structure Head where
  sql : String
  extendsWhere : Bool := false
  deriving Inhabited, DecidableEq

/-- Whether bytes hold nothing but blanks of ASCII. -/
def isBlankBytes (b : List UInt8) : Bool := b.all fun byte => isAsciiBlank (Char.ofNat byte.toNat)

/-- The text of a table, which must not be blank. -/
def tableText (table : Value) : Except Failure String :=
  if !table.isTruthy then .error (.builder .tableMissing)
  else
    match table with
    | .text s => if Text.isBlank s then .error (.builder .tableMissing) else .ok s
    | .bytes b => if isBlankBytes b then .error (.builder .tableMissing) else .ok table.plain
    | v => .error (.misuse (.noMember v.kindName "strip"))

/-- The text of custom SQL. -/
def customText (sql : Value) : Except Failure String :=
  match sql with
  | .text s => .ok s
  | .bytes _ | .list _ | .tuple _ | .dict _ => .error (.misuse (.notSearchable sql.kindName))
  | v => .error (.misuse (.notSized v.kindName))

namespace Clauses

/-- Whether the query has custom SQL. -/
def isCustom (s : Clauses) : Bool := s.customSql.isTruthy

/-- The columns of a statement. -/
def projection (s : Clauses) : String :=
  if s.selected.isEmpty then "*" else joinWith ", " s.selected

/-- The joins of a statement. -/
def joinParts (s : Clauses) : List String := s.joins.map Join.sql

/-- All conditions in one expression. -/
def predicates (s : Clauses) : String := joinWith " AND " (s.conditions.map Condition.sql)

/-- The filter of a statement, if there are conditions. -/
def filterParts (s : Clauses) (extendsWhere : Bool) : List String :=
  if s.conditions.isEmpty then []
  else [(if extendsWhere then "AND " else "WHERE ") ++ s.predicates]

/-- The sort keys of a statement, if there are any. -/
def orderParts (s : Clauses) : List String :=
  if s.order.isEmpty then [] else ["ORDER BY " ++ joinWith ", " (s.order.map OrderItem.sql)]

/-- A bound of a statement behind its word. -/
def boundPart (word : String) (n : Int) : Except Failure (List String) := do
  return [word ++ " " ++ (← numeral n)]

/-- A bound of a statement: the one given for it, or else the query's own. One that is too long to
be written is no bound. -/
def boundParts (word : String) (given : Value) (own : Option Nat) : Except Failure (List String) :=
  match given with
  | .null =>
    match own with
    | none => .ok []
    | some n => boundPart word n
  | v =>
    match v.toInteger with
    | .ok n => boundPart word n
    | .error e => .error (.integer e)

/-- What follows the head of a statement. -/
def tailParts (s : Clauses) (extendsWhere : Bool) (o : Overrides) :
    Except Failure (List String) := do
  let limit ← boundParts "LIMIT" o.limit s.limit
  let offset ← boundParts "OFFSET" o.offset s.offset
  return s.joinParts ++ s.filterParts extendsWhere ++
    (if o.withOrder then s.orderParts else []) ++ limit ++ offset

/-- The clauses without sort keys and bounds. -/
def withoutPaging (s : Clauses) : Clauses := { s with order := [], limit := none, offset := none }

end Clauses

namespace Head

/-- The head of a statement over a table. -/
def ofTable (s : Clauses) (table : String) : Head :=
  ⟨"SELECT " ++ s.projection ++ " FROM " ++ table, false⟩

/-- Whether conditions go on with a filter of custom SQL; where it cannot be read, any WHERE in
its text counts. -/
def hasWhere (i : Sql.Inspection) (sql : String) : Bool :=
  match i with
  | .unparsed => Sql.mentionsWhere sql
  | .setOperation => false
  | .single found => found

/-- The head of a statement over custom SQL. -/
def ofCustomSql (i : Sql.Inspection) (s : Clauses) (sql : String) : Head :=
  if i = .setOperation ∧ ¬(s.conditions.isEmpty ∧ s.joins.isEmpty) then
    ⟨"SELECT * FROM (" ++ sql ++ ") AS t", false⟩
  else ⟨sql, hasWhere i sql⟩

end Head

namespace Clauses

/-- The statement that reads rows, over a head. -/
def selectOver (s : Clauses) (head : Head) (o : Overrides) : Except Failure Statement := do
  return ⟨joinWith " " (head.sql :: (← s.tailParts head.extendsWhere o)), s.params⟩

/-- The statement that reads rows of a table. -/
def selectFrom (s : Clauses) (table : Value) (o : Overrides) : Except Failure Statement := do
  s.selectOver (.ofTable s (← tableText table)) o

/-- The statement that counts the rows of another. -/
def countOf (inner : Statement) : Statement :=
  ⟨"SELECT COUNT(*) FROM (" ++ inner.sql ++ ") AS t", inner.params⟩

/-- The statement that counts rows of a table. -/
def countFrom (s : Clauses) (table : Value) : Except Failure Statement := do
  return ⟨joinWith " " (("SELECT COUNT(*) FROM " ++ (← tableText table)) ::
    (s.joinParts ++ s.filterParts false)), s.params⟩

/-- The statement that deletes rows of a table. -/
def deleteFrom (s : Clauses) (table : Value) : Except Failure Statement := do
  return ⟨joinWith " " (("DELETE FROM " ++ (← tableText table)) :: s.filterParts false), s.params⟩

end Clauses

end FluentQuery
