import FluentQuery.Value.Printed

/-!
# Clauses of a query

A condition compares a column with a value that is bound, never written into the text; a join and
a sort key are trusted text. `Clauses` is all that a query has accumulated, in the order of its
calls.
-/

namespace FluentQuery

/-- Comparison operators. -/
inductive Operator where
  | eq
  | ne
  | gt
  | lt
  | like
  deriving DecidableEq, Inhabited

namespace Operator

/-- The operator in SQL. -/
def symbol : Operator → String
  | .eq => "="
  | .ne => "<>"
  | .gt => ">"
  | .lt => "<"
  | .like => "LIKE"

/-- The name of the operator. -/
def label : Operator → String
  | .eq => "EQ"
  | .ne => "NE"
  | .gt => "GT"
  | .lt => "LT"
  | .like => "LIKE"

/-- All operators, in the order in which error texts list them. -/
def all : List Operator := [.eq, .ne, .gt, .lt, .like]

end Operator

/-- Kinds of joins. -/
inductive JoinKind where
  | inner
  | left
  | right
  deriving DecidableEq, Inhabited

namespace JoinKind

/-- The kind in SQL. -/
def symbol : JoinKind → String
  | .inner => "INNER"
  | .left => "LEFT"
  | .right => "RIGHT"

/-- All kinds, in the order in which error texts list them. -/
def all : List JoinKind := [.inner, .left, .right]

end JoinKind

/-- One predicate of the filter. -/
structure Condition where
  column : String
  operator : Operator
  value : Value
  deriving Inhabited, BEq

/-- One join. -/
structure Join where
  kind : JoinKind
  table : String
  on : String
  deriving Inhabited, DecidableEq

/-- One sort key. -/
structure OrderItem where
  column : String
  ascending : Bool
  deriving Inhabited, DecidableEq

/-- The predicate in SQL, with a placeholder for the value. -/
def Condition.sql (c : Condition) : String := c.column ++ " " ++ c.operator.symbol ++ " ?"

/-- The join in SQL. -/
def Join.sql (j : Join) : String := j.kind.symbol ++ " JOIN " ++ j.table ++ " ON " ++ j.on

/-- The sort key in SQL. -/
def OrderItem.sql (o : OrderItem) : String :=
  o.column ++ " " ++ (if o.ascending then "ASC" else "DESC")

/-- A condition among other text. -/
def Condition.quoted (c : Condition) : String :=
  "Condition(column=" ++ Text.quoted c.column ++ ", operator=<Operator." ++ c.operator.label ++
    ": " ++ Text.quoted c.operator.symbol ++ ">, value=" ++ c.value.quoted ++ ")"

/-- A join among other text. -/
def Join.quoted (j : Join) : String :=
  "Join(kind=<JoinKind." ++ j.kind.symbol ++ ": " ++ Text.quoted j.kind.symbol ++ ">, table=" ++
    Text.quoted j.table ++ ", on=" ++ Text.quoted j.on ++ ")"

/-- A sort key among other text. -/
def OrderItem.quoted (o : OrderItem) : String :=
  "OrderItem(column=" ++ Text.quoted o.column ++ ", ascending=" ++
    (Value.bool o.ascending).quoted ++ ")"

/-- The clauses that a query has accumulated. Custom SQL may be of any kind; one that counts as
absent is none. -/
structure Clauses where
  conditions : List Condition := []
  selected : List String := []
  joins : List Join := []
  order : List OrderItem := []
  limit : Option Nat := none
  offset : Option Nat := none
  customSql : Value := .null
  deriving Inhabited, BEq

namespace Clauses

/-- Texts in brackets. -/
def bracketed (items : List String) : String := "[" ++ joinWith ", " items ++ "]"

/-- An optional bound among other text. -/
def boundText : Option Nat → String
  | none => "None"
  | some n => intText n

/-- The clauses among other text. -/
def quoted (s : Clauses) : String :=
  "QueryState(conditions=" ++ bracketed (s.conditions.map Condition.quoted) ++
    ", selected_columns=" ++ bracketed (s.selected.map Text.quoted) ++
    ", joins=" ++ bracketed (s.joins.map Join.quoted) ++
    ", order_by=" ++ bracketed (s.order.map OrderItem.quoted) ++
    ", limit=" ++ boundText s.limit ++ ", offset=" ++ boundText s.offset ++
    ", custom_sql=" ++ s.customSql.quoted ++ ")"

/-- The values that the conditions bind, in order. -/
def params (s : Clauses) : List Value := s.conditions.map Condition.value

/-- Whether the bounds can be written. -/
def boundsFit (s : Clauses) : Bool :=
  s.limit.all (fun n : Nat => fitsNumeral n) && s.offset.all (fun n : Nat => fitsNumeral n)

/-- Whether the clauses can be written among other text. -/
def isWritable (s : Clauses) : Bool :=
  s.params.all Value.isWritable && s.boundsFit && s.customSql.isWritable

end Clauses

end FluentQuery
