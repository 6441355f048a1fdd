import FluentQuery.Clause.Fit

/-!
# Queries

A query accumulates clauses by calls. A call whose arguments are not usable is rejected and
leaves the query as it was.

* **`Clauses.apply`** — what a call makes of the clauses;
* **`Query.chain`** — what calls make of a query, up to the first that is rejected.
-/

namespace FluentQuery

/-- A query: its clauses and the dialect in which its custom SQL is read. -/
structure Query where
  dialect : Value := .null
  clauses : Clauses := {}
  deriving Inhabited, BEq

/-- The query among other text. -/
def Query.quoted (q : Query) : String := "QueryWrapper(" ++ q.clauses.quoted ++ ")"

/-- The query written among other text. -/
def Query.shown (q : Query) : Except Failure String :=
  if q.clauses.isWritable then .ok q.quoted else .error .unwritable

/-- A call that adds or sets a clause, with arguments of any kind. -/
inductive ClauseCall where
  | condition (operator : Operator) (column value : Value)
  | select (columns : List Value)
  | orderBy (column ascending : Value)
  | limit (bound : Value)
  | offset (bound : Value)
  | join (kind : JoinKind) (table on : Value)
  | customSql (sql : Value)
  deriving Inhabited

/-- A value that is a text with something in it. -/
def Value.usableText? : Value → Option String
  | .text s => if Text.isBlank s then none else some s
  | _ => none

/-- A value that is a number of things. -/
def Value.count? : Value → Option Nat
  | .int n => if n < 0 then none else some n.toNat
  | _ => none

namespace Clauses

/-- A usable text, or the complaint about an argument. -/
def usable (name : String) (v : Value) : Except Failure String :=
  match v.usableText? with
  | some s => .ok s
  | none => .error (.refusal (.invalidArgument name v))

/-- A bound, or the complaint about it. -/
def usableBound (name : String) (v : Value) : Except Failure Nat :=
  match v.count? with
  | some n => .ok n
  | none => .error (.refusal (.invalidBound name v))

/-- The direction of a sort key. -/
def direction (v : Value) : Except Failure Bool :=
  match Convert.toBool false v with
  | .ok b => .ok b
  | .error c => .error (.invalid ⟨"OrderItem", [⟨["ascending"], c⟩]⟩)

/-- The columns of a selection: a single list counts as its items. -/
def unpacked : List Value → List Value
  | [.list items] => items
  | [.tuple items] => items
  | columns => columns

/-- What a call makes of the clauses. -/
def apply (s : Clauses) : ClauseCall → Except Failure Clauses
  | .condition operator column value => do
    let column ← usable "column" column
    return { s with conditions := s.conditions ++ [⟨column, operator, value⟩] }
  | .select columns => do
    return { s with selected := ← (unpacked columns).mapM (usable "column") }
  | .orderBy column ascending => do
    let column ← usable "column" column
    let ascending ← direction ascending
    return { s with order := s.order ++ [⟨column, ascending⟩] }
  | .limit bound => do
    return { s with limit := some (← usableBound "limit" bound) }
  | .offset bound => do
    return { s with offset := some (← usableBound "offset" bound) }
  | .join kind table on => do
    let table ← usable "join table" table
    let on ← usable "join condition" on
    return { s with joins := s.joins ++ [⟨kind, table, on⟩] }
  | .customSql sql => .ok { s with customSql := sql }

end Clauses

namespace Query

/-- The query after a call, or the reason why it is rejected. -/
def call (q : Query) (c : ClauseCall) : Except Failure Query := do
  return { q with clauses := ← q.clauses.apply c }

/-- Calls one after another up to the first that is rejected: the query they leave, and why they
stopped if they did. -/
def chain (q : Query) : List ClauseCall → Query × Option Failure
  | [] => (q, none)
  | c :: rest =>
    match q.call c with
    | .ok q' => q'.chain rest
    | .error e => (q, some e)

end Query

end FluentQuery
