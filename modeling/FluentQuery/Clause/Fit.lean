import FluentQuery.Clause.Basic
import FluentQuery.Schema.Validate
import FluentQuery.Error.Failure

/-!
# Clauses from fields

A single clause can be made from named fields of any kind; the fields are converted to the types
of the clause, or all that is wrong with them is reported. A clause that is made never changes.
-/

namespace FluentQuery

/-- The kinds of clauses that can be made from fields. -/
inductive ClauseKind where
  | condition
  | join
  | order
  deriving DecidableEq, Inhabited

/-- A clause of some kind. -/
inductive AnyClause where
  | condition (c : Condition)
  | join (j : Join)
  | order (o : OrderItem)
  deriving Inhabited

namespace AnyClause

/-- The clause in SQL. -/
def sql : AnyClause → String
  | .condition c => c.sql
  | .join j => j.sql
  | .order o => o.sql

/-- The clause among other text. -/
def quoted : AnyClause → String
  | .condition c => c.quoted
  | .join j => j.quoted
  | .order o => o.quoted

end AnyClause

namespace ClauseKind

/-- The name of a kind of clause. -/
def title : ClauseKind → String
  | .condition => "Condition"
  | .join => "Join"
  | .order => "OrderItem"

/-- The type of a kind of clause. -/
def schema (kind : ClauseKind) : Schema :=
  .model kind.title
    (match kind with
    | .condition =>
      [("column", .text, none),
        ("operator", .enumeration .text "Operator" (Operator.all.map fun o => .text o.symbol),
          none),
        ("value", .any, some .null)]
    | .join =>
      [("kind", .enumeration .text "JoinKind" (JoinKind.all.map fun k => .text k.symbol), none),
        ("table", .text, none), ("on", .text, none)]
    | .order => [("column", .text, none), ("ascending", .bool, some (.bool true))])
    .ignore false

/-- A field of a fitted record as a text; a member of an enumeration gives its value. -/
def textField (fields : List (String × Value)) (name : String) : String :=
  match fields.lookup name with
  | some (.text s) => s
  | some (.member _ _ (.text s)) => s
  | _ => ""

/-- The clause of a fitted record. -/
def ofFields (kind : ClauseKind) (fields : List (String × Value)) : AnyClause :=
  let text := textField fields
  match kind with
  | .condition =>
    let operator := (Operator.all.find? (·.symbol == text "operator")).getD .eq
    .condition ⟨text "column", operator, (fields.lookup "value").getD .null⟩
  | .join =>
    let joinKind := (JoinKind.all.find? (·.symbol == text "kind")).getD .inner
    .join ⟨joinKind, text "table", text "on"⟩
  | .order =>
    let ascending := match fields.lookup "ascending" with
      | some (.bool b) => b
      | _ => true
    .order ⟨text "column", ascending⟩

/-- Makes a clause from named fields. -/
def make (kind : ClauseKind) (fields : List (String × Value)) : Except Failure AnyClause :=
  match kind.schema.fit false (.dict (fields.map fun f => (.text f.1, f.2))) with
  | .ok (.record _ _ fitted) => .ok (kind.ofFields fitted)
  | .ok _ => .error (.invalid ⟨kind.title, []⟩)
  | .error issues => .error (.invalid ⟨kind.title, issues⟩)

/-- The failure of an attempt to change a field of a clause. -/
def frozenField (kind : ClauseKind) (field : String) : Failure :=
  .invalid ⟨kind.title, [⟨[field], .frozen⟩]⟩

end ClauseKind

end FluentQuery
