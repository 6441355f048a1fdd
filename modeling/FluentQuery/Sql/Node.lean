import FluentQuery.Sql.Token

/-!
# Parts of a statement

Reading a statement builds no tree. A `Node` keeps of each part what decides how reading goes on:
its form, its name if it is a column, and which of its clauses are there.

* **`Node.isQuery`**, **`Node.takesClauses`** — what may be followed by clauses;
* **`Node.unwrapped`** — a query without the parentheses around it that hold nothing else.
-/

namespace FluentQuery.Sql

/-- The form of a part. -/
inductive Form where
  | select
  | setOperation
  /-- A query in parentheses. -/
  | subquery
  | values
  | table
  | lateral
  | unnest
  /-- A change to rows. -/
  | change
  /-- A column with its number of names. -/
  | column (parts : Nat)
  /-- A name that is no column. -/
  | name
  | text
  | number
  | cast
  /-- A remainder. -/
  | remainder
  | interval
  /-- A function that takes many rows to one. -/
  | aggregate
  /-- An expression in parentheses; `aggregate` tells whether it is such a function. -/
  | parens (aggregate : Bool)
  /-- The name of a type; `sized` tells whether it has arguments. -/
  | dataType (t : String) (sized : Bool)
  | function
  | other
  deriving DecidableEq, Inhabited

/-- A part of a statement. -/
structure Node where
  form : Form := .other
  /-- The name of a column or a table, or the content of a text. -/
  name : String := ""
  /-- Whether the name is in quotes. -/
  isQuoted : Bool := false
  /-- Names of what the part has: clauses, a second name, a sample. -/
  clauses : List String := []
  /-- The form of what is inside parentheses that hold nothing else. -/
  innerForm : Form := .other
  /-- What the inside of the parentheses has. -/
  innerClauses : List String := []
  deriving DecidableEq, Inhabited

namespace Node

/-- A part of no account. -/
def other : Node := {}

/-- A part of a given form. -/
def of (form : Form) : Node := { form }

/-- Whether the part is a query. -/
def isQuery (n : Node) : Bool :=
  n.form == .select || n.form == .setOperation || n.form == .subquery

/-- Whether clauses may follow the part. -/
def takesClauses (n : Node) : Bool := n.isQuery || n.form == .table || n.form == .values

/-- Whether the part has something of a name. -/
def has (n : Node) (clause : String) : Bool := n.clauses.contains clause

/-- The part with something more. -/
def adding (n : Node) (clause : String) : Node := { n with clauses := clause :: n.clauses }

/-- The part with something more, if it is there. -/
def addingIf (n : Node) (there : Bool) (clause : String) : Node :=
  if there then n.adding clause else n

/-- Whether the part is nothing but parentheses around a query. -/
def isWrapper (n : Node) : Bool := n.form == .subquery && n.clauses.isEmpty

/-- The query inside parentheses that hold nothing else. -/
def unwrapped (n : Node) : Node :=
  if n.isWrapper then { form := n.innerForm, clauses := n.innerClauses } else n

/-- A query or a table in parentheses. -/
def inParens (n : Node) : Node :=
  let inner := n.unwrapped
  { form := .subquery, innerForm := inner.form, innerClauses := inner.clauses }

/-- Whether queries with names of their own may stand in front of the part. -/
def takesDefinitions (n : Node) : Bool := n.isQuery || n.form == .change

/-- Whether the part is a column with a single name without quotes. -/
def isPlainColumn (n : Node) : Bool := n.form == .column 1 && !n.isQuoted

end Node

end FluentQuery.Sql
