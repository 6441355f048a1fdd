import FluentQuery.Adapter.Engine
import FluentQuery.Page.Arithmetic

/-!
# Placeholders

Statements come with question marks for bound values. A driver that formats its text takes `%s`
instead and reads a doubled percent sign as one, so percent signs are doubled first. Without
values nothing is formatted, and the text stays as it is.
-/

namespace FluentQuery

namespace Placeholder

/-- A character in the text for a driver that formats. -/
def formatChar (c : Char) : List Char :=
  if c = '%' then ['%', '%'] else if c = '?' then ['%', 's'] else [c]

/-- A text for a driver that formats. -/
def format (sql : String) : String := String.ofList (sql.toList.flatMap formatChar)

end Placeholder

namespace Engine

/-- The text and the values that the driver of an engine takes. -/
def prepare (e : Engine) (sql : String) (params : List Value) : String × List Value :=
  if e = .postgres ∧ params ≠ [] then (Placeholder.format sql, params) else (sql, params)

end Engine

/-- The values to bind: none for a value that counts as absent, else its items. -/
def boundValues (params : Value) : Except Failure (List Value) :=
  if !params.isTruthy then .ok []
  else
    match params.items? with
    | .ok items => .ok items
    | .error m => .error (.misuse m)

end FluentQuery
