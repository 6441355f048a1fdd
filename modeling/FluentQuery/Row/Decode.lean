import FluentQuery.Error.Failure
import FluentQuery.Schema.Validate

/-!
# Decoding rows

A row is a dictionary from columns to values. Without a type a row stays as it is; for a scalar
type it must have one column, whose value is converted; for any other type the whole row is.

* **`Row.decode`** — one row, under the index that an error tells;
* **`Row.decodeAll`** — every row in order, up to the first that does not fit.

How a value is made to fit a type is an argument of both.
-/

namespace FluentQuery

/-- A row: its columns with their values. -/
abbrev Row := Entries

namespace Row

/-- A way to make a value fit a type. -/
abbrev Fit := Schema → Value → Except (List Issue) Value

/-- The usual way: conversions as far as the type allows them. -/
def lenient : Fit := Schema.fit false

/-- Issues in one line: the first, and how many more there are. -/
def summary : List Issue → String
  | [] => ""
  | first :: more =>
    let place := if first.location.isEmpty then "<row>" else first.location
    place ++ ": " ++ first.complaint.message ++
      (if more.isEmpty then "" else " (+" ++ intText more.length ++ " more)")

/-- What of a row is to fit a type, or why there is no such thing. -/
def subject (schema : Schema) (row : Row) : Except String Value :=
  if schema.isScalar then
    match row with
    | [(_, v)] => .ok v
    | row => .error ("expected a single column, got " ++ intText row.length)
  else .ok (.dict row)

/-- Decodes a row. -/
def decode (fit : Fit) (type : Option Schema) (index : Int) (row : Row) : Except Failure Value :=
  match type with
  | none => .ok (.dict row)
  | some schema =>
    match subject schema row with
    | .error reason => .error (.decoding ⟨schema.name, index, reason⟩)
    | .ok v =>
      match fit schema v with
      | .ok w => .ok w
      | .error issues => .error (.decoding ⟨schema.name, index, summary issues⟩)

/-- Decodes rows from an index on. -/
def decodeFrom (fit : Fit) (type : Option Schema) : Nat → List Row → Except Failure (List Value)
  | _, [] => .ok []
  | index, row :: rest => do
    let v ← decode fit type index row
    let vs ← decodeFrom fit type (index + 1) rest
    return v :: vs

/-- Decodes all rows. -/
def decodeAll (fit : Fit) (type : Option Schema) (rows : List Row) : Except Failure (List Value) :=
  decodeFrom fit type 0 rows

end Row

end FluentQuery
