import FluentQuery.Page.Arithmetic
import FluentQuery.Schema.Validate

/-!
# Pages

A page is one slice of a result with what follows from the number of all rows: how many pages
there are, and whether this one is followed by another. `Page.build` computes both and then
checks every field; a page that is built never changes.
-/

namespace FluentQuery

/-- One slice of a result. -/
structure Page where
  records : List Value
  total : Int
  pageNo : Int
  pageSize : Int
  pages : Int
  hasNext : Bool
  deriving Inhabited, BEq

namespace Page

/-- The name of the type of pages of some records. -/
def title : Option Schema → String
  | none => "Page"
  | some schema => "Page[" ++ schema.fullName ++ "]"

/-- The type of pages of some records. -/
def schema (of : Option Schema) : Schema :=
  .model (title of)
    [("records", .list (of.getD .any), some (.list [])), ("total", .atLeast 0 .int, none),
      ("page_no", .atLeast 1 .int, none), ("page_size", .atLeast 1 .int, none),
      ("pages", .atLeast 0 .int, none), ("has_next", .bool, none)]
    .ignore false

/-- A field of a fitted record as a number. -/
def numberField (fields : List (String × Value)) (name : String) : Int :=
  match fields.lookup name with
  | some (.int n) => n
  | _ => 0

/-- The page of a fitted record. -/
def ofFields (fields : List (String × Value)) : Page where
  records := match fields.lookup "records" with
    | some (.list items) => items
    | _ => []
  total := numberField fields "total"
  pageNo := numberField fields "page_no"
  pageSize := numberField fields "page_size"
  pages := numberField fields "pages"
  hasNext := match fields.lookup "has_next" with
    | some (.bool b) => b
    | _ => false

/-- An arithmetic step of building a page. -/
def compute {α : Type} (r : Except Misuse α) : Except Failure α :=
  match r with
  | .ok a => .ok a
  | .error m => .error (.misuse m)

/-- The number of pages: the total divided by the size of a page, rounded up. -/
def pageCount (total pageSize : Value) : Except Misuse Value := do
  let upper ← (← total.add pageSize).sub (.int 1)
  upper.floorDiv pageSize

/-- Whether rows follow a page. -/
def isFollowed (total pageNo pageSize : Value) : Except Misuse Bool := do
  (← pageNo.mul pageSize).lt total

/-- Builds a page. -/
def build (of : Option Schema) (records total pageNo pageSize : Value) : Except Failure Page := do
  let pages ← compute (pageCount total pageSize)
  let items ← compute records.items?
  let hasNext ← compute (isFollowed total pageNo pageSize)
  match (schema of).fit false (.dict
      [(.text "records", .list items), (.text "total", total), (.text "page_no", pageNo),
        (.text "page_size", pageSize), (.text "pages", pages), (.text "has_next", .bool hasNext)])
    with
  | .ok (.record _ _ fields) => return ofFields fields
  | .ok _ => throw (.invalid ⟨title of, []⟩)
  | .error issues => throw (.invalid ⟨title of, issues⟩)

/-- The page of a result without rows. -/
def empty (of : Option Schema) (pageNo pageSize : Value) : Except Failure Page :=
  build of (.list []) (.int 0) pageNo pageSize

/-- The failure of an attempt to change a field of a page. -/
def frozenField (of : Option Schema) (field : String) : Failure :=
  .invalid ⟨title of, [⟨[field], .frozen⟩]⟩

end Page

end FluentQuery
