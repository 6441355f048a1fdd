import FluentQuery.Value.Printed

/-!
# Errors of the builder and of decoding

A builder error says why a query cannot become a statement; a decoding error says which row does
not fit its type. Both have a code, a message, details to look at and possibly a suggestion,
which `Report` puts together.
-/

namespace FluentQuery

/-- Why a query or the arguments of a call give no statement. -/
inductive BuilderError where
  | tableMissing
  | invalidBound (name : String) (value : Value)
  | invalidPagination (pageNo pageSize : Value)
  | pageSizeExceeded (pageSize maxPageSize : Value)
  | unsafeDelete (reason : String)
  | invalidArgument (name : String) (value : Value)
  | unknownDialect (dialect : Value)
  deriving Inhabited, BEq

/-- The values that the report of a builder error shows. -/
def BuilderError.values : BuilderError → List Value
  | .tableMissing | .unsafeDelete _ => []
  | .invalidBound _ value | .invalidArgument _ value | .unknownDialect value => [value]
  | .invalidPagination pageNo pageSize => [pageNo, pageSize]
  | .pageSizeExceeded pageSize maxPageSize => [pageSize, maxPageSize]

/-- A row that does not fit its type. -/
structure DecodingError where
  typeName : String
  rowIndex : Int
  reason : String
  deriving Inhabited, DecidableEq

/-- What a caller sees of a structured error. -/
structure Report where
  code : String
  message : String
  details : List (String × Value)
  suggestion : Option String
  deriving Inhabited

/-- The report of a builder error. -/
def BuilderError.report : BuilderError → Report
  | .tableMissing =>
    ⟨"ERR_1001", "No table name given and no custom SQL set", [],
      some "Pass a table name to the terminal call or use custom_sql()"⟩
  | .invalidBound name value =>
    ⟨"ERR_1002", name ++ " must be a non-negative integer, got " ++ value.quoted,
      [(name, .text value.quoted)], none⟩
  | .invalidPagination pageNo pageSize =>
    ⟨"ERR_1003",
      "Invalid pagination: page_no=" ++ pageNo.quoted ++ ", page_size=" ++ pageSize.quoted,
      [("page_no", .text pageNo.quoted), ("page_size", .text pageSize.quoted)],
      some "page_no and page_size must both be integers >= 1"⟩
  | .pageSizeExceeded pageSize maxPageSize =>
    ⟨"ERR_1004",
      "page_size " ++ pageSize.plain ++ " exceeds the configured maximum of " ++ maxPageSize.plain,
      [("page_size", pageSize), ("max_page_size", maxPageSize)],
      some "Request smaller pages or raise QUERYWRAPPER_MAX_PAGE_SIZE"⟩
  | .unsafeDelete reason =>
    ⟨"ERR_1005", "Refusing to build DELETE: " ++ reason, [],
      some "Add a condition, or pass allow_full_table=True to delete every row"⟩
  | .invalidArgument name value =>
    ⟨"ERR_1006", name ++ " must be a non-empty string, got " ++ value.quoted,
      [(name, .text value.quoted)], none⟩
  | .unknownDialect dialect =>
    ⟨"ERR_1007", "Unknown SQL dialect: " ++ dialect.quoted, [("dialect", dialect)],
      some "Use a sqlglot dialect name such as 'postgres', 'duckdb' or 'sqlite'"⟩

/-- The report of a decoding error. -/
def DecodingError.report (e : DecodingError) : Report :=
  ⟨"ERR_2001",
    "Row " ++ intText e.rowIndex ++ " cannot be decoded as " ++ e.typeName ++ ": " ++ e.reason,
    [("record_type", .text e.typeName), ("row_index", .int e.rowIndex)], none⟩

namespace Report

/-- The names of the parts that a report has, in alphabetical order. -/
def keys (r : Report) : List String :=
  ["code"] ++ (if r.details.isEmpty then [] else ["details"]) ++ ["message"] ++
    (if r.suggestion.isSome then ["suggestion"] else [])

end Report

end FluentQuery
