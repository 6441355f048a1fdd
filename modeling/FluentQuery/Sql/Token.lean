import FluentQuery.Sql.Dialect

/-!
# Tokens of a statement

A token is a word, a quoted name, a text, a number or a mark, with its place in the statement.

* **`Kind`** — what a token is; keywords and types carry the one spelling that stands for all
  others, and so do marks;
* **`Kind.isName`**, **`Kind.isTableAlias`**, **`Kind.isFunction`** — where a keyword may also be a
  name;
* **`Kind.isReserved`** — what is no name even after AS.
-/

namespace FluentQuery.Sql

/-- What a token is. -/
inductive Kind where
  /-- A word that is no keyword. -/
  | word
  /-- A name in quotes. -/
  | name
  | text
  /-- A text with letters or a tag in front of its quotes. -/
  | markedText
  | number
  /-- Bits, digits or bytes in quotes. -/
  | markedNumber
  | mark (m : String)
  | keyword (w : String)
  | type (t : String)
  deriving DecidableEq, Inhabited

/-- A token with its place. -/
structure Token where
  kind : Kind
  /-- The content, without quotes. -/
  text : String
  /-- The content in capitals. -/
  upper : String
  /-- The place of the first character. -/
  start : Nat := 0
  /-- The place behind the last character. -/
  stop : Nat := 0
  /-- Whether a comment belongs to the token. -/
  commented : Bool := false
  deriving DecidableEq, Inhabited

/-- Keywords that are no names. -/
def reservedWords : List String :=
  ["ALTER", "AND", "AS", "BETWEEN", "BULK COLLECT INTO", "CHARACTER SET", "CLUSTER BY",
    "CONNECT BY", "CREATE", "CROSS", "DECLARE", "DISTINCT", "DISTRIBUTE BY", "DROP", "ELSE",
    "EXCEPT", "FETCH", "FOR", "FOR TIMESTAMP", "FOR VERSION", "FORCE", "FROM", "GLOB", "GRANT",
    "GROUP BY", "GROUPING SETS", "HAVING", "HINT", "IGNORE", "ILIKE", "IN", "INDEXED BY", "INNER",
    "INSERT", "INSTALL", "INTERSECT", "INTO", "INTRODUCER", "IRLIKE", "JOIN", "KEY", "LATERAL",
    "LIKE", "MATCH_CONDITION", "MATCH_RECOGNIZE", "MEMBER OF", "MOD", "NOT", "NOTNULL", "ON",
    "ONLY", "OPTION", "OR", "ORDER BY", "ORDER SIBLINGS BY", "OUTER", "PARTITION BY",
    "POSITIONAL", "PREWHERE", "PRIMARY KEY", "QUALIFY", "RETURNING", "REVOKE", "RLIKE",
    "ROLLBACK", "SELECT", "SEPARATOR", "SIMILAR TO", "SORT BY", "SOUNDS LIKE", "START WITH",
    "STRAIGHT_JOIN", "SUMMARIZE", "TABLESAMPLE", "THEN", "UNCACHE", "UNION", "USING", "VALUES",
    "VARIADIC", "WHEN", "WHERE", "WITH", "XOR"]

/-- Names that are no second names of tables, since they start a join or a clause. -/
def joinWords : List String :=
  ["ANTI", "ASOF", "FULL", "LEFT", "LOCK", "NATURAL", "RIGHT", "SEMI", "WINDOW"]

/-- Keywords that are names of functions in front of a parenthesis. -/
def functionWords : List String :=
  ["ALL", "ANY", "COLLATE", "COMMAND", "CURRENT_CATALOG", "CURRENT_DATE", "CURRENT_DATETIME",
    "CURRENT_SCHEMA", "CURRENT_TIME", "CURRENT_TIMESTAMP", "CURRENT_USER", "EXISTS", "FILTER",
    "FIRST", "FORMAT", "GET", "GLOB", "ILIKE", "INDEX", "INSERT", "ISNULL", "LEFT", "LIKE",
    "LOCALTIME", "LOCALTIMESTAMP", "MERGE", "NEXT", "OFFSET", "PRIMARY KEY", "REPLACE", "RIGHT",
    "RLIKE", "ROW", "SEQUENCE", "SESSION_USER", "SOME", "TABLE", "TRUNCATE", "UNION", "UNNEST",
    "UTC_DATE", "UTC_TIME", "UTC_TIMESTAMP", "WINDOW", "XOR"]

/-- Types that hold named fields. -/
def structTypes : List String := ["FILE", "NESTED", "OBJECT", "STRUCT", "UNION"]

/-- Types that hold other types. -/
def nestedTypes : List String :=
  ["ARRAY", "LIST", "LOWCARDINALITY", "MAP", "NULLABLE", "RANGE"] ++ structTypes

/-- Types of instants and of times of day. -/
def instantTypes : List String :=
  ["TIMESTAMP", "TIMESTAMPNTZ", "TIMESTAMPTZ", "TIMESTAMPLTZ", "TIME", "TIMETZ"]

namespace Kind

/-- The type that a token may name. -/
def type? : Kind → Option String
  | .type t => some t
  | .keyword "UNION" => some "UNION"
  | _ => none

/-- Whether a token may stand for a name. -/
def isName (d : Dialect) : Kind → Bool
  | .word => true
  | .name => true
  | .type _ => true
  | .keyword w =>
    if d == .bigquery then
      w == "GRANT" || (!reservedWords.contains w && w != "ASC" && w != "DESC")
    else !reservedWords.contains w
  | _ => false

/-- Whether a token may stand for the second name of a table without AS. -/
def isTableAlias (d : Dialect) : Kind → Bool
  | .keyword w =>
    isName d (.keyword w) && !joinWords.contains w &&
      !(d.family == .mysql && ["FORCE", "IGNORE", "USE"].contains w) &&
      !(d == .clickhouse && ["FINAL", "ARRAY"].contains w)
  | k => isName d k

/-- Whether a token names a function in front of a parenthesis. -/
def isFunction (d : Dialect) : Kind → Bool
  | .word => true
  | .name => true
  | .type _ => true
  | .keyword w =>
    functionWords.contains w ||
      (d.family == .mysql &&
        ["DATABASE", "MOD", "SCHEMA", "VALUES", "CHARACTER SET"].contains w)
  | _ => false

/-- Whether a token is no name even where any word is one. -/
def isReserved : Kind → Bool
  | .mark m => m.length == 1
  | .keyword "SELECT" => true
  | .keyword "NOT" => true
  | .type "UNKNOWN" => true
  | _ => false

end Kind

end FluentQuery.Sql
