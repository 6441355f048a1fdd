import FluentQuery.Sql.Token

/-!
# Words and marks

The words that are keywords or types, the keywords of several words, and the marks, in every
dialect.

* **`wordKind`** — what a word is;
* **`phrases`** — keywords of several words with blanks between them;
* **`marks`** — marks of several characters; **`markKind?`** — marks of one.

Other spellings of a keyword or a mark are led to one of them.
-/

namespace FluentQuery.Sql

/-- Words that are keywords. -/
def plainKeywords : List String :=
  ["ALL", "AND", "ANTI", "ANY", "ASC", "AS", "ASOF", "AUTO_INCREMENT", "BEGIN", "BETWEEN", "CACHE",
    "UNCACHE", "CASE", "COLLATE", "COLUMN", "COMMIT", "CONSTRAINT", "COPY", "CREATE", "CROSS",
    "CUBE", "CURRENT_CATALOG", "CURRENT_DATE", "CURRENT_SCHEMA", "CURRENT_TIME",
    "CURRENT_TIMESTAMP", "CURRENT_USER", "DATABASE", "DEFAULT", "DELETE", "DESC", "DESCRIBE",
    "DISTINCT", "DIV", "DROP", "ELSE", "END", "ESCAPE", "EXCEPT", "EXECUTE", "EXISTS", "FALSE",
    "FETCH", "FILTER", "FIRST", "FULL", "FUNCTION", "FOR", "FORMAT", "FROM", "GLOB", "HAVING",
    "ILIKE", "IN", "INDEX", "INNER", "INSERT", "INTERSECT", "INTO", "IS", "ISNULL", "JOIN",
    "KEEP", "KILL", "LATERAL", "LEFT", "LIKE", "LIMIT", "LOAD", "LOCALTIME", "LOCALTIMESTAMP",
    "LOCK", "MERGE", "NAMESPACE", "NATURAL", "NEXT", "NOT", "NOTNULL", "OFFSET", "ON", "OPERATOR",
    "OR", "XOR", "ORDINALITY", "OUT", "OUTER", "OVER", "OVERLAPS", "OVERWRITE", "PARTITION",
    "PERCENT", "PIVOT", "PRAGMA", "PROCEDURE", "QUALIFY", "RECURSIVE", "RENAME", "REPLACE",
    "RETURNING", "REFERENCES", "RIGHT", "RLIKE", "ROLLBACK", "ROLLUP", "ROW", "ROWS", "SCHEMA",
    "SELECT", "SEMI", "SESSION", "SESSION_USER", "SET", "SETTINGS", "SHOW", "SOME",
    "STRAIGHT_JOIN", "TABLE", "TABLESAMPLE", "TEMPORARY", "THEN", "TRIGGER", "TRUE", "TRUNCATE",
    "UNION", "UNNEST", "UNPIVOT", "UPDATE", "USE", "USING", "VALUES", "VIEW", "VOLATILE", "WHEN",
    "WHERE", "WINDOW", "WITH", "APPLY", "UNIQUE", "SEQUENCE", "ALTER", "ANALYZE", "COMMENT",
    "GRANT", "REVOKE"]

/-- Words that stand for another keyword. -/
def otherKeywords : List (String × String) :=
  [("AUTOINCREMENT", "AUTO_INCREMENT"), ("PARTITIONED_BY", "PARTITION BY"), ("REGEXP", "RLIKE"),
    ("TEMP", "TEMPORARY"), ("CALL", "COMMAND"), ("EXPLAIN", "COMMAND"), ("OPTIMIZE", "COMMAND"),
    ("PREPARE", "COMMAND"), ("VACUUM", "COMMAND")]

/-- Words that are types of the same name. -/
def plainTypes : List String :=
  ["ARRAY", "BIT", "BOOLEAN", "TINYINT", "MEDIUMINT", "SMALLINT", "INT", "BIGINT", "INT128",
    "INT256", "UINT", "UINT128", "UINT256", "DECIMAL", "DECIMAL32", "DECIMAL64", "DECIMAL128",
    "DECIMAL256", "DECFLOAT", "BIGDECIMAL", "BIGNUM", "LIST", "MAP", "NULLABLE", "FLOAT", "DOUBLE",
    "JSON", "JSONB", "CHAR", "NCHAR", "VARCHAR", "NVARCHAR", "BPCHAR", "TEXT", "LONGTEXT",
    "MEDIUMTEXT", "TINYTEXT", "BINARY", "VARBINARY", "LONGBLOB", "MEDIUMBLOB", "TINYBLOB", "TIME",
    "TIMETZ", "TIME_NS", "TIMESTAMP", "TIMESTAMPTZ", "TIMESTAMPLTZ", "TIMESTAMPNTZ", "DATE",
    "DATETIME", "INT4RANGE", "INT4MULTIRANGE", "INT8RANGE", "INT8MULTIRANGE", "NUMRANGE",
    "NUMMULTIRANGE", "TSRANGE", "TSMULTIRANGE", "TSTZRANGE", "TSTZMULTIRANGE", "DATERANGE",
    "DATEMULTIRANGE", "VECTOR", "STRUCT", "VARIANT", "ENUM", "FILE", "GEOGRAPHY", "GEOMETRY",
    "INET", "INTERVAL", "NULL", "OBJECT", "RANGE", "UNKNOWN", "UUID"]

/-- Words that stand for another type. -/
def otherTypes : List (String × String) :=
  [("BOOL", "BOOLEAN"), ("BYTE", "TINYINT"), ("INT1", "TINYINT"), ("INT16", "SMALLINT"),
    ("SHORT", "SMALLINT"), ("HUGEINT", "INT128"), ("UHUGEINT", "UINT128"), ("INT2", "SMALLINT"),
    ("INTEGER", "INT"), ("INT4", "INT"), ("INT32", "INT"), ("INT64", "BIGINT"), ("LONG", "BIGINT"),
    ("INT8", "TINYINT"), ("DEC", "DECIMAL"), ("BIGNUMERIC", "BIGDECIMAL"), ("NUMBER", "DECIMAL"),
    ("NUMERIC", "DECIMAL"), ("FIXED", "DECIMAL"), ("REAL", "FLOAT"), ("FLOAT4", "FLOAT"),
    ("FLOAT8", "DOUBLE"), ("CHARACTER", "CHAR"), ("VARCHAR2", "VARCHAR"),
    ("NVARCHAR2", "NVARCHAR"), ("STR", "TEXT"), ("STRING", "TEXT"), ("CLOB", "TEXT"),
    ("LONGVARCHAR", "TEXT"), ("BLOB", "VARBINARY"), ("BYTEA", "VARBINARY"),
    ("TIMESTAMP_LTZ", "TIMESTAMPLTZ"), ("TIMESTAMP_NTZ", "TIMESTAMPNTZ")]

/-- Keywords of the dialect of a family alone. -/
def ownKeywords (d : Dialect) : List (String × String) :=
  match d.family with
  | .mysql =>
    [("CHARSET", "CHARACTER SET"), ("DISTINCTROW", "DISTINCT"), ("EXPLAIN", "DESCRIBE"),
      ("FORCE", "FORCE"), ("IGNORE", "IGNORE"), ("KEY", "KEY"), ("MOD", "MOD"),
      ("SEPARATOR", "SEPARATOR"), ("START", "BEGIN"), ("UTC_DATE", "UTC_DATE"),
      ("UTC_TIME", "UTC_TIME"), ("UTC_TIMESTAMP", "UTC_TIMESTAMP")] ++
      ["_ARMSCII8", "_ASCII", "_BIG5", "_BINARY", "_CP1250", "_CP1251", "_CP1256", "_CP1257",
        "_CP850", "_CP852", "_CP866", "_CP932", "_DEC8", "_EUCJPMS", "_EUCKR", "_GB18030",
        "_GB2312", "_GBK", "_GEOSTD8", "_GREEK", "_HEBREW", "_HP8", "_KEYBCS2", "_KOI8R",
        "_KOI8U", "_LATIN1", "_LATIN2", "_LATIN5", "_LATIN7", "_MACCE", "_MACROMAN", "_SJIS",
        "_SWE7", "_TIS620", "_UCS2", "_UJIS", "_UTF8", "_UTF16", "_UTF16LE", "_UTF32", "_UTF8MB3",
        "_UTF8MB4"].map fun w => (w, "INTRODUCER")
  | .sqlite => [("ATTACH", "ATTACH"), ("DETACH", "DETACH"), ("MATCH", "MATCH")]
  | .postgres =>
    [("DO", "COMMAND"), ("DECLARE", "COMMAND"), ("EXEC", "COMMAND"), ("INOUT", "INOUT"),
      ("ONLY", "ONLY"), ("REFRESH", "COMMAND"), ("REINDEX", "COMMAND"), ("RESET", "COMMAND"),
      ("VARIADIC", "VARIADIC")] ++
      if d == .redshift then
        [("MINUS", "EXCEPT"), ("TOP", "TOP"), ("UNLOAD", "COMMAND")]
      else []
  | .duckdb =>
    [("ATTACH", "ATTACH"), ("DETACH", "DETACH"), ("FORCE", "FORCE"), ("INSTALL", "INSTALL"),
      ("MACRO", "FUNCTION"), ("ONLY", "ONLY"), ("PIVOT_WIDER", "PIVOT"),
      ("POSITIONAL", "POSITIONAL"), ("RESET", "COMMAND"), ("SUMMARIZE", "SUMMARIZE")]
  | .bigquery =>
    [("BEGIN", "COMMAND"), ("CURRENT_DATETIME", "CURRENT_DATETIME"), ("DECLARE", "DECLARE"),
      ("ELSEIF", "COMMAND"), ("EXCEPTION", "COMMAND"), ("EXPORT", "EXPORT"), ("LOOP", "COMMAND"),
      ("MODEL", "MODEL"), ("REPEAT", "COMMAND"), ("WHILE", "COMMAND")]
  | .oracle =>
    [("COLUMNS", "COLUMN"), ("MATCH_RECOGNIZE", "MATCH_RECOGNIZE"), ("MINUS", "EXCEPT"),
      ("SAMPLE", "TABLESAMPLE"), ("START", "BEGIN"), ("TOP", "TOP")]
  | .tsql =>
    [("DECLARE", "DECLARE"), ("EXEC", "EXECUTE"), ("GO", "COMMAND"), ("OPTION", "OPTION"),
      ("OUTPUT", "RETURNING"), ("PRINT", "COMMAND"), ("PROC", "PROCEDURE"),
      ("SYSTEM_USER", "CURRENT_USER"), ("TOP", "TOP")]
  | .hive =>
    [("MINUS", "EXCEPT"), ("REFRESH", "REFRESH")]
  | .snowflake =>
    [("EXCLUDE", "EXCEPT"), ("GET", "GET"), ("LIST", "COMMAND"), ("LS", "COMMAND"),
      ("MATCH_CONDITION", "MATCH_CONDITION"), ("MATCH_RECOGNIZE", "MATCH_RECOGNIZE"),
      ("MINUS", "EXCEPT"), ("PUT", "PUT"), ("REMOVE", "COMMAND"), ("RM", "COMMAND"),
      ("SAMPLE", "TABLESAMPLE"), ("TOP", "TOP")]
  | .presto => [("MATCH_RECOGNIZE", "MATCH_RECOGNIZE")]
  | .clickhouse =>
    [("ASOF", "ASOF"), ("FINAL", "FINAL"), ("PREWHERE", "PREWHERE"), ("DICTIONARY", "DICTIONARY")]
  | .teradata => [("MINUS", "EXCEPT"), ("SEL", "SELECT"), ("TOP", "TOP"), ("UPD", "UPDATE"),
      ("DEL", "DELETE"), ("INS", "INSERT"), ("SAMPLE", "TABLESAMPLE"), ("LOCKING", "LOCK")]
  | _ => []

/-- Types of the dialect of a family alone. -/
def ownTypes (d : Dialect) : List (String × String) :=
  match d.family with
  | .mysql =>
    [("BLOB", "BLOB"), ("SERIAL", "SERIAL"), ("SIGNED", "BIGINT"), ("TIMESTAMP", "TIMESTAMPTZ"),
      ("UNSIGNED", "UBIGINT"), ("YEAR", "YEAR")]
  | .postgres =>
    [("BIGSERIAL", "BIGSERIAL"), ("CSTRING", "PSEUDO"), ("FLOAT", "DOUBLE"), ("HSTORE", "HSTORE"),
      ("INT8", "BIGINT"), ("MONEY", "MONEY"), ("NAME", "NAME"), ("OID", "OID"),
      ("REGCLASS", "OID"), ("REGTYPE", "OID"), ("SERIAL", "SERIAL"),
      ("SMALLSERIAL", "SMALLSERIAL"), ("XML", "XML")] ++
      if d == .redshift then [("SUPER", "SUPER"), ("VARBYTE", "VARBINARY")] else []
  | .duckdb =>
    [("BINARY", "VARBINARY"), ("BITSTRING", "BIT"), ("BPCHAR", "TEXT"), ("CHAR", "TEXT"),
      ("DATETIME", "TIMESTAMPNTZ"), ("INT8", "BIGINT"), ("LOGICAL", "BOOLEAN"), ("SIGNED", "INT"),
      ("STRING", "TEXT"), ("TIMESTAMP", "TIMESTAMPNTZ"), ("TIMESTAMP_MS", "TIMESTAMP_MS"),
      ("TIMESTAMP_NS", "TIMESTAMP_NS"), ("TIMESTAMP_S", "TIMESTAMP_S"),
      ("TIMESTAMP_US", "TIMESTAMP"), ("UBIGINT", "UBIGINT"), ("UINTEGER", "UINT"),
      ("USMALLINT", "USMALLINT"), ("UTINYINT", "UTINYINT"), ("VARCHAR", "TEXT")]
  | .bigquery =>
    [("BYTEINT", "INT"), ("BYTES", "BINARY"), ("DATETIME", "TIMESTAMP"), ("FLOAT64", "DOUBLE"),
      ("RECORD", "STRUCT"), ("TIMESTAMP", "TIMESTAMPTZ")]
  | .oracle => [("BINARY_DOUBLE", "DOUBLE"), ("BINARY_FLOAT", "FLOAT")]
  | .tsql =>
    [("DATETIME2", "DATETIME2"), ("DATETIMEOFFSET", "TIMESTAMPTZ"), ("IMAGE", "IMAGE"),
      ("MONEY", "MONEY"), ("NTEXT", "TEXT"), ("ROWVERSION", "ROWVERSION"),
      ("SMALLDATETIME", "SMALLDATETIME"), ("SMALLMONEY", "SMALLMONEY"), ("SQL_VARIANT", "VARIANT"),
      ("TIMESTAMP", "ROWVERSION"), ("TINYINT", "UTINYINT"), ("UNIQUEIDENTIFIER", "UUID"),
      ("XML", "XML")]
  | _ => []

/-- Words that are keywords elsewhere and not in a dialect. -/
def droppedWords (d : Dialect) : List String :=
  match d.family with
  | .postgres => if d == .redshift then ["DIV", "VALUES"] else ["DIV"]
  | .bigquery => ["DIV", "VALUES"]
  | .presto => ["DIV"]
  | _ => []

/-- What a word in capitals is. -/
def wordKind (d : Dialect) (w : String) : Kind :=
  match (ownKeywords d).lookup w, (ownTypes d).lookup w with
  | some k, _ => .keyword k
  | none, some t => .type t
  | none, none =>
    if (droppedWords d).contains w then .word
    else if plainKeywords.contains w then .keyword w
    else if plainTypes.contains w then .type w
    else
      match otherKeywords.lookup w, otherTypes.lookup w with
      | some k, _ => .keyword k
      | none, some t => .type t
      | none, none => .word

/-- Keywords of several words. -/
def phrases (d : Dialect) : List (List String × Kind) :=
  [(["CHARACTER", "SET"], .keyword "CHARACTER SET"), (["CLUSTER", "BY"], .keyword "CLUSTER BY"),
    (["CONNECT", "BY"], .keyword "CONNECT BY"), (["DISTRIBUTE", "BY"], .keyword "DISTRIBUTE BY"),
    (["FOREIGN", "KEY"], .keyword "FOREIGN KEY"), (["GROUP", "BY"], .keyword "GROUP BY"),
    (["GROUPING", "SETS"], .keyword "GROUPING SETS"), (["ORDER", "BY"], .keyword "ORDER BY"),
    (["PARTITION", "BY"], .keyword "PARTITION BY"),
    (["PARTITIONED", "BY"], .keyword "PARTITION BY"),
    (["PRIMARY", "KEY"], .keyword "PRIMARY KEY"), (["SIMILAR", "TO"], .keyword "SIMILAR TO"),
    (["SORT", "BY"], .keyword "SORT BY"), (["START", "WITH"], .keyword "START WITH"),
    (["DOUBLE", "PRECISION"], .type "DOUBLE"), (["CHAR", "VARYING"], .type "VARCHAR"),
    (["CHARACTER", "VARYING"], .type "VARCHAR"), (["FOR", "VERSION"], .keyword "FOR VERSION"),
    (["FOR", "TIMESTAMP"], .keyword "FOR TIMESTAMP")] ++
    match d.family with
    | .mysql =>
      [(["LOCK", "TABLES"], .keyword "COMMAND"), (["MEMBER", "OF"], .keyword "MEMBER OF"),
        (["SIGNED", "INTEGER"], .type "BIGINT"), (["SOUNDS", "LIKE"], .keyword "SOUNDS LIKE"),
        (["UNLOCK", "TABLES"], .keyword "COMMAND"), (["UNSIGNED", "INTEGER"], .type "UBIGINT")]
    | .sqlite => [(["INDEXED", "BY"], .keyword "INDEXED BY")]
    | .postgres =>
      [(["CONSTRAINT", "TRIGGER"], .keyword "COMMAND")] ++
        if d == .redshift then [(["BINARY", "VARYING"], .type "VARBINARY")] else []
    | .bigquery =>
      [(["ANY", "TYPE"], .type "VARIANT"), (["BEGIN", "TRANSACTION"], .keyword "BEGIN"),
        (["FOR", "SYSTEM_TIME"], .keyword "FOR TIMESTAMP"),
        (["NOT", "DETERMINISTIC"], .keyword "VOLATILE")]
    | .oracle =>
      [(["BULK", "COLLECT", "INTO"], .keyword "BULK COLLECT INTO"),
        (["ORDER", "SIBLINGS", "BY"], .keyword "ORDER SIBLINGS BY")]
    | .tsql =>
      [(["CLUSTERED", "INDEX"], .keyword "INDEX"),
        (["FOR", "SYSTEM_TIME"], .keyword "FOR TIMESTAMP"),
        (["NONCLUSTERED", "INDEX"], .keyword "INDEX"),
        (["UPDATE", "STATISTICS"], .keyword "COMMAND")]
    | .hive =>
      [(["ADD", "ARCHIVE"], .keyword "COMMAND"), (["ADD", "FILE"], .keyword "COMMAND"),
        (["ADD", "JAR"], .keyword "COMMAND"), (["MSCK", "REPAIR"], .keyword "COMMAND"),
        (["TIMESTAMP", "AS", "OF"], .keyword "FOR TIMESTAMP"),
        (["VERSION", "AS", "OF"], .keyword "FOR VERSION")]
    | .snowflake => [(["CHAR", "VARYING"], .type "VARCHAR")]
    | _ => []

/-- Marks of several characters. -/
def marks (d : Dialect) : List (String × Kind) :=
  ["&<", "&>", "?::", "::", "||", "|>", ">=", "<=", "<>", ":=", "<=>", "->", "->>", "=>", "#>",
    "#>>", "<->", "&&", "??", "-|-"].map (fun m => (m, .mark m)) ++
    [("==", .mark "="), ("!=", .mark "<>"), ("~~~", .keyword "GLOB"), ("~~", .keyword "LIKE"),
      ("~~*", .keyword "ILIKE"), ("~*", .keyword "IRLIKE"), ("\x7b%", .mark "\x7b%"),
      ("\x7b%+", .mark "\x7b%"), ("\x7b%-", .mark "\x7b%"), ("%\x7d", .mark "%\x7d"),
      ("+%\x7d", .mark "%\x7d"), ("-%\x7d", .mark "%\x7d"), ("\x7b\x7b+", .mark "\x7b%"),
      ("\x7b\x7b-", .mark "\x7b%"), ("+\x7d\x7d", .mark "%\x7d"), ("-\x7d\x7d", .mark "%\x7d")] ++
    match d.family with
    | .mysql => [("@@", .mark "@@")]
    | .postgres =>
      ["@@", "@>", "<@", "?&", "?|", "#-", "|/", "||/"].map (fun m => (m, .mark m)) ++
        [("~", .keyword "RLIKE")] ++
        if d == .redshift then [("(+)", .mark "(+)")] else []
    | .duckdb =>
      [("//", .keyword "DIV"), ("**", .mark "**"), ("^@", .mark "^@"), ("@>", .mark "@>"),
        ("<@", .mark "<@")]
    | .oracle => [("(+)", .mark "(+)")]
    | .bigquery => [("@@", .mark "@@")]
    | .snowflake => [("(+)", .mark "(+)")]
    | .clickhouse => []
    | _ => []

/-- Marks of one character that stand for themselves. -/
def markChars : List Char := "()[]\x7b\x7d&^:,-.<>%|+;/\\*~=?@#".toList

/-- What a mark of one character is. -/
def markKind? (d : Dialect) (c : Char) : Option Kind :=
  if c == '#' && d == .redshift then none
  else if markChars.contains c then some (.mark (String.ofList [c]))
  else if c == '!' then some (.keyword "NOT")
  else if "'`\"".toList.contains c then some (.type "UNKNOWN")
  else if c == '$' && d.isOf [.postgres, .duckdb, .snowflake] then some (.mark "@")
  else none

end FluentQuery.Sql
