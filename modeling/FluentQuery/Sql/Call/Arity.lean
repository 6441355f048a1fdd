/-!
# Numbers of arguments

How many arguments the functions take that are known. A known function takes no second names of
its arguments; any other function takes what it is given.
-/

namespace FluentQuery.Sql

/-- How many arguments a function takes; without a greatest number it takes any number above. -/
structure Arity where
  least : Nat
  greatest : Option Nat
  deriving DecidableEq, Inhabited

/-- Whether a function takes so many arguments. -/
def Arity.admits (a : Arity) (count : Nat) : Bool :=
  a.least ≤ count &&
    match a.greatest with
    | some greatest => count ≤ greatest
    | none => true

/-- Functions by the least and the greatest number of their arguments. -/
def arities : List (Nat × Option Nat × List String) :=
  [(0, none, ["ARRAY", "COUNT", "CUME_DIST", "DATE", "DENSE_RANK", "PERCENT_RANK", "RANK",
      "STRUCT"]),
    (0, some 1, ["CURRENT_DATE", "CURRENT_DATETIME", "CURRENT_TIME", "CURRENT_USER", "NTILE",
      "RANDN", "ROW_NUMBER"]),
    (0, some 2, ["CURRENT_TIMESTAMP", "MAP", "MODE"]),
    (0, some 3, ["RAND", "RANDOM"]),
    (1, none, ["COALESCE", "CONCAT", "CONCAT_WS", "EXPLODE", "EXPLODE_OUTER", "GREATEST",
      "GROUPING", "GROUPING_ID", "IFNULL", "LEAST", "MAX", "MIN", "NVL", "POSEXPLODE",
      "POSEXPLODE_OUTER"]),
    (1, some 1, ["ABS", "ACOS", "ACOSH", "ANY_VALUE", "ARRAY_UNIQUE_AGG", "ASCII", "ASIN",
      "ASINH", "ATANH", "AVG", "BIT_LENGTH", "BITWISE_AND_AGG", "BITWISE_OR_AGG",
      "BITWISE_XOR_AGG", "CBRT", "COS", "COSH", "COT", "COTH", "COUNTIF", "COUNT_IF", "CSC",
      "CSCH", "DAY", "DAYOFMONTH", "DAYOFWEEK", "DAYOFYEAR", "DAY_OF_MONTH", "DAY_OF_WEEK",
      "DAY_OF_YEAR", "DEGREES", "EXP", "FIRST_VALUE", "FLATTEN", "FROM_BASE64", "HEX", "HOUR",
      "INLINE", "IS_INF", "ISINF", "IS_NAN", "ISNAN", "LAST_VALUE", "LCASE", "LN", "LOGICAL_AND",
      "LOGICAL_OR", "BOOL_AND", "BOOL_OR", "LOWER", "LOWER_HEX", "MD5", "MEDIAN", "MINUTE",
      "MONTH", "QUARTER", "RADIANS", "REVERSE", "SEC", "SECH", "SECOND", "SHA", "SHA1", "SIGN",
      "SIGNUM", "SIN", "SINH", "SOUNDEX", "SPACE", "SQRT", "STDDEV", "STDEV", "STDDEV_POP",
      "STDDEV_SAMP", "SUM", "TAN", "TANH", "TO_BASE64", "TO_DAYS", "TRY", "UCASE", "UNICODE",
      "UPPER", "VARIANCE", "VARIANCE_POP", "VARIANCE_SAMP", "VAR_POP", "VAR_SAMP", "WEEKOFYEAR",
      "WEEK_OF_YEAR", "YEAR"]),
    (1, some 2, ["APPROX_COUNT_DISTINCT", "APPROX_DISTINCT", "ARRAY_AGG", "ARRAY_LENGTH",
      "ARRAY_SIZE", "ATAN", "EXISTS", "FIRST", "INITCAP", "LAST", "LAST_DAY", "LAST_DAY_OF_MONTH",
      "LOG", "PERCENTILE_CONT", "PERCENTILE_DISC", "SHA2", "SORT_ARRAY", "UNHEX", "WEEK"]),
    (1, some 3, ["CHARACTER_LENGTH", "CHAR_LENGTH", "GROUP_CONCAT", "LAG", "LEAD", "LEN", "LENGTH",
      "STR_TO_DATE", "SUBSTR"]),
    (1, some 4, ["LTRIM", "ROUND", "RTRIM", "TO_CHAR"]),
    (2, none, ["GLOB", "ILIKE", "JSON_EXTRACT", "JSON_EXTRACT_PATH_TEXT", "JSON_EXTRACT_SCALAR",
      "LIKE", "MOD"]),
    (2, some 2, ["ARRAY_ALL", "ARRAY_ANY", "ARRAY_FILTER", "ATAN2", "ENCODE", "FILTER", "LEFT",
      "NULLIF", "POW", "POWER", "QUANTILE", "REPEAT", "RIGHT", "SAFE_DIVIDE", "STARTSWITH",
      "STARTS_WITH", "STR_TO_TIME"]),
    (2, some 3, ["ADD_MONTHS", "ARRAY_CONTAINS", "ARRAY_HAS", "ARRAY_JOIN", "ARRAY_TO_STRING",
      "CORR", "COVAR_POP", "COVAR_SAMP", "DATETIME_ADD", "DATETIME_DIFF", "DATETIME_SUB",
      "DATETIME_TRUNC", "DATE_ADD", "DATE_SUB", "GENERATE_DATE_ARRAY", "IIF", "MONTHS_BETWEEN",
      "NTH_VALUE", "NVL2", "REGEXP_SPLIT", "REPLACE", "TIMESTAMP_ADD", "TIMESTAMP_DIFF",
      "TIMESTAMPDIFF", "TIMESTAMP_SUB", "TIMESTAMP_TRUNC", "TIME_ADD", "TIME_SUB"]),
    (2, some 4, ["DATE_TRUNC", "GENERATE_SERIES", "LPAD", "REGEXP_LIKE", "RPAD"]),
    (2, some 5, ["APPROX_QUANTILE", "CHARINDEX", "INSTR", "LOCATE", "STRPOS", "STR_POSITION"]),
    (2, some 6, ["DATEDIFF", "DATE_DIFF"]),
    (2, some 8, ["REGEXP_EXTRACT", "REGEXP_REPLACE"]),
    (3, some 3, ["TRANSLATE"]),
    (4, some 4, ["INSERT", "STUFF"])]

/-- How many arguments a known function takes. -/
def arity? (name : String) : Option Arity :=
  arities.findSome? fun (least, greatest, names) =>
    if names.contains name then some ⟨least, greatest⟩ else none

/-- Known functions that take many rows to one. -/
def aggregates : List String :=
  ["ANY_VALUE", "APPROX_COUNT_DISTINCT", "APPROX_DISTINCT", "APPROX_QUANTILE", "ARRAY_AGG", "AVG",
    "CORR", "COUNT", "COUNT_IF", "COUNTIF", "COVAR_POP", "COVAR_SAMP", "CUME_DIST", "DENSE_RANK",
    "FIRST", "FIRST_VALUE", "GROUP_CONCAT", "LAG", "LAST", "LAST_VALUE", "LEAD", "LOGICAL_AND",
    "LOGICAL_OR", "MAX", "MEDIAN", "MIN", "MODE", "NTH_VALUE", "NTILE", "PERCENTILE_CONT",
    "PERCENTILE_DISC", "PERCENT_RANK", "QUANTILE", "RANK", "STDDEV", "STDDEV_POP", "STDDEV_SAMP",
    "SUM", "VARIANCE", "VAR_POP", "VAR_SAMP"]

end FluentQuery.Sql
