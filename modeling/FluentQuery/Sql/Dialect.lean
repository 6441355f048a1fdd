import FluentQuery.Value.Basic
import FluentQuery.Text.Blank

/-!
# SQL dialects

* **`Dialect`** — the dialects that there are, the generic one among them;
* **`Dialect.family`** — the dialect whose rules another one takes over;
* **`isKnownDialect`** — which values name a dialect: a known name, possibly followed by settings
  after commas; the empty text and any other value that counts as absent stand for the generic
  dialect.
-/

namespace FluentQuery.Sql

/-- A dialect of SQL. -/
inductive Dialect where
  | generic
  | athena
  | bigquery
  | clickhouse
  | databricks
  | dax
  | doris
  | dremio
  | drill
  | druid
  | duckdb
  | dune
  | exasol
  | fabric
  | hive
  | materialize
  | mysql
  | oracle
  | postgres
  | presto
  | prql
  | redshift
  | risingwave
  | singlestore
  | snowflake
  | solr
  | spark
  | spark2
  | sqlite
  | starrocks
  | tableau
  | teradata
  | trino
  | tsql
  deriving DecidableEq, Inhabited

namespace Dialect

/-- Names of dialects. -/
def names : List (String × Dialect) :=
  [("", generic), ("athena", athena), ("bigquery", bigquery), ("clickhouse", clickhouse),
    ("databricks", databricks), ("dax", dax), ("doris", doris), ("dremio", dremio),
    ("drill", drill), ("druid", druid), ("duckdb", duckdb), ("dune", dune), ("exasol", exasol),
    ("fabric", fabric), ("hive", hive), ("materialize", materialize), ("mysql", mysql),
    ("oracle", oracle), ("postgres", postgres), ("presto", presto), ("prql", prql),
    ("redshift", redshift), ("risingwave", risingwave), ("singlestore", singlestore),
    ("snowflake", snowflake), ("solr", solr), ("spark", spark), ("spark2", spark2),
    ("sqlite", sqlite), ("starrocks", starrocks), ("tableau", tableau), ("teradata", teradata),
    ("trino", trino), ("tsql", tsql)]

/-- The dialect of a name. -/
def named? (name : String) : Option Dialect := names.lookup name

/-- The dialect that a dialect is a variety of; one that stands alone is its own family. -/
def family : Dialect → Dialect
  | doris => mysql
  | starrocks => mysql
  | singlestore => mysql
  | materialize => postgres
  | risingwave => postgres
  | redshift => postgres
  | spark => hive
  | spark2 => hive
  | databricks => hive
  | trino => presto
  | athena => presto
  | dune => presto
  | fabric => tsql
  | d => d

/-- Whether a dialect belongs to one of several families. -/
def isOf (d : Dialect) (families : List Dialect) : Bool := families.contains d.family

end Dialect

/-- Ways to treat the letters of names, as a setting of a dialect spells them in capitals. -/
def normalizationStrategies : List String :=
  ["LOWERCASE", "UPPERCASE", "CASE_SENSITIVE", "CASE_INSENSITIVE", "CASE_INSENSITIVE_UPPERCASE"]

/-- Splits characters at a separator. -/
def splitAt (separator : Char) (cs : List Char) : List (List Char) := cs.splitOn separator

/-- The name in front of a dialect's settings. -/
def dialectName (s : String) : String :=
  match splitAt ',' s.toList with
  | [] => ""
  | name :: _ => String.ofList (Text.stripList name)

/-- Whether a setting of a dialect is one that there is. -/
def isKnownSetting (setting : List Char) : Bool :=
  match splitAt '=' setting with
  | [key, value] =>
    let key := String.ofList (Text.stripList key)
    let value := String.ofList ((Text.stripList value).map Char.toUpper)
    key == "version" || (key == "normalization_strategy" && normalizationStrategies.contains value)
  | [key] => String.ofList (Text.stripList key) == "version"
  | _ => false

/-- Whether a value names a dialect. -/
def isKnownDialect (v : Value) : Bool :=
  if !v.isTruthy then true
  else
    match v with
    | .text s =>
      (Dialect.named? (dialectName s)).isSome &&
        ((splitAt ',' s.toList).drop 1).all isKnownSetting
    | _ => false

/-- The dialect that a value names; any other value stands for the generic one. -/
def Dialect.ofValue : Value → Dialect
  | .text s => (named? (dialectName s)).getD generic
  | _ => generic

end FluentQuery.Sql
