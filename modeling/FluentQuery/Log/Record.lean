import FluentQuery.Value.Basic

/-!
# Log records

A record names the part of the library that wrote it, how severe it is, and its text.
-/

namespace FluentQuery

/-- The parts of the library that write logs. -/
inductive LogSource where
  | errors
  | compiler
  | query
  | adapter
  | postgres
  | registry
  deriving DecidableEq, Inhabited

/-- The name under which a part writes. -/
def LogSource.name : LogSource → String
  | .errors => "querywrapper.errors"
  | .compiler => "querywrapper.domain.query.compiler"
  | .query => "querywrapper.domain.query.wrapper"
  | .adapter => "querywrapper.adapters.base"
  | .postgres => "querywrapper.adapters.postgres_adapter"
  | .registry => "querywrapper.adapters.factory"

/-- How severe a record is. -/
inductive Severity where
  | debug
  | info
  | warning
  | error
  | critical
  deriving DecidableEq, Inhabited

namespace Severity

/-- The number that thresholds are compared with. -/
def number : Severity → Int
  | .debug => 10
  | .info => 20
  | .warning => 30
  | .error => 40
  | .critical => 50

/-- The name of a severity. -/
def name : Severity → String
  | .debug => "DEBUG"
  | .info => "INFO"
  | .warning => "WARNING"
  | .error => "ERROR"
  | .critical => "CRITICAL"

/-- The severity of the log method with a name. -/
def ofMethod? : String → Option Severity
  | "debug" => some .debug
  | "info" => some .info
  | "warning" | "warn" => some .warning
  | "error" | "exception" => some .error
  | "critical" | "fatal" => some .critical
  | _ => none

end Severity

/-- One log record. -/
structure LogRecord where
  source : LogSource
  severity : Severity
  text : String
  deriving DecidableEq, Inhabited

end FluentQuery
