import FluentQuery.Error.Builder
import FluentQuery.Number.Integer
import FluentQuery.Schema.Issue

/-!
# Failures

Every way in which an operation can end without a result, as a cause. `Failure.message` is the
wording.

* **builder, decoding** — the structured errors;
* **connection, statement** — what an adapter makes of its driver's errors;
* **invalid** — a value that does not fit its type;
* **fault** — an error of the driver, or of the program behind it, that nothing has wrapped;
* **integer, misuse** — a value of a kind that an operation is not defined on, or an integer too
  long to be written;
* **missing** — a name under which there is nothing.

What is written for a caller is written by `numeral`, `Value.shown` and `Value.written`, which fail
where an integer is too long; so does `Failure.refusal` in place of a builder error that would have
to show one.
-/

namespace FluentQuery

/-- The maker of a database driver, by whom its own errors are known. -/
inductive Vendor where
  | sqlite
  | duckdb
  | postgres
  | fake
  deriving DecidableEq, Inhabited

/-- Kinds of errors that are not a driver's own. -/
inductive ForeignKind where
  | key
  | runtime
  | value
  deriving DecidableEq, Inhabited

/-- What a call to a driver can raise. -/
inductive Fault where
  | driver (vendor : Vendor) (text : String)
  | foreign (kind : ForeignKind) (text : String)
  deriving DecidableEq, Inhabited

/-- The text of a fault; a missing key is shown in quotes. -/
def Fault.message : Fault → String
  | .driver _ text => text
  | .foreign .key text => Text.quoted text
  | .foreign _ text => text

/-- An operation on a value of a kind that does not have it. -/
inductive Misuse where
  | noMember (kind member : String)
  | notIterable (kind : String)
  | notAContainer (kind : String)
  | notSized (kind : String)
  | notIndexedByText (kind : String)
  | notSearchable (kind : String)
  | notAPath (kind : String)
  | operands (symbol left right : String)
  | concatenation (left right : String)
  | repetition (kind : String)
  | ordering (left right : String)
  | divisionByZero (ofFloats : Bool)
  | decimalSignal (signal : Decimal.Signal)
  | floatTooLarge
  | exhausted
  | noLogMethod (name : String)
  | unknownLevel (name : String)
  | notALevel (shown : String)
  deriving DecidableEq, Inhabited

/-- The wording of a misuse. -/
def Misuse.message : Misuse → String
  | .noMember kind member => "'" ++ kind ++ "' object has no attribute '" ++ member ++ "'"
  | .notIterable kind => "'" ++ kind ++ "' object is not iterable"
  | .notAContainer kind =>
    if kind = "bytes" then "a bytes-like object is required, not 'str'"
    else "argument of type '" ++ kind ++ "' is not iterable"
  | .notSized kind => "object of type '" ++ kind ++ "' has no len()"
  | .notIndexedByText kind =>
    if kind = "str" then "string indices must be integers, not 'str'"
    else kind ++ " indices must be integers or slices, not str"
  | .notSearchable kind =>
    if kind = "bytes" then "cannot use a string pattern on a bytes-like object"
    else "expected string or bytes-like object, got '" ++ kind ++ "'"
  | .notAPath kind =>
    if kind = "bytes" then
      "argument should be a str object or an os.PathLike object returning str, not <class 'bytes'>"
    else "expected str, bytes or os.PathLike object, not " ++ kind
  | .operands symbol left right =>
    "unsupported operand type(s) for " ++ symbol ++ ": '" ++ left ++ "' and '" ++ right ++ "'"
  | .concatenation left right =>
    if left = "bytes" then "can't concat " ++ right ++ " to bytes"
    else "can only concatenate " ++ left ++ " (not \"" ++ right ++ "\") to " ++ left
  | .repetition kind => "can't multiply sequence by non-int of type '" ++ kind ++ "'"
  | .ordering left right =>
    "'<' not supported between instances of '" ++ left ++ "' and '" ++ right ++ "'"
  | .divisionByZero ofFloats =>
    if ofFloats then "float floor division by zero" else "integer division or modulo by zero"
  | .decimalSignal signal =>
    match signal with
    | .invalidOperation => "[<class 'decimal.InvalidOperation'>]"
    | .divisionByZero => "[<class 'decimal.DivisionByZero'>]"
    | .divisionUndefined => "[<class 'decimal.DivisionUndefined'>]"
    | .divisionImpossible => "[<class 'decimal.DivisionImpossible'>]"
  | .floatTooLarge => "int too large to convert to float"
  | .exhausted => ""
  | .noLogMethod name => "'Logger' object has no attribute '" ++ name ++ "'"
  | .unknownLevel name => "Unknown level: " ++ Text.quoted name
  | .notALevel shown => "Level not an integer or a valid string: " ++ shown

/-- What lies behind an error of an adapter. -/
inductive Cause where
  | fault (f : Fault)
  | integer (f : IntegerFault)
  deriving DecidableEq, Inhabited

/-- The text of a cause. -/
def Cause.message : Cause → String
  | .fault f => f.message
  | .integer f => f.message

/-- An error of an adapter. -/
structure EngineError where
  text : String
  engine : String
  cause : Option Cause
  deriving DecidableEq, Inhabited

/-- How an operation can fail. -/
inductive Failure where
  | builder (e : BuilderError)
  | decoding (e : DecodingError)
  | connection (e : EngineError)
  | statement (e : EngineError)
  | invalid (e : Invalid)
  | fault (f : Fault)
  | integer (f : IntegerFault)
  | misuse (m : Misuse)
  | missing (kind name : String)
  deriving Inhabited, BEq

/-- The wording of a failure. -/
def Failure.message : Failure → String
  | .builder e => e.report.message
  | .decoding e => e.report.message
  | .connection e => e.text
  | .statement e => e.text
  | .invalid e => e.message
  | .fault f => f.message
  | .integer f => f.message
  | .misuse m => m.message
  | .missing kind name => "no " ++ kind ++ " " ++ name

/-- The failure to write an integer that has too many digits. -/
def Failure.unwritable : Failure := .integer .unwritable

/-- What a builder error comes out as: where a value that its report shows cannot be written, there
is no report. -/
def Failure.refusal (e : BuilderError) : Failure :=
  if e.values.all Value.isWritable then .builder e else .unwritable

/-- An integer in decimal digits. -/
def numeral (n : Int) : Except Failure String :=
  if fitsNumeral n then .ok (intText n) else .error .unwritable

namespace Value

/-- A value written among other text. -/
def shown (v : Value) : Except Failure String :=
  if v.isWritable then .ok v.quoted else .error .unwritable

/-- A value written alone. -/
def written (v : Value) : Except Failure String :=
  if v.isWritable then .ok v.plain else .error .unwritable

end Value

/-- The line that a log shows of a report. -/
def Report.logText (r : Report) : Except Failure String := do
  let text := "[" ++ r.code ++ "] " ++ r.message
  if r.details.isEmpty then return text
  else
    let details ← (Value.dict (r.details.map fun d => (.text d.1, d.2))).shown
    return text ++ " | details=" ++ details

end FluentQuery
