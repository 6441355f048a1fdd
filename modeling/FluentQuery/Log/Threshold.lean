import FluentQuery.Log.Record
import FluentQuery.Error.Failure
import FluentQuery.Text.LetterCase

/-!
# Log thresholds

The library's own threshold decides which records are shown; while it is zero the general one
does. `LogSetup.configure` installs a handler on its first call and sets both thresholds, and
later sets the library's alone.
-/

namespace FluentQuery

/-- A threshold: a number, as which a truth value counts too. -/
inductive Threshold where
  | number (n : Int)
  | truth (b : Bool)
  deriving DecidableEq, Inhabited

namespace Threshold

/-- The number of a threshold. -/
def severity : Threshold → Int
  | .number n => n
  | .truth b => if b then 1 else 0

/-- The number that goes by a name in capitals. -/
def ofName? : String → Option Int
  | "CRITICAL" | "FATAL" => some 50
  | "ERROR" => some 40
  | "WARN" | "WARNING" => some 30
  | "INFO" => some 20
  | "DEBUG" => some 10
  | "NOTSET" => some 0
  | _ => none

/-- The threshold that a value stands for; letters count as capitals. -/
def ofValue : Value → Except Failure Threshold
  | .int n => .ok (.number n)
  | .bool b => .ok (.truth b)
  | .text s =>
    match ofName? (Text.upper s) with
    | some n => .ok (.number n)
    | none => .error (.misuse (.unknownLevel (Text.upper s)))
  | v => do throw (.misuse (.notALevel (← v.shown)))

end Threshold

/-- A handler: the form of its lines and of its dates. -/
structure LogHandler where
  lineForm : String
  dateForm : String
  deriving DecidableEq, Inhabited

/-- The handler that the library installs. -/
def LogHandler.standard : LogHandler :=
  ⟨"%(asctime)s - %(name)s - %(levelname)s - %(message)s", "%Y-%m-%d %H:%M:%S"⟩

/-- Thresholds and handlers. A program may start with another threshold for the library, zero if it
never sets one. -/
structure LogSetup where
  root : Threshold := .number 30
  library : Threshold := .number 10
  handlers : List LogHandler := []
  deriving DecidableEq, Inhabited

namespace LogSetup

/-- The threshold in force for the library. -/
def threshold (s : LogSetup) : Int :=
  if s.library.severity = 0 then s.root.severity else s.library.severity

/-- Whether a record is shown. -/
def shows (s : LogSetup) (r : LogRecord) : Bool := s.threshold ≤ r.severity.number

/-- Sets the thresholds, and installs a handler if there is none. A level that is none leaves the
thresholds as they are, but the handler stays. -/
def configure (level : Value) (s : LogSetup) : Except Failure Unit × LogSetup :=
  match Threshold.ofValue level with
  | .ok t =>
    if s.handlers.isEmpty then
      (.ok (), { root := t, library := t, handlers := [.standard] })
    else (.ok (), { s with library := t })
  | .error e =>
    if s.handlers.isEmpty then (.error e, { s with handlers := [.standard] })
    else (.error e, s)

end LogSetup

end FluentQuery
