import FluentQuery.Sql.Name
import FluentQuery.Text.LetterCase

/-!
# Amounts of time

The keyword INTERVAL with an amount and a unit. The unit may be inside the text of the amount, and
then the word behind the text is none. A column that no unit follows is not an amount, so that
`interval` may also be the name of a column.
-/

namespace FluentQuery.Sql

open Reader

/-- Words that are units of time. -/
def timeUnits : List String :=
  ["Y", "YY", "YYY", "YYYY", "YR", "YEAR", "YEARS", "YRS", "MM", "MON", "MONS", "MONTH", "MONTHS",
    "D", "DD", "DAY", "DAYS", "DAYOFMONTH", "DAYOFWEEK", "WEEKDAY", "DOW", "DW", "WEEKDAY_ISO",
    "DAYOFWEEKISO", "DOW_ISO", "DW_ISO", "DAYOFYEAR", "DOY", "DY", "W", "WK", "WEEK", "WEEKS",
    "WEEKOFYEAR", "WOY", "WY", "WEEKISO", "WEEK_ISO", "WEEKOFYEARISO", "Q", "QTR", "QTRS",
    "QUARTER", "QUARTERS", "H", "HH", "HR", "HOUR", "HOURS", "HRS", "M", "MI", "MIN", "MINUTE",
    "MINUTES", "MINS", "S", "SEC", "SECOND", "SECONDS", "SECS", "MS", "MSEC", "MSECS", "MSECOND",
    "MSECONDS", "MILLISEC", "MILLISECS", "MILLISECON", "MILLISECOND", "MILLISECONDS", "US",
    "USEC", "USECS", "MICROSEC", "MICROSECS", "USECOND", "USECONDS", "MICROSECOND",
    "MICROSECONDS", "NS", "NSEC", "NANOSEC", "NSECOND", "NSECONDS", "NANOSECS", "NANOSECOND",
    "NANOSECONDS", "EPOCH_SECOND", "EPOCH_SECONDS", "EPOCH_MILLISECOND", "EPOCH_MILLISECONDS",
    "EPOCH_MICROSECOND", "EPOCH_MICROSECONDS", "EPOCH_NANOSECOND", "EPOCH_NANOSECONDS", "EPOCH",
    "TIMEZONE_HOUR", "TZH", "TIMEZONE_MINUTE", "TZM", "DEC", "DECS", "DECADE", "DECADES", "MIL",
    "MILS", "MILLENIA", "MILLENNIUM", "C", "CENT", "CENTS", "CENTURY", "CENTURIES"]

/-- Whether a text has a number with a unit. -/
def hasUnit : List Char → Bool
  | [] => false
  | c :: rest =>
    (c.isDigit && ((rest.dropWhile Text.isBlankChar).head?.map Char.isAlpha).getD false) ||
      hasUnit rest

/-- A unit of time. -/
def timeUnit : Reader (Option Node) := do
  match ← function with
  | some n => return some n
  | none => word true

/-- The unit behind an amount, with the smaller unit that it goes down to. -/
def intervalUnit (amount : Node) : Reader Unit := do
  let unit ← match ← function with
    | some n => pure (some n)
    | none => if ← isKeyword "AS" then pure none else word true
  let inside := amount.form == .text && hasUnit amount.name.toList
  if inside && unit.isSome then stepBack
  if ← takeWord "TO" then
    if unit.isNone && !inside then failure
    let _ ← need timeUnit

/-- An amount of time, and others added to it. -/
def intervalRule (keyword : Bool) : Reader (Option Node) := do
  let start ← index
  let found ← take (.type "INTERVAL")
  if !found && keyword then return none
  let amount ← if ← isNext (· == .text) then primary else term
  match amount with
  | none =>
    retreat start
    return none
  | some amount =>
    let isColumn := match ← peek with
      | some t => amount.isPlainColumn && !timeUnits.contains t.upper
      | none => false
    if isColumn then
      retreat start
      return none
    intervalUnit amount
    let before ← index
    let _ ← takeMark "+"
    if ← isNext fun k => k == .text || k == .number then
      let _ ← need (interval false)
      return some .other
    else
      retreat before
      return some { form := .interval, name := Text.upper amount.name }

end FluentQuery.Sql
