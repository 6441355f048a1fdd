import FluentQuery.Schema.Basic

/-!
# What is wrong with a value

A value that does not fit its type leaves a list of issues. Each has the path to the part that is
wrong, a cause, and of the cause a short code and a sentence.
-/

namespace FluentQuery

/-- Why a text or number is no date or instant. -/
inductive CalendarFault where
  | tooShort
  | extraCharacters
  | instantSeparator
  | dateSeparator
  | yearCharacter
  | monthCharacter
  | dayCharacter
  | timeSeparator
  | hourCharacter
  | minuteCharacter
  | secondCharacter
  | zoneSign
  | zoneHour
  | zoneMinute
  | zoneMinuteRange
  | zoneRange
  | hourRange
  | minuteRange
  | secondRange
  | monthRange
  | dayRange
  | fractionMissing
  | notExactDate
  | beforeRange
  | afterRange
  | notANumber
  | yearZero
  deriving DecidableEq, Inhabited

/-- The wording of a calendar fault. -/
def CalendarFault.message : CalendarFault → String
  | .tooShort => "input is too short"
  | .extraCharacters => "unexpected extra characters at the end of the input"
  | .instantSeparator => "invalid datetime separator, expected `T`, `t`, `_` or space"
  | .dateSeparator => "invalid date separator, expected `-`"
  | .yearCharacter => "invalid character in year"
  | .monthCharacter => "invalid character in month"
  | .dayCharacter => "invalid character in day"
  | .timeSeparator => "invalid time separator, expected `:`"
  | .hourCharacter => "invalid character in hour"
  | .minuteCharacter => "invalid character in minute"
  | .secondCharacter => "invalid character in second"
  | .zoneSign => "invalid timezone sign"
  | .zoneHour => "invalid timezone hour"
  | .zoneMinute => "invalid timezone minute"
  | .zoneMinuteRange => "timezone minute value is outside expected range of 0-59"
  | .zoneRange => "timezone offset must be less than 24 hours"
  | .hourRange => "hour value is outside expected range of 0-23"
  | .minuteRange => "minute value is outside expected range of 0-59"
  | .secondRange => "second value is outside expected range of 0-59"
  | .monthRange => "month value is outside expected range of 1-12"
  | .dayRange => "day value is outside expected range"
  | .fractionMissing => "second fraction value is missing"
  | .notExactDate => "timestamp is not an exact date"
  | .beforeRange => "dates before 1600 are not supported as unix timestamps"
  | .afterRange => "dates after 9999 are not supported as unix timestamps"
  | .notANumber => "NaN values not permitted"
  | .yearZero => "year 0 is out of range"

/-- Why a value does not fit a type. -/
inductive Complaint where
  | missing
  | extraForbidden
  | keyNotText
  | modelExpected (name : String)
  | dataclassExpected (name : String)
  | listExpected
  | dictExpected
  | instanceExpected (name : String)
  | intExpected
  | intUnreadable
  | intTooLarge
  | intFractional
  | notFinite
  | floatExpected
  | floatUnreadable
  | textExpected
  | textNotUnicode
  | boolExpected
  | boolUnreadable
  | decimalExpected
  | decimalUnreadable
  | dateExpected
  | dateInvalid (fault : CalendarFault)
  | dateUnreadable (fault : CalendarFault)
  | dateNotMidnight
  | instantExpected
  | instantInvalid (fault : CalendarFault)
  | instantUnreadable (fault : CalendarFault)
  | notAMember (expected : String)
  | belowBound (bound : Int)
  | frozen
  | rejected (reason : String)
  deriving DecidableEq, Inhabited

namespace Complaint

/-- The code of a complaint. -/
def code : Complaint → String
  | .missing => "missing"
  | .extraForbidden => "extra_forbidden"
  | .keyNotText => "invalid_key"
  | .modelExpected _ => "model_type"
  | .dataclassExpected _ => "dataclass_type"
  | .listExpected => "list_type"
  | .dictExpected => "dict_type"
  | .instanceExpected _ => "is_instance_of"
  | .intExpected => "int_type"
  | .intUnreadable => "int_parsing"
  | .intTooLarge => "int_parsing_size"
  | .intFractional => "int_from_float"
  | .notFinite => "finite_number"
  | .floatExpected => "float_type"
  | .floatUnreadable => "float_parsing"
  | .textExpected => "string_type"
  | .textNotUnicode => "string_unicode"
  | .boolExpected => "bool_type"
  | .boolUnreadable => "bool_parsing"
  | .decimalExpected => "decimal_type"
  | .decimalUnreadable => "decimal_parsing"
  | .dateExpected => "date_type"
  | .dateInvalid _ => "date_parsing"
  | .dateUnreadable _ => "date_from_datetime_parsing"
  | .dateNotMidnight => "date_from_datetime_inexact"
  | .instantExpected => "datetime_type"
  | .instantInvalid _ => "datetime_parsing"
  | .instantUnreadable _ => "datetime_from_date_parsing"
  | .notAMember _ => "enum"
  | .belowBound _ => "greater_than_equal"
  | .frozen => "frozen_instance"
  | .rejected _ => "value_error"

/-- The sentence of a complaint. -/
def message : Complaint → String
  | .missing => "Field required"
  | .extraForbidden => "Extra inputs are not permitted"
  | .keyNotText => "Keys should be strings"
  | .modelExpected name => "Input should be a valid dictionary or instance of " ++ name
  | .dataclassExpected name => "Input should be a dictionary or an instance of " ++ name
  | .listExpected => "Input should be a valid list"
  | .dictExpected => "Input should be a valid dictionary"
  | .instanceExpected name => "Input should be an instance of " ++ name
  | .intExpected => "Input should be a valid integer"
  | .intUnreadable => "Input should be a valid integer, unable to parse string as an integer"
  | .intTooLarge => "Unable to parse input string as an integer, exceeded maximum size"
  | .intFractional => "Input should be a valid integer, got a number with a fractional part"
  | .notFinite => "Input should be a finite number"
  | .floatExpected => "Input should be a valid number"
  | .floatUnreadable => "Input should be a valid number, unable to parse string as a number"
  | .textExpected => "Input should be a valid string"
  | .textNotUnicode =>
    "Input should be a valid string, unable to parse raw data as a unicode string"
  | .boolExpected => "Input should be a valid boolean"
  | .boolUnreadable => "Input should be a valid boolean, unable to interpret input"
  | .decimalExpected => "Decimal input should be an integer, float, string or Decimal object"
  | .decimalUnreadable => "Input should be a valid decimal"
  | .dateExpected => "Input should be a valid date"
  | .dateInvalid fault => "Input should be a valid date in the format YYYY-MM-DD, " ++ fault.message
  | .dateUnreadable fault => "Input should be a valid date or datetime, " ++ fault.message
  | .dateNotMidnight =>
    "Datetimes provided to dates should have zero time - e.g. be exact dates"
  | .instantExpected => "Input should be a valid datetime"
  | .instantInvalid fault => "Input should be a valid datetime, " ++ fault.message
  | .instantUnreadable fault => "Input should be a valid datetime or date, " ++ fault.message
  | .notAMember expected => "Input should be " ++ expected
  | .belowBound bound => "Input should be greater than or equal to " ++ intText bound
  | .frozen => "Instance is frozen"
  | .rejected reason => "Value error, " ++ reason

end Complaint

/-- One thing that is wrong, and where. -/
structure Issue where
  path : List String
  complaint : Complaint
  deriving DecidableEq, Inhabited

namespace Issue

/-- The path with points between its steps. -/
def location (i : Issue) : String := joinWith "." i.path

/-- The issue seen from one step further out. -/
def under (step : String) (i : Issue) : Issue := { i with path := step :: i.path }

end Issue

/-- The issues of a value that is to be a record of some type. -/
structure Invalid where
  title : String
  issues : List Issue
  deriving DecidableEq, Inhabited

/-- The count of issues with the type they are about. -/
def Invalid.message (e : Invalid) : String :=
  intText e.issues.length ++ " validation error(s) for " ++ e.title

end FluentQuery
