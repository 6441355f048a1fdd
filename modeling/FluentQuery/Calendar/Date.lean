import FluentQuery.Number.FloatText

/-!
# Dates

A date of the Gregorian calendar, in use for all years. `ofDayNumber` gives the date of a number of
days from the first of January 1970.
-/

namespace FluentQuery

/-- A day given by year, month and day of the month. -/
structure Date where
  year : Nat
  month : Nat
  day : Nat
  deriving DecidableEq, Inhabited

namespace Date

/-- Whether a year has a 29th of February. -/
def isLeapYear (year : Nat) : Bool := year % 4 == 0 && (year % 100 != 0 || year % 400 == 0)

/-- The number of days of a month, 0 for what is no month. -/
def daysInMonth (year month : Nat) : Nat :=
  if month = 2 then (if isLeapYear year then 29 else 28)
  else if month = 4 || month = 6 || month = 9 || month = 11 then 30
  else if 1 ≤ month && month ≤ 12 then 31
  else 0

/-- The date of a day number of the year 0 or later. Years are counted from March, so that the leap
day comes last. -/
def ofDayNumber (n : Int) : Date :=
  let days := n + 719468
  let era := Int.fdiv days 146097
  let dayOfEra := days - era * 146097
  let yearOfEra := Int.fdiv (dayOfEra - Int.fdiv dayOfEra 1460 + Int.fdiv dayOfEra 36524
    - Int.fdiv dayOfEra 146096) 365
  let dayOfYear := dayOfEra - (365 * yearOfEra + Int.fdiv yearOfEra 4 - Int.fdiv yearOfEra 100)
  let shifted := Int.fdiv (5 * dayOfYear + 2) 153
  let day := dayOfYear - Int.fdiv (153 * shifted + 2) 5 + 1
  let month := if shifted < 10 then shifted + 3 else shifted - 9
  let year := yearOfEra + era * 400 + (if month ≤ 2 then 1 else 0)
  ⟨year.toNat, month.toNat, day.toNat⟩

/-- A number in decimal digits with zeros in front up to a width. -/
def padded (width n : Nat) : List Char :=
  let digits := Nat.toDigits 10 n
  List.replicate (width - digits.length) '0' ++ digits

/-- The date as year, month and day with hyphens between them. -/
def isoChars (d : Date) : List Char :=
  padded 4 d.year ++ ['-'] ++ padded 2 d.month ++ ['-'] ++ padded 2 d.day

/-- The date as year, month and day with hyphens between them. -/
def isoText (d : Date) : String := String.ofList d.isoChars

end Date

/-- The number that exactly `width` ASCII digits at the front of a text write, and the rest. -/
def takeDigits? (width : Nat) (cs : List Char) : Option (Nat × List Char) :=
  let digits := cs.take width
  if digits.length = width && digits.all Char.isDigit then
    some (digitsValue 0 digits, cs.drop width)
  else none

/-- Drops an expected character from the front of a text. -/
def takeChar? (expected : Char) : List Char → Option (List Char)
  | [] => none
  | c :: rest => if c = expected then some rest else none

/-- Reads a date in the form `isoChars` writes at the front of a text. -/
def Date.ofIsoPrefix? (cs : List Char) : Option (Date × List Char) := do
  let (year, cs) ← takeDigits? 4 cs
  let cs ← takeChar? '-' cs
  let (month, cs) ← takeDigits? 2 cs
  let cs ← takeChar? '-' cs
  let (day, cs) ← takeDigits? 2 cs
  pure (⟨year, month, day⟩, cs)

/-- Reads a date in the form `isoText` writes. -/
def Date.ofIsoText? (s : String) : Option Date := do
  let (date, rest) ← Date.ofIsoPrefix? s.toList
  if rest.isEmpty then pure date else none

end FluentQuery
