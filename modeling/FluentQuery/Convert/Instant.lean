import FluentQuery.Convert.Scalar

/-!
# Converting dates and instants

A text writes a date as `YYYY-MM-DD` and an instant as a date, a separator, a time of day and
possibly an offset; a number, also one written in digits, counts seconds of universal time from
the start of 1970, or milliseconds when it is above 20 000 000 000.

A date may be given as an instant at midnight, and an instant as a date, which is its midnight.
When neither reading succeeds the fault is the one of the second reading.
-/

namespace FluentQuery.Convert

/-- The number that two digits write. -/
def twoDigits (fault : CalendarFault) : List Char → Except CalendarFault (Nat × List Char)
  | a :: b :: rest =>
    match Text.asciiDigit? a, Text.asciiDigit? b with
    | some x, some y => .ok (10 * x + y, rest)
    | _, _ => .error fault
  | _ => .error fault

/-- Drops an expected character. -/
def expectChar (expected : Char) (fault : CalendarFault) :
    List Char → Except CalendarFault (List Char)
  | [] => .error fault
  | c :: rest => if c == expected then .ok rest else .error fault

/-- Reads a date at the front of a text. -/
def readDatePrefix (cs : List Char) : Except CalendarFault (Date × List Char) := do
  if cs.length < 10 then throw .tooShort
  let (century, cs) ← twoDigits .yearCharacter cs
  let (year, cs) ← twoDigits .yearCharacter cs
  let cs ← expectChar '-' .dateSeparator cs
  let (month, cs) ← twoDigits .monthCharacter cs
  let cs ← expectChar '-' .dateSeparator cs
  let (day, cs) ← twoDigits .dayCharacter cs
  let date : Date := ⟨100 * century + year, month, day⟩
  if month < 1 || 12 < month then throw .monthRange
  if day < 1 || Date.daysInMonth date.year month < day then throw .dayRange
  pure (date, cs)

/-- Microseconds from the digits of a fraction; digits past the sixth are cut. -/
def microseconds (digits : List Char) : Nat :=
  let kept := digits.take 6
  digitsValue 0 kept * Nat.pow 10 (6 - kept.length)

/-- Reads seconds and microseconds, which may both be left out. -/
def readSeconds : List Char → Except CalendarFault (Nat × Nat × List Char)
  | ':' :: cs => do
    let (second, cs) ← twoDigits .secondCharacter cs
    if 59 < second then throw .secondRange
    match cs with
    | c :: rest =>
      if c == '.' || c == ',' then
        let digits := rest.takeWhile Char.isDigit
        if digits.isEmpty then throw .fractionMissing
        pure (second, microseconds digits, rest.dropWhile Char.isDigit)
      else pure (second, 0, cs)
    | [] => pure (second, 0, [])
  | cs => .ok (0, 0, cs)

/-- Reads an offset: the letter of universal time, or a sign, hours and minutes with or without a
colon. `minusBytes` is the typographic minus in its three bytes. -/
def readZone : List Char → Except CalendarFault (Option Int × List Char)
  | [] => .ok (none, [])
  | c :: cs =>
    if c == 'Z' || c == 'z' then .ok (some 0, cs)
    else do
      let (sign, cs) ← zoneSign c cs
      let (hours, cs) ← twoDigits .zoneHour cs
      let cs := match cs with
        | ':' :: rest => rest
        | other => other
      let (minutes, cs) ← twoDigits .zoneMinute cs
      if 59 < minutes then throw .zoneMinuteRange
      let offset : Int := sign * (hours * 3600 + minutes * 60 : Nat)
      if 86400 ≤ offset.natAbs then throw .zoneRange
      pure (some offset, cs)
where
  /-- The sign of an offset. -/
  zoneSign (c : Char) (cs : List Char) : Except CalendarFault (Int × List Char) :=
    if c == '+' then .ok (1, cs)
    else if c == '-' then .ok (-1, cs)
    else
      match c.toNat, cs with
      | 226, a :: b :: rest =>
        if a.toNat = 136 && b.toNat = 146 then .ok (-1, rest) else .error .zoneSign
      | _, _ => .error .zoneSign

/-- Reads a time of day that takes up the whole rest of a text. -/
def readTime (cs : List Char) : Except CalendarFault Time := do
  if cs.length < 5 then throw .tooShort
  let (hour, cs) ← twoDigits .hourCharacter cs
  let cs ← expectChar ':' .timeSeparator cs
  let (minute, cs) ← twoDigits .minuteCharacter cs
  if 23 < hour then throw .hourRange
  if 59 < minute then throw .minuteRange
  let (second, microsecond, cs) ← readSeconds cs
  let (offset, cs) ← readZone cs
  if !cs.isEmpty then throw .extraCharacters
  pure ⟨hour, minute, second, microsecond, offset⟩

/-- Reads an instant in calendar form. -/
def readInstant (cs : List Char) : Except CalendarFault DateTime := do
  let (date, cs) ← readDatePrefix cs
  match cs with
  | [] => throw .instantSeparator
  | c :: rest =>
    if c == 'T' || c == 't' || c == ' ' || c == '_' then
      pure ⟨date, ← readTime rest⟩
    else throw .instantSeparator

/-- Reads a date in calendar form. -/
def readDate (cs : List Char) : Except CalendarFault Date := do
  let (date, rest) ← readDatePrefix cs
  if !rest.isEmpty then throw .extraCharacters
  pure date

/-- The instant a number of seconds, or of milliseconds, after the start of 1970. -/
def instantOfUnix (count : Int) (microsecond : Nat) : Except CalendarFault DateTime :=
  if count ≤ wordMin then .error .beforeRange
  else
    let (seconds, extra) :=
      if count.natAbs ≤ 20000000000 then (count, 0)
      else (Int.fdiv count 1000, (count - 1000 * Int.fdiv count 1000).toNat * 1000)
    let total := microsecond + extra
    let seconds := seconds + (total / 1000000 : Nat)
    if seconds < -11676096000 then .error .beforeRange
    else if 253402300799 < seconds then .error .afterRange
    else .ok (DateTime.ofUnixSeconds seconds (total % 1000000))

/-- A number in digits with an optional sign and fraction: its whole part and its microseconds.
A negative number is taken down to the second below it. -/
def readUnix? (cs : List Char) : Option (Int × Nat) :=
  let (negative, body) := takeSign cs
  let whole := body.takeWhile Char.isDigit
  let rest := body.dropWhile Char.isDigit
  let value : Int := digitsValue 0 whole
  if whole.isEmpty || wordMax < value then none
  else
    match rest with
    | [] => some (if negative then -value else value, 0)
    | '.' :: digits =>
      if !digits.all Char.isDigit then none
      else
        let fraction :=
          Binary64.roundDiv (digitsValue 0 digits * 1000000) (Nat.pow 10 digits.length)
        some (if negative then
            (if fraction = 0 then (-value, 0) else (-value - 1, 1000000 - fraction))
          else (value, fraction))
    | _ => none

/-- The instant a floating point number of seconds after the start of 1970. -/
def instantOfFloat (x : Binary64) : Except CalendarFault DateTime :=
  match x with
  | .nan => .error .notANumber
  | .infinite negative => .error (if negative then .beforeRange else .afterRange)
  | x =>
    match x.floor?, x.toRat? with
    | some whole, some q =>
      let part := (if q < 0 then -q else q)
      let fraction := (part - part.floor) * 1000000
      let clamped := max wordMin (min wordMax whole)
      instantOfUnix clamped (Binary64.roundDiv fraction.num.natAbs fraction.den)
    | _, _ => .error .notANumber

/-- The instant that a text or bytes write. -/
def instantOfBytes (bytes : List UInt8) : Except CalendarFault DateTime :=
  let cs := Text.byteChars bytes
  match readInstant cs with
  | .ok t => .ok t
  | .error fault =>
    match readUnix? cs with
    | some (count, microsecond) => instantOfUnix count microsecond
    | none => .error fault

/-- The date that a text or bytes write. A number must be that of a midnight. -/
def dateOfBytes (bytes : List UInt8) : Except CalendarFault Date :=
  let cs := Text.byteChars bytes
  match readDate cs with
  | .ok d => .ok d
  | .error fault =>
    match readUnix? cs with
    | some (count, 0) =>
      match instantOfUnix count 0 with
      | .ok t => if t.time.isMidnight then .ok t.date else .error .notExactDate
      | .error e => .error e
    | _ => .error fault

/-- Reads an instant from a value of any kind. The inner fault is absent for a value of a kind
that holds none. -/
def instantOfValue (v : Value) : Except (Option CalendarFault) DateTime :=
  let located (r : Except CalendarFault DateTime) : Except (Option CalendarFault) DateTime :=
    match r with
    | .ok t => .ok t
    | .error fault => .error (some fault)
  match v with
  | .datetime t => .ok t
  | .text s => located (instantOfBytes (Text.encode s))
  | .bytes b => located (instantOfBytes b)
  | .int n =>
    located (if wordMin ≤ n ∧ n ≤ wordMax then instantOfUnix n 0
      else instantOfFloat (Binary64.ofInt n))
  | .float x => located (instantOfFloat x)
  | .decimal d => located (instantOfFloat d.toBinary64)
  | .date d => .ok ⟨d, Time.midnight⟩
  | _ => .error none

/-- Reads a date from a value of any kind, but not from an instant or a number. -/
def dateOfValue (v : Value) : Except (Option CalendarFault) Date :=
  let located (r : Except CalendarFault Date) : Except (Option CalendarFault) Date :=
    match r with
    | .ok d => .ok d
    | .error fault => .error (some fault)
  match v with
  | .date d => .ok d
  | .text s => located (dateOfBytes (Text.encode s))
  | .bytes b => located (dateOfBytes b)
  | _ => .error none

/-- A date of the year 1 or later. -/
def checkedDate (d : Date) : Except Complaint Date :=
  if d.year = 0 then .error (.dateInvalid .yearZero) else .ok d

/-- An instant of the year 1 or later. -/
def checkedInstant (t : DateTime) : Except Complaint DateTime :=
  if t.date.year = 0 then .error (.instantInvalid .yearZero) else .ok t

/-- Conversion to a date. -/
def toDate (strict : Bool) (v : Value) : Except Complaint Date :=
  match v, strict with
  | .date d, _ => .ok d
  | _, true => .error .dateExpected
  | v, false =>
    match dateOfValue v with
    | .ok d => checkedDate d
    | .error first =>
      match instantOfValue v with
      | .ok t => if t.time.isMidnight then checkedDate t.date else .error .dateNotMidnight
      | .error (some fault) => .error (.dateUnreadable fault)
      | .error none =>
        match first with
        | some fault => .error (.dateInvalid fault)
        | none => .error .dateExpected

/-- Conversion to an instant. -/
def toInstant (strict : Bool) (v : Value) : Except Complaint DateTime :=
  match v, strict with
  | .datetime t, _ => .ok t
  | _, true => .error .instantExpected
  | v, false =>
    match instantOfValue v with
    | .ok t => checkedInstant t
    | .error first =>
      match dateOfValue v with
      | .ok d => checkedInstant ⟨d, Time.midnight⟩
      | .error (some fault) => .error (.instantUnreadable fault)
      | .error none =>
        match first with
        | some fault => .error (.instantInvalid fault)
        | none => .error .instantExpected

end FluentQuery.Convert
