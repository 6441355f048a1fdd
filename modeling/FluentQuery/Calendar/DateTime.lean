import FluentQuery.Calendar.Date

/-!
# Times of day and instants

A time of day has microseconds and possibly an offset from universal time in seconds. The text
of an instant shows microseconds as six digits when there are any, and the offset when there is
one.
-/

namespace FluentQuery

/-- A time of day. -/
structure Time where
  hour : Nat
  minute : Nat
  second : Nat
  microsecond : Nat
  offset : Option Int
  deriving DecidableEq, Inhabited

/-- A date with a time of day. -/
structure DateTime where
  date : Date
  time : Time
  deriving DecidableEq, Inhabited

namespace Time

/-- Midnight without an offset. -/
def midnight : Time := ⟨0, 0, 0, 0, none⟩

/-- Whether the time is midnight of its own offset. -/
def isMidnight (t : Time) : Bool :=
  t.hour == 0 && t.minute == 0 && t.second == 0 && t.microsecond == 0

/-- An offset as sign, hours and minutes, with seconds when there are any. -/
def offsetChars (offset : Int) : List Char :=
  let magnitude := offset.natAbs
  let seconds := magnitude % 60
  (if offset < 0 then '-' else '+') :: Date.padded 2 (magnitude / 3600) ++ [':'] ++
    Date.padded 2 (magnitude / 60 % 60) ++
    (if seconds = 0 then [] else ':' :: Date.padded 2 seconds)

/-- The time of day in ISO form. -/
def isoChars (t : Time) : List Char :=
  Date.padded 2 t.hour ++ [':'] ++ Date.padded 2 t.minute ++ [':'] ++ Date.padded 2 t.second ++
    (if t.microsecond = 0 then [] else '.' :: Date.padded 6 t.microsecond) ++
    (match t.offset with
     | none => []
     | some offset => offsetChars offset)

end Time

namespace DateTime

/-- Date and time of day with a separator between them. -/
def chars (separator : Char) (t : DateTime) : List Char :=
  t.date.isoChars ++ [separator] ++ t.time.isoChars

/-- The instant in ISO form. -/
def isoText (t : DateTime) : String := String.ofList (t.chars 'T')

/-- The instant in ISO form with a space in place of the letter. -/
def spacedText (t : DateTime) : String := String.ofList (t.chars ' ')

/-- The instant of universal time that lies a number of seconds after the start of 1970. -/
def ofUnixSeconds (seconds : Int) (microsecond : Nat) : DateTime :=
  let day := Int.fdiv seconds 86400
  let rest := (seconds - day * 86400).toNat
  ⟨Date.ofDayNumber day, ⟨rest / 3600, rest / 60 % 60, rest % 60, microsecond, some 0⟩⟩

end DateTime

/-- Reads an offset in the form that `offsetChars` writes; nothing may follow it. -/
def Time.readOffset? : List Char → Option (Option Int)
  | [] => some none
  | sign :: cs => do
    let negative ← if sign = '-' then some true else if sign = '+' then some false else none
    let (hours, cs) ← takeDigits? 2 cs
    let cs ← takeChar? ':' cs
    let (minutes, cs) ← takeDigits? 2 cs
    let seconds ←
      match cs with
      | [] => some 0
      | ':' :: cs => (takeDigits? 2 cs).bind fun (seconds, rest) =>
          if rest.isEmpty then some seconds else none
      | _ => none
    let total : Int := hours * 3600 + minutes * 60 + seconds
    pure (some (if negative then -total else total))

/-- The microseconds that the digits of a fraction at the front write, and the rest; digits past
the sixth are cut. -/
def Time.takeFraction? (cs : List Char) : Option (Nat × List Char) :=
  let digits := cs.takeWhile Char.isDigit
  if digits.isEmpty then none
  else some (digitsValue 0 ((digits ++ List.replicate 6 '0').take 6), cs.dropWhile Char.isDigit)

/-- Reads a time of day in ISO form. -/
def Time.ofIsoChars? (cs : List Char) : Option Time := do
  let (hour, cs) ← takeDigits? 2 cs
  let cs ← takeChar? ':' cs
  let (minute, cs) ← takeDigits? 2 cs
  let (second, cs) ←
    match cs with
    | ':' :: rest => takeDigits? 2 rest
    | other => some (0, other)
  let (microsecond, cs) ←
    match cs with
    | '.' :: rest => takeFraction? rest
    | other => some (0, other)
  let offset ← Time.readOffset? cs
  pure ⟨hour, minute, second, microsecond, offset⟩

/-- Reads an instant in ISO form. -/
def DateTime.ofIsoText? (s : String) : Option DateTime := do
  let (date, cs) ← Date.ofIsoPrefix? s.toList
  match cs with
  | [] => pure ⟨date, Time.midnight⟩
  | _ :: cs => pure ⟨date, ← Time.ofIsoChars? cs⟩

end FluentQuery
