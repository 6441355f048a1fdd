import FluentQuery.Value.Basic
import FluentQuery.Text.Quoted

/-!
# Values as text

* **`Value.quoted`** — the form in which error texts and logs show a value among other text: texts
  in quotes, numbers in their shortest form, dates as calls with their parts;
* **`Value.plain`** — the form of a value that stands alone: a text as it is, a date in ISO form;
* **`Value.isWritable`** — whether a value has a form as text at all, which an integer with too many
  digits in it has not.
-/

namespace FluentQuery

/-- Texts with a separator between them. -/
def joinWith (separator : String) : List String → String
  | [] => ""
  | [s] => s
  | s :: rest => s ++ separator ++ joinWith separator rest

/-- An integer in decimal digits. -/
def intText (n : Int) : String :=
  String.ofList (if n < 0 then '-' :: Nat.toDigits 10 n.natAbs else Nat.toDigits 10 n.natAbs)

/-- The longest numeral that is read or written, in digits. -/
def maxNumeralDigits : Nat := 4300

/-- Whether an integer has no more digits than can be written. -/
def fitsNumeral (n : Int) : Bool := (Nat.toDigits 10 n.natAbs).length ≤ maxNumeralDigits

/-- A date as a call with its parts. -/
def Date.callText (d : Date) : String :=
  "datetime.date(" ++ joinWith ", " ([d.year, d.month, d.day].map fun n : Nat => intText n) ++ ")"

/-- An offset from universal time as a call. -/
def Time.offsetCallText (offset : Int) : String :=
  if offset = 0 then "datetime.timezone.utc"
  else
    let days := Int.fdiv offset 86400
    let seconds := offset - days * 86400
    let parts :=
      (if days = 0 then [] else ["days=" ++ intText days]) ++
        (if seconds = 0 then [] else ["seconds=" ++ intText seconds])
    "datetime.timezone(datetime.timedelta(" ++ joinWith ", " parts ++ "))"

/-- An instant as a call with its parts; seconds and microseconds are left out from the end while
they are zero. -/
def DateTime.callText (t : DateTime) : String :=
  let parts := [t.date.year, t.date.month, t.date.day, t.time.hour, t.time.minute]
  let fine :=
    if t.time.microsecond != 0 then [t.time.second, t.time.microsecond]
    else if t.time.second != 0 then [t.time.second]
    else []
  let zone :=
    match t.time.offset with
    | none => []
    | some offset => ["tzinfo=" ++ Time.offsetCallText offset]
  "datetime.datetime(" ++
    joinWith ", " ((parts ++ fine).map (fun n : Nat => intText n) ++ zone) ++ ")"

namespace Value

mutual

/-- A value among other text. -/
def quoted : Value → String
  | .null => "None"
  | .bool b => if b then "True" else "False"
  | .int n => intText n
  | .float x => x.text
  | .decimal d => "Decimal('" ++ d.text ++ "')"
  | .text s => Text.quoted s
  | .bytes b => Text.quotedBytes b
  | .date d => d.callText
  | .datetime t => t.callText
  | .list items => "[" ++ joinWith ", " (quotedAll items) ++ "]"
  | .tuple [item] => "(" ++ quoted item ++ ",)"
  | .tuple items => "(" ++ joinWith ", " (quotedAll items) ++ ")"
  | .dict entries => "\x7b" ++ joinWith ", " (quotedEntries entries) ++ "\x7d"
  | .member enumeration label value =>
    "<" ++ enumeration ++ "." ++ label ++ ": " ++ quoted value ++ ">"
  | .record _ name fields => name ++ "(" ++ joinWith ", " (quotedFields fields) ++ ")"

/-- Each value of a list among other text. -/
def quotedAll : List Value → List String
  | [] => []
  | v :: rest => quoted v :: quotedAll rest

/-- Each entry of a dictionary. -/
def quotedEntries : List (Value × Value) → List String
  | [] => []
  | (k, v) :: rest => (quoted k ++ ": " ++ quoted v) :: quotedEntries rest

/-- Each field of a record. -/
def quotedFields : List (String × Value) → List String
  | [] => []
  | (name, v) :: rest => (name ++ "=" ++ quoted v) :: quotedFields rest

end

/-- A value that stands alone. -/
def plain : Value → String
  | .text s => s
  | .decimal d => d.text
  | .date d => d.isoText
  | .datetime t => t.spacedText
  | v => v.quoted

mutual

/-- Whether a value can be written: no integer in it is too long. -/
def isWritable : Value → Bool
  | .int n => fitsNumeral n
  | .list items => areWritable items
  | .tuple items => areWritable items
  | .dict entries => areWritableEntries entries
  | .member _ _ value => isWritable value
  | .record _ _ fields => areWritableFields fields
  | _ => true

/-- Whether each value of a list can be written. -/
def areWritable : List Value → Bool
  | [] => true
  | v :: rest => isWritable v && areWritable rest

/-- Whether each entry of a dictionary can be written. -/
def areWritableEntries : List (Value × Value) → Bool
  | [] => true
  | (k, v) :: rest => isWritable k && isWritable v && areWritableEntries rest

/-- Whether each field of a record can be written. -/
def areWritableFields : List (String × Value) → Bool
  | [] => true
  | (_, v) :: rest => isWritable v && areWritableFields rest

end

end Value

end FluentQuery
