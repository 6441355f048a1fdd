import FluentQuery.Schema.Issue
import FluentQuery.Number.Integer
import FluentQuery.Text.Encoding

/-!
# Converting scalars

Each scalar type has one function from values of any kind. A lenient conversion takes numbers of
other kinds that lose nothing and texts (or bytes in UTF-8) that write the value down; a strict
one takes the kind itself, for `toFloat` also other numbers.
-/

namespace FluentQuery.Convert

/-- The text that a text or bytes hold, unless the bytes are no UTF-8, and nothing for values of
other kinds. -/
def written (v : Value) : Option (Option String) :=
  match v with
  | .text s => some (some s)
  | .bytes b => some (Text.decode? b)
  | .member _ _ (.text s) => some (some s)
  | _ => none

/-- The least and the greatest integer of 64 bits. -/
def wordMin : Int := -9223372036854775808

/-- The greatest integer of 64 bits. -/
def wordMax : Int := 9223372036854775807

/-! ## Integers -/

/-- Reads an integer: spacing around it, a sign, single underscores between the digits, and a
fraction of zeros. -/
def readInt? (s : String) : Option Int :=
  let (negative, body) := takeSign (trimSpacing s.toList)
  let whole := body.takeWhile (· != '.')
  let fraction := (body.dropWhile (· != '.')).drop 1
  if fraction.all (· == '0') then
    (readDigits? Text.asciiDigit? 0 true whole).map fun n => if negative then -(n : Int) else n
  else none

/-- The integer that a floating point number is. -/
def intOfFloat (x : Binary64) : Except Complaint Int :=
  match x with
  | .nan => .error .notFinite
  | .infinite _ => .error .notFinite
  | x =>
    match x.toInt? with
    | none => .error .intFractional
    | some n => if wordMin < n ∧ n ≤ wordMax then .ok n else .error .intTooLarge

/-- The integer that a decimal number is. -/
def intOfDecimal (d : Decimal) : Except Complaint Int :=
  if !d.isFinite then .error .notFinite
  else if d.isIntegral then .ok (d.truncate?.getD 0)
  else .error .intFractional

/-- Conversion to an integer. -/
def toInt (strict : Bool) (v : Value) : Except Complaint Int :=
  match v with
  | .int n => .ok n
  | .member _ _ (.int n) => .ok n
  | _ =>
    if strict then .error .intExpected
    else
      match v with
      | .bool b => .ok (if b then 1 else 0)
      | .float x => intOfFloat x
      | .decimal d => intOfDecimal d
      | _ =>
        match written v with
        | none => .error .intExpected
        | some none => .error .intUnreadable
        | some (some s) =>
          match readInt? s with
          | none => .error .intUnreadable
          | some n => if maxNumeralDigits < s.length then .error .intTooLarge else .ok n

/-! ## Floating point numbers -/

/-- Drops single underscores inside a text; at an end or doubled they spoil it. -/
def dropUnderscores? (cs : List Char) : Option (List Char) :=
  if cs.head? == some '_' || cs.getLast? == some '_' then none
  else if (cs.zip (cs.drop 1)).any fun p => p.1 == '_' && p.2 == '_' then none
  else some (cs.filter (· != '_'))

/-- Reads a floating point number with spacing around it. -/
def readFloat? (s : String) : Option Binary64 :=
  (dropUnderscores? (trimSpacing s.toList)).bind Binary64.ofChars?

/-- Conversion to a floating point number. -/
def toFloat (strict : Bool) (v : Value) : Except Complaint Binary64 :=
  match v with
  | .float x => .ok x
  | .int n =>
    match Binary64.ofInt n with
    | .infinite _ => .error .floatExpected
    | x => .ok x
  | .decimal d =>
    match d with
    | .nan _ true _ => .error .floatExpected
    | d => .ok d.toBinary64
  | _ =>
    if strict then .error .floatExpected
    else
      match v with
      | .bool b => .ok (Binary64.ofInt (if b then 1 else 0))
      | _ =>
        match written v with
        | none => .error .floatExpected
        | some none => .error .floatUnreadable
        | some (some s) =>
          match readFloat? s with
          | none => .error .floatUnreadable
          | some x => .ok x

/-! ## Texts -/

/-- Conversion to a text. -/
def toText (strict : Bool) (v : Value) : Except Complaint String :=
  match v with
  | .text s => .ok s
  | _ =>
    if strict then .error .textExpected
    else
      match written v with
      | none => .error .textExpected
      | some none => .error .textNotUnicode
      | some (some s) => .ok s

/-! ## Truth values -/

/-- The truth value that a word stands for, in any case of its letters. -/
def readBool? (s : String) : Option Bool :=
  let word := String.ofList (s.toList.map Char.toLower)
  if ["0", "off", "f", "false", "n", "no"].contains word then some false
  else if ["1", "on", "t", "true", "y", "yes"].contains word then some true
  else none

/-- The truth value of an integer. -/
def boolOfInt (n : Int) : Except Complaint Bool :=
  if n = 0 then .ok false else if n = 1 then .ok true else .error .boolUnreadable

/-- The truth value of a floating point number. -/
def boolOfFloat (x : Binary64) : Except Complaint Bool :=
  match intOfFloat x with
  | .ok n => boolOfInt n
  | .error _ => .error .boolExpected

/-- Conversion to a truth value. -/
def toBool (strict : Bool) (v : Value) : Except Complaint Bool :=
  match v with
  | .bool b => .ok b
  | _ =>
    if strict then .error .boolExpected
    else
      match v with
      | .int n => if wordMin ≤ n ∧ n ≤ wordMax then boolOfInt n else .error .boolExpected
      | .float x => boolOfFloat x
      | .decimal d => boolOfFloat d.toBinary64
      | _ =>
        match written v with
        | none => .error .boolExpected
        | some none => .error .boolUnreadable
        | some (some s) =>
          match readBool? s with
          | none => .error .boolUnreadable
          | some b => .ok b

/-! ## Decimal numbers -/

/-- A decimal number, if it is finite. -/
def finiteDecimal (d : Decimal) : Except Complaint Decimal :=
  if d.isFinite then .ok d else .error .notFinite

/-- Conversion to a decimal number. -/
def toDecimal (strict : Bool) (v : Value) : Except Complaint Decimal :=
  match v with
  | .decimal d => finiteDecimal d
  | _ =>
    if strict then .error (.instanceExpected "Decimal")
    else
      match v with
      | .int n => .ok (Decimal.ofInt n)
      | .float x => finiteDecimal (Decimal.ofBinary64 x)
      | .text s =>
        match Decimal.ofText? s with
        | none => .error .decimalUnreadable
        | some d => finiteDecimal d
      | _ => .error .decimalExpected

end FluentQuery.Convert
