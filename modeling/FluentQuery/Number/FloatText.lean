import FluentQuery.Number.Shortest
import FluentQuery.Text.Digit

/-!
# Floating point numbers as text

* **`Binary64.text`** — the shortest digits that read back; positional with at least one digit
  after the point when the first digit stands at a place from `10 ^ -4` to `10 ^ 15`, with an
  exponent of at least two digits otherwise;
* **`Binary64.ofText?`** — decimal notation, or `nan`, `inf`, `infinity` in any case, read to the
  nearest number.
-/

namespace FluentQuery

/-- Drops a sign from the front of a text and tells whether it was a minus. -/
def takeSign : List Char → Bool × List Char
  | '-' :: rest => (true, rest)
  | '+' :: rest => (false, rest)
  | rest => (false, rest)

/-- The natural number that ASCII digits write, read after the value `acc`. -/
def digitsValue (acc : Nat) (digits : List Char) : Nat :=
  digits.foldl (fun value c => 10 * value + (asciiValue c)) acc
where
  /-- The distance of a character from zero. -/
  asciiValue (c : Char) : Nat := c.toNat - '0'.toNat

/-- The digits of a decimal notation: those before the point, those after, and the exponent. -/
structure DecimalNotation where
  whole : List Char
  fraction : List Char
  exponent : Int
  deriving DecidableEq, Inhabited

/-- Reads an optional exponent that takes up the whole rest of a text. -/
def readExponent? : List Char → Option Int
  | [] => some 0
  | c :: rest =>
    if c == 'e' || c == 'E' then
      let (negative, digits) := takeSign rest
      if digits.isEmpty || !digits.all Char.isDigit then none
      else
        let n : Int := digitsValue 0 digits
        some (if negative then -n else n)
    else none

/-- Reads an unsigned decimal notation: digits with an optional point, at least one digit in all,
and an optional exponent. -/
def readNotation? (cs : List Char) : Option DecimalNotation :=
  let whole := cs.takeWhile Char.isDigit
  let rest := cs.dropWhile Char.isDigit
  let (fraction, rest) :=
    match rest with
    | '.' :: tail => (tail.takeWhile Char.isDigit, tail.dropWhile Char.isDigit)
    | other => ([], other)
  if whole.isEmpty && fraction.isEmpty then none
  else (readExponent? rest).map fun exponent => ⟨whole, fraction, exponent⟩

namespace Binary64

/-- The nearest number to `± digits · 10 ^ exponent`. Exponents far outside the range of the
format are settled by their size alone. -/
def ofDecimal (negative : Bool) (digits : Nat) (exponent : Int) : Binary64 :=
  if digits = 0 then zero negative
  else if 400 < exponent + digitCount digits then .infinite negative
  else if exponent + digitCount digits < -400 then zero negative
  else if 0 ≤ exponent then ofRatio negative (digits * Nat.pow 10 exponent.toNat) 1
  else ofRatio negative digits (Nat.pow 10 (-exponent).toNat)

/-- The nearest number to a decimal notation. -/
def ofNotation (negative : Bool) (p : DecimalNotation) : Binary64 :=
  ofDecimal negative (digitsValue 0 (p.whole ++ p.fraction)) (p.exponent - p.fraction.length)

/-- Reads a number without blanks around it. -/
def ofChars? (cs : List Char) : Option Binary64 :=
  let (negative, body) := takeSign cs
  let word := String.ofList (body.map Char.toLower)
  if word = "nan" then some .nan
  else if word = "inf" || word = "infinity" then some (.infinite negative)
  else (readNotation? body).map (ofNotation negative)

/-- Reads a number without blanks around it. -/
def ofText? (s : String) : Option Binary64 := ofChars? s.toList

/-- The digits of a positive number set out around a decimal point or with an exponent. -/
def layout (p : DecimalPoint) : List Char :=
  let digits := Nat.toDigits 10 p.digits
  let place : Int := digits.length + p.exponent
  if -4 < place ∧ place ≤ 16 then
    if place ≤ 0 then ['0', '.'] ++ List.replicate (-place).toNat '0' ++ digits
    else if digits.length ≤ place.toNat then
      digits ++ List.replicate (place.toNat - digits.length) '0' ++ ['.', '0']
    else digits.take place.toNat ++ ['.'] ++ digits.drop place.toNat
  else
    let exponent := place - 1
    let magnitude := Nat.toDigits 10 exponent.natAbs
    let padded := if magnitude.length < 2 then '0' :: magnitude else magnitude
    let mantissa :=
      match digits with
      | [d] => [d]
      | d :: rest => d :: '.' :: rest
      | [] => []
    mantissa ++ ['e', if exponent < 0 then '-' else '+'] ++ padded

/-- The text of a number. -/
def text : Binary64 → String
  | .nan => "nan"
  | .infinite negative => if negative then "-inf" else "inf"
  | .finite negative m e =>
    let body := if m = 0 then ['0', '.', '0'] else layout (shortestDigits m e)
    String.ofList (if negative then '-' :: body else body)

end Binary64

end FluentQuery
