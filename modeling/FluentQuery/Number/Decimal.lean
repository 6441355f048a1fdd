import FluentQuery.Number.FloatText
import FluentQuery.Text.Blank

/-!
# Decimal numbers

A finite decimal number is `± coefficient · 10 ^ exponent`; `1.0` and `1.00` are different
numbers of one value. Besides there are infinities and quiet and signalling "not a number"
values that carry a payload.

* **`Decimal.text`** — scientific notation of the general decimal arithmetic specification:
  positional when the exponent is not positive and the first digit stands at `10 ^ -6` or above;
* **`Decimal.ofText?`** — its inverse, which also takes underscores anywhere, blank ends and
  decimal digits of every script;
* **`add`, `sub`, `mul`, `floorDiv`** — arithmetic with 28 significant digits, ties to even.
-/

namespace FluentQuery

/-- A decimal number of any precision. -/
inductive Decimal where
  | finite (negative : Bool) (coefficient : Nat) (exponent : Int)
  | infinite (negative : Bool)
  | nan (negative signaling : Bool) (payload : Nat)
  deriving DecidableEq, Inhabited

namespace Decimal

/-- The decimal number of an integer. -/
def ofInt (n : Int) : Decimal := .finite (decide (n < 0)) n.natAbs 0

/-- The coefficient's digits with the point where the exponent puts it, or with an exponent. -/
def layout (coefficient : Nat) (exponent : Int) : List Char :=
  let digits := Nat.toDigits 10 coefficient
  let place : Int := digits.length + exponent
  let point : Int := if exponent ≤ 0 ∧ -6 < place then place else 1
  let body :=
    if point ≤ 0 then ['0', '.'] ++ List.replicate (-point).toNat '0' ++ digits
    else if digits.length ≤ point.toNat then
      digits ++ List.replicate (point.toNat - digits.length) '0'
    else digits.take point.toNat ++ ['.'] ++ digits.drop point.toNat
  if place = point then body
  else
    let power := place - point
    body ++ ['E', if power < 0 then '-' else '+'] ++ Nat.toDigits 10 power.natAbs

/-- The text of a decimal number. -/
def text (d : Decimal) : String :=
  let sign (negative : Bool) := if negative then "-" else ""
  match d with
  | .finite negative coefficient exponent =>
    sign negative ++ String.ofList (layout coefficient exponent)
  | .infinite negative => sign negative ++ "Infinity"
  | .nan negative signaling payload =>
    sign negative ++ (if signaling then "sNaN" else "NaN") ++
      (if payload = 0 then "" else String.ofList (Nat.toDigits 10 payload))

/-- Brings a text to ASCII: blanks at the ends and all underscores go, decimal digits of every
script become ASCII ones, any other character beyond ASCII spoils the text. -/
def normalize? (s : String) : Option (List Char) :=
  ((Text.stripList s.toList).filter (· != '_')).mapM fun c =>
    if c.toNat < 0x80 then some c
    else (Text.digitValue? c).map fun v => Char.ofNat ('0'.toNat + v)

/-- Reads the payload of a "not a number" value. -/
def readPayload? (cs : List Char) : Option Nat :=
  if cs.all Char.isDigit then some (digitsValue 0 cs) else none

/-- Whether a finite number is in range: its last digit stands at `10 ^ -1999999999999999997` or
above, its first at `10 ^ 999999999999999999` or below. -/
def isInRange (coefficient : Nat) (exponent : Int) : Bool :=
  -1999999999999999997 ≤ exponent &&
    exponent + (Nat.toDigits 10 coefficient).length - 1 ≤ 999999999999999999

/-- Reads a decimal number in ASCII characters. -/
def ofChars? (cs : List Char) : Option Decimal :=
  let (negative, body) := takeSign cs
  let word := body.map Char.toLower
  match readNotation? body with
  | some p =>
    let coefficient := digitsValue 0 (p.whole ++ p.fraction)
    let exponent := p.exponent - p.fraction.length
    if isInRange coefficient exponent then some (.finite negative coefficient exponent) else none
  | none =>
    if word = "inf".toList || word = "infinity".toList then some (.infinite negative)
    else match word with
      | 'n' :: 'a' :: 'n' :: rest => (readPayload? rest).map (.nan negative false)
      | 's' :: 'n' :: 'a' :: 'n' :: rest => (readPayload? rest).map (.nan negative true)
      | _ => none

/-- Reads a decimal number. -/
def ofText? (s : String) : Option Decimal := (normalize? s).bind ofChars?

/-- The decimal number that the text of a floating point number writes. -/
def ofBinary64 (x : Binary64) : Decimal := (ofText? x.text).getD (.nan false false 0)

/-- Whether the number is a finite one. -/
def isFinite : Decimal → Bool
  | .finite _ _ _ => true
  | _ => false

/-- Whether the number is not zero; what is not a number counts as different from zero. -/
def isTruthy : Decimal → Bool
  | .finite _ coefficient _ => coefficient != 0
  | _ => true

/-- The rational that a finite number is. -/
def toRat? : Decimal → Option Rat
  | .finite negative coefficient exponent =>
    let n : Int := if negative then -(coefficient : Int) else coefficient
    some (if 0 ≤ exponent then ((n * Nat.pow 10 exponent.toNat : Int) : Rat)
      else (n : Rat) / ((Nat.pow 10 (-exponent).toNat : Nat) : Rat))
  | _ => none

/-- The integer that is left when the fraction is cut off. -/
def truncate? : Decimal → Option Int
  | .finite negative coefficient exponent =>
    let n : Nat :=
      if 0 ≤ exponent then coefficient * Nat.pow 10 exponent.toNat
      else coefficient / Nat.pow 10 (-exponent).toNat
    some (if negative then -(n : Int) else n)
  | _ => none

/-- Whether the fraction is zero. -/
def isIntegral : Decimal → Bool
  | .finite _ coefficient exponent =>
    0 ≤ exponent || coefficient % Nat.pow 10 (-exponent).toNat == 0
  | _ => false

/-- The nearest 64 bit floating point number. -/
def toBinary64 : Decimal → Binary64
  | .finite negative coefficient exponent => Binary64.ofDecimal negative coefficient exponent
  | .infinite negative => .infinite negative
  | .nan _ _ _ => .nan

/-- The significant digits that arithmetic keeps. -/
def precision : Nat := 28

/-- A coefficient cut to the precision, ties to even. -/
def round (negative : Bool) (coefficient : Nat) (exponent : Int) : Decimal :=
  let excess := (Nat.toDigits 10 coefficient).length - precision
  if excess = 0 then .finite negative coefficient exponent
  else
    let kept := Binary64.roundDiv coefficient (Nat.pow 10 excess)
    if kept = Nat.pow 10 precision then .finite negative (kept / 10) (exponent + excess + 1)
    else .finite negative kept (exponent + excess)

/-- Two coefficients brought to the smaller of two exponents, with that exponent. -/
def align (c : Nat) (e : Int) (c' : Nat) (e' : Int) : Nat × Nat × Int :=
  let low := min e e'
  (c * Nat.pow 10 (e - low).toNat, c' * Nat.pow 10 (e' - low).toNat, low)

/-- The number with its sign turned. -/
def neg : Decimal → Decimal
  | .finite negative c e => .finite (!negative) c e
  | .infinite negative => .infinite (!negative)
  | .nan negative s p => .nan negative s p

/-- Why an operation on decimals has no result. -/
inductive Signal where
  | invalidOperation
  | divisionByZero
  | divisionUndefined
  | divisionImpossible
  deriving DecidableEq, Inhabited

/-- A quiet operand that is not a number, which an operation hands on; a signalling one stops it. -/
def nanOperand (x y : Decimal) : Option (Except Signal Decimal) :=
  match x, y with
  | .nan _ true _, _ => some (.error .invalidOperation)
  | _, .nan _ true _ => some (.error .invalidOperation)
  | .nan n false p, _ => some (.ok (.nan n false p))
  | _, .nan n false p => some (.ok (.nan n false p))
  | _, _ => none

/-- The sum. -/
def add (x y : Decimal) : Except Signal Decimal :=
  match nanOperand x y with
  | some answer => answer
  | none =>
    match x, y with
    | .infinite a, .infinite b => if a = b then .ok (.infinite a) else .error .invalidOperation
    | .infinite a, _ => .ok (.infinite a)
    | _, .infinite b => .ok (.infinite b)
    | .finite a c e, .finite b c' e' =>
      let (n, n', low) := align c e c' e'
      let total : Int := (if a then -(n : Int) else n) + (if b then -(n' : Int) else n')
      let negative := if total = 0 then a && b else decide (total < 0)
      .ok (round negative total.natAbs low)
    | x, _ => .ok x

/-- The difference. -/
def sub (x y : Decimal) : Except Signal Decimal := add x (neg y)

/-- The product. -/
def mul (x y : Decimal) : Except Signal Decimal :=
  match nanOperand x y with
  | some answer => answer
  | none =>
    match x, y with
    | .finite a c e, .finite b c' e' => .ok (round (a != b) (c * c') (e + e'))
    | .infinite a, .infinite b => .ok (.infinite (a != b))
    | .infinite a, .finite b c _ =>
      if c = 0 then .error .invalidOperation else .ok (.infinite (a != b))
    | .finite a c _, .infinite b =>
      if c = 0 then .error .invalidOperation else .ok (.infinite (a != b))
    | x, _ => .ok x

/-- The integral part of the quotient, cut toward zero. -/
def floorDiv (x y : Decimal) : Except Signal Decimal :=
  match nanOperand x y with
  | some answer => answer
  | none =>
    match x, y with
    | .infinite _, .infinite _ => .error .invalidOperation
    | .infinite a, .finite b _ _ => .ok (.infinite (a != b))
    | .finite a _ _, .infinite b => .ok (.finite (a != b) 0 0)
    | .finite a c e, .finite b c' e' =>
      if c' = 0 then .error (if c = 0 then .divisionUndefined else .divisionByZero)
      else
        let (n, n', _) := align c e c' e'
        let quotient := n / n'
        if Nat.pow 10 precision ≤ quotient then .error .divisionImpossible
        else .ok (.finite (a != b) quotient 0)
    | x, _ => .ok x

/-- Strict order, which is not defined on what is not a number. -/
def lt (x y : Decimal) : Except Signal Bool :=
  match x, y with
  | .nan _ _ _, _ => .error .invalidOperation
  | _, .nan _ _ _ => .error .invalidOperation
  | .infinite a, .infinite b => .ok (a && !b)
  | .infinite a, _ => .ok a
  | _, .infinite b => .ok (!b)
  | x, y =>
    match x.toRat?, y.toRat? with
    | some p, some q => .ok (decide (p < q))
    | _, _ => .ok false

end Decimal

end FluentQuery
