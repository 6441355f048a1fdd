/-!
# Binary floating point numbers of 64 bits

A number is not a number, infinite, or `± significand · 2 ^ exponent`, so that everything said
of it is exact integer arithmetic:

* **`ofRat`** — the nearest number to a rational, ties to the even significand;
* **`toRat?`** — the rational that a finite number is;
* **`add`, `sub`, `mul`, `floorDiv`, `lt`** — arithmetic and order: each result is the exact one,
  rounded once.

Finite numbers built here have a significand below `2 ^ 53` and an exponent of at least `-1074`;
zero keeps its sign.
-/

namespace FluentQuery

/-- A 64 bit floating point number. -/
inductive Binary64 where
  | nan
  | infinite (negative : Bool)
  | finite (negative : Bool) (significand : Nat) (exponent : Int)
  deriving DecidableEq, Inhabited

namespace Binary64

/-- The exponent of the smallest positive number, which zero has too. -/
def minExponent : Int := -1074

/-- The exponent of the largest finite number. -/
def maxExponent : Int := 971

/-- Zero with a sign. -/
def zero (negative : Bool) : Binary64 := .finite negative 0 minExponent

/-- A quotient rounded to the nearest natural number, ties to the even one. -/
def roundDiv (num den : Nat) : Nat :=
  let quotient := num / den
  let twice := 2 * (num % den)
  if twice < den then quotient
  else if den < twice then quotient + 1
  else quotient + quotient % 2

/-- Numerator and denominator of `num / den / 2 ^ e`. -/
def scaled (num den : Nat) (e : Int) : Nat × Nat :=
  if e ≤ 0 then (num * Nat.pow 2 (-e).toNat, den) else (num, den * Nat.pow 2 e.toNat)

/-- The exponent that gives `num / den` a significand of 53 bits, or the least exponent. -/
def exponentOf (num den : Nat) : Int :=
  let guess : Int := (num.log2 : Int) - den.log2 - 52
  let (n, d) := scaled num den guess
  max (if n / d < Nat.pow 2 52 then guess - 1 else guess) minExponent

/-- The nearest number to `± num / den`. -/
def ofRatio (negative : Bool) (num den : Nat) : Binary64 :=
  if num = 0 then zero negative
  else
    let e := exponentOf num den
    let (n, d) := scaled num den e
    let m := roundDiv n d
    if m = Nat.pow 2 53 then
      if maxExponent < e + 1 then .infinite negative else .finite negative (Nat.pow 2 52) (e + 1)
    else if maxExponent < e then .infinite negative
    else .finite negative m e

/-- The nearest number to a rational; a zero is positive. -/
def ofRat (q : Rat) : Binary64 := ofRatio (decide (q < 0)) q.num.natAbs q.den

/-- The nearest number to an integer. -/
def ofInt (n : Int) : Binary64 := ofRatio (decide (n < 0)) n.natAbs 1

/-- Numerator and denominator of the magnitude of a significand and an exponent. -/
def magnitude (m : Nat) (e : Int) : Nat × Nat :=
  if 0 ≤ e then (m * Nat.pow 2 e.toNat, 1) else (m, Nat.pow 2 (-e).toNat)

/-- The rational that a finite number is. -/
def toRat? : Binary64 → Option Rat
  | .finite negative m e =>
    let (n, d) := magnitude m e
    some ((if negative then -(n : Int) else (n : Int) : Int) / (d : Rat))
  | _ => none

/-- Whether the number is zero of either sign. -/
def isZero : Binary64 → Bool
  | .finite _ 0 _ => true
  | _ => false

/-- Whether the sign bit is set. -/
def isNegative : Binary64 → Bool
  | .nan => false
  | .infinite negative => negative
  | .finite negative _ _ => negative

/-- The integer that is left when the fraction is cut off. -/
def truncate? : Binary64 → Option Int
  | .finite negative m e =>
    let (n, d) := magnitude m e
    some (if negative then -((n / d : Nat) : Int) else ((n / d : Nat) : Int))
  | _ => none

/-- The largest integer that is not above the number. -/
def floor? (x : Binary64) : Option Int := x.toRat?.map Rat.floor

/-- The integer that the number is, if it is one. -/
def toInt? : Binary64 → Option Int
  | .finite negative m e =>
    let (n, d) := magnitude m e
    if n % d = 0 then
      some (if negative then -((n / d : Nat) : Int) else ((n / d : Nat) : Int))
    else none
  | _ => none

/-- The number with its sign turned. -/
def neg : Binary64 → Binary64
  | .nan => .nan
  | .infinite negative => .infinite (!negative)
  | .finite negative m e => .finite (!negative) m e

/-- The sum; two zeros of different sign add up to the positive one. -/
def add : Binary64 → Binary64 → Binary64
  | .nan, _ => .nan
  | _, .nan => .nan
  | .infinite a, .infinite b => if a = b then .infinite a else .nan
  | .infinite a, _ => .infinite a
  | _, .infinite b => .infinite b
  | x, y =>
    if x.isZero && y.isZero then zero (x.isNegative && y.isNegative)
    else match x.toRat?, y.toRat? with
      | some p, some q => ofRat (p + q)
      | _, _ => .nan

/-- The difference. -/
def sub (x y : Binary64) : Binary64 := add x (neg y)

/-- The product; its sign is that of the factors taken together. -/
def mul (x y : Binary64) : Binary64 :=
  let negative := x.isNegative != y.isNegative
  match x, y with
  | .nan, _ => .nan
  | _, .nan => .nan
  | .infinite _, y => if y.isZero then .nan else .infinite negative
  | x, .infinite _ => if x.isZero then .nan else .infinite negative
  | .finite _ m e, .finite _ m' e' =>
    let (n, d) := magnitude m e
    let (n', d') := magnitude m' e'
    ofRatio negative (n * n') (d * d')

/-- The quotient of two numbers of which the second is not zero. -/
def div (x y : Binary64) : Binary64 :=
  let negative := x.isNegative != y.isNegative
  match x, y with
  | .nan, _ => .nan
  | _, .nan => .nan
  | .infinite _, .infinite _ => .nan
  | .infinite _, _ => .infinite negative
  | _, .infinite _ => zero negative
  | .finite _ m e, .finite _ m' e' =>
    let (n, d) := magnitude m e
    let (n', d') := magnitude m' e'
    if n' = 0 then (if n = 0 then .nan else .infinite negative)
    else ofRatio negative (n * d') (d * n')

/-- The remainder that has the sign of the dividend; it is always exact. -/
def remainder (x y : Binary64) : Binary64 :=
  match x, y with
  | .nan, _ => .nan
  | _, .nan => .nan
  | .infinite _, _ => .nan
  | x, .infinite _ => x
  | .finite a m e, .finite _ m' e' =>
    let (n, d) := magnitude m e
    let (n', d') := magnitude m' e'
    if n' = 0 then .nan else ofRatio a ((n * d') % (n' * d)) (d * d')

/-- Strict order; nothing is comparable with what is not a number. -/
def lt : Binary64 → Binary64 → Bool
  | .nan, _ => false
  | _, .nan => false
  | .infinite a, .infinite b => a && !b
  | .infinite a, _ => a
  | _, .infinite b => !b
  | x, y =>
    match x.toRat?, y.toRat? with
    | some p, some q => decide (p < q)
    | _, _ => false

/-- The integral number nearest to the quotient from below: the dividend less its remainder is
divided, the remainder first being brought to the side of the divisor, and the result is set
right if rounding left a fraction of more than a half. -/
def floorDiv (x y : Binary64) : Binary64 :=
  let rest := remainder x y
  let quotient := div (sub x rest) y
  let crossed := !rest.isZero && (lt y (zero false) != lt rest (zero false))
  let quotient := if crossed then sub quotient (ofInt 1) else quotient
  match quotient.floor? with
  | none => quotient
  | some whole =>
    if quotient.isZero then zero (x.isNegative != y.isNegative)
    else
      let below := ofInt whole
      if lt (ofRat (1 / 2)) (sub quotient below) then add below (ofInt 1) else below

end Binary64

end FluentQuery
