import FluentQuery.Number.Binary64

/-!
# The fewest digits that read back

Every real number strictly between the midpoints to its two neighbours rounds to a given binary
number, and the midpoints do too when its significand is even. `shortestDigits` looks for a
decimal number in that interval on ever finer grids, one digit, two digits and so on: a grid has
a point there only if one of the two points around the number itself is there. The nearer one is
taken, of two equally near ones the even one.
-/

namespace FluentQuery.Binary64

/-- A positive decimal number `digits · 10 ^ exponent`. -/
structure DecimalPoint where
  digits : Nat
  exponent : Int
  deriving DecidableEq, Inhabited

/-- Numerator and denominator of a decimal number. -/
def DecimalPoint.ratio (p : DecimalPoint) : Nat × Nat :=
  if 0 ≤ p.exponent then (p.digits * Nat.pow 10 p.exponent.toNat, 1)
  else (p.digits, Nat.pow 10 (-p.exponent).toNat)

/-- The interval of numbers that round to `m · 2 ^ e`, as multiples of `2 ^ (e - 2)`: half a unit
up, and half a unit down unless the neighbour below is at half the distance. -/
def roundingInterval (m : Nat) (e : Int) : Nat × Nat :=
  (if m = Nat.pow 2 52 ∧ minExponent < e then 4 * m - 1 else 4 * m - 2, 4 * m + 2)

/-- Whether a decimal number rounds to `m · 2 ^ e`. -/
def roundsTo (m : Nat) (e : Int) (p : DecimalPoint) : Bool :=
  let (low, high) := roundingInterval m e
  let (n, d) := p.ratio
  let (unit, whole) := magnitude 1 (e - 2)
  let value := n * whole
  let lower := low * unit * d
  let upper := high * unit * d
  if m % 2 = 0 then lower ≤ value && value ≤ upper else lower < value && value < upper

/-- The number of decimal digits of a natural number. -/
def digitCount (n : Nat) : Nat := (Nat.toDigits 10 n).length

/-- An exponent `k` with `10 ^ (k - 1) ≤ num / den < 10 ^ k`. -/
def decimalExponent (num den : Nat) : Int :=
  if den ≤ num then digitCount (num / den)
  else
    let k := digitCount ((den - 1) / num)
    if num * Nat.pow 10 k < den then -(k : Int) else 1 - (k : Int)

/-- The point of the grid of `count` digits that rounds to `m · 2 ^ e`, if there is one. -/
def gridPoint? (m : Nat) (e : Int) (count : Nat) : Option DecimalPoint :=
  let (n, d) := magnitude m e
  let exponent := decimalExponent n d - count
  let (num, den) :=
    if 0 ≤ exponent then (n, d * Nat.pow 10 exponent.toNat)
    else (n * Nat.pow 10 (-exponent).toNat, d)
  let below : DecimalPoint := ⟨num / den, exponent⟩
  let above : DecimalPoint := ⟨num / den + 1, exponent⟩
  let rest := num % den
  match roundsTo m e below, roundsTo m e above with
  | false, false => none
  | true, false => some below
  | false, true => some above
  | true, true =>
    if 2 * rest < den then some below
    else if den < 2 * rest then some above
    else if below.digits % 2 = 0 then some below else some above

/-- A decimal number without zeros at its end. -/
def DecimalPoint.trim : Nat → DecimalPoint → DecimalPoint
  | 0, p => p
  | fuel + 1, p =>
    if p.digits % 10 = 0 && p.digits != 0 then trim fuel ⟨p.digits / 10, p.exponent + 1⟩ else p

/-- The first grid, from `count` digits on, that has a point in the interval. -/
def searchGrids (m : Nat) (e : Int) : Nat → Nat → Option DecimalPoint
  | 0, _ => none
  | fuel + 1, count =>
    match gridPoint? m e count with
    | some p => some p
    | none => searchGrids m e fuel (count + 1)

/-- The decimal number of fewest digits that rounds to `m · 2 ^ e`, for a positive `m`. Seventeen
digits always suffice. -/
def shortestDigits (m : Nat) (e : Int) : DecimalPoint :=
  ((searchGrids m e 17 1).getD ⟨0, 0⟩).trim 20

end FluentQuery.Binary64
