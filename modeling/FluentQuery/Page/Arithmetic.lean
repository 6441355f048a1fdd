import FluentQuery.Error.Failure

/-!
# Arithmetic on values

Sums, differences, products, floored quotients and the order of values of any kind. Integers stay
exact, a float makes the result a float, and decimals go together with integers alone. Texts,
bytes, lists and tuples can be joined and repeated; anything else is a misuse.
-/

namespace FluentQuery

/-- A number. -/
inductive Numeric where
  | integer (n : Int)
  | float (x : Binary64)
  | decimal (d : Decimal)
  deriving Inhabited

namespace Numeric

/-- An integer as a float. -/
def widen (n : Int) : Except Misuse Binary64 :=
  match Binary64.ofInt n with
  | .infinite _ => .error .floatTooLarge
  | x => .ok x

/-- The result of an operation on decimals as a value. -/
def ofSignal (r : Except Decimal.Signal Decimal) : Except Misuse Value :=
  match r with
  | .ok d => .ok (.decimal d)
  | .error s => .error (.decimalSignal s)

/-- An operation on numbers, given for each of their kinds; nothing if the kinds do not go
together. -/
def combine (ints : Int → Int → Except Misuse Int)
    (floats : Binary64 → Binary64 → Except Misuse Binary64)
    (decimals : Decimal → Decimal → Except Decimal.Signal Decimal) :
    Numeric → Numeric → Option (Except Misuse Value)
  | .integer a, .integer b => some ((ints a b).map .int)
  | .integer a, .float y => some (do return .float (← floats (← widen a) y))
  | .float x, .integer b => some (do return .float (← floats x (← widen b)))
  | .float x, .float y => some ((floats x y).map .float)
  | .integer a, .decimal e => some (ofSignal (decimals (.ofInt a) e))
  | .decimal d, .integer b => some (ofSignal (decimals d (.ofInt b)))
  | .decimal d, .decimal e => some (ofSignal (decimals d e))
  | .float _, .decimal _ => none
  | .decimal _, .float _ => none

/-- The place of a number in order: below, among or above all rationals. -/
def rank : Numeric → Option (Int × Rat)
  | .integer n => some (0, n)
  | .float .nan => none
  | .float (.infinite negative) => some (if negative then -1 else 1, 0)
  | .float x => x.toRat?.map fun q => (0, q)
  | .decimal (.nan _ _ _) => none
  | .decimal (.infinite negative) => some (if negative then -1 else 1, 0)
  | .decimal d => d.toRat?.map fun q => (0, q)

/-- Whether a number is a decimal. -/
def isDecimal : Numeric → Bool
  | .decimal _ => true
  | _ => false

/-- Whether a number is smaller than another. -/
def lt (a b : Numeric) : Except Misuse Bool :=
  match a.rank, b.rank with
  | some (i, p), some (j, q) => .ok (decide (i < j) || (i == j && decide (p < q)))
  | _, _ =>
    if a.isDecimal || b.isDecimal then .error (.decimalSignal .invalidOperation) else .ok false

end Numeric

namespace Value

/-- The number that a value is. -/
def numeric? : Value → Option Numeric
  | .bool b => some (.integer (if b then 1 else 0))
  | .int n => some (.integer n)
  | .float x => some (.float x)
  | .decimal d => some (.decimal d)
  | _ => none

/-- An operation on two numbers, or the complaint about its operands. -/
def arithmetic (symbol : String) (op : Numeric → Numeric → Option (Except Misuse Value))
    (a b : Value) : Except Misuse Value :=
  let refused : Except Misuse Value := .error (.operands symbol a.kindName b.kindName)
  match a.numeric?, b.numeric? with
  | some x, some y => (op x y).getD refused
  | _, _ => refused

/-- The sum of two values, or one joined to the other. -/
def add (a b : Value) : Except Misuse Value :=
  match a, b with
  | .text s, .text t => .ok (.text (s ++ t))
  | .bytes s, .bytes t => .ok (.bytes (s ++ t))
  | .list s, .list t => .ok (.list (s ++ t))
  | .tuple s, .tuple t => .ok (.tuple (s ++ t))
  | .text _, _ | .bytes _, _ | .list _, _ | .tuple _, _ =>
    .error (.concatenation a.kindName b.kindName)
  | _, _ =>
    arithmetic "+"
      (Numeric.combine (fun m n => .ok (m + n)) (fun x y => .ok (x.add y)) Decimal.add) a b

/-- The difference of two values. -/
def sub (a b : Value) : Except Misuse Value :=
  arithmetic "-"
    (Numeric.combine (fun m n => .ok (m - n)) (fun x y => .ok (x.sub y)) Decimal.sub) a b

/-- The quotient of two values, rounded down. -/
def floorDiv (a b : Value) : Except Misuse Value :=
  arithmetic "//"
    (Numeric.combine
      (fun m n => if n = 0 then .error (.divisionByZero false) else .ok (m.fdiv n))
      (fun x y => if y.isZero then .error (.divisionByZero true) else .ok (x.floorDiv y))
      Decimal.floorDiv) a b

/-- Items a number of times. -/
def repeated {α : Type} (items : List α) (n : Int) : List α :=
  (List.replicate n.toNat items).flatten

/-- The product of two values, or one repeated. -/
def mul (a b : Value) : Except Misuse Value :=
  let times (wrap : Int → Value) : Except Misuse Value :=
    match b.numeric? with
    | some (.integer n) => .ok (wrap n)
    | _ => .error (.repetition b.kindName)
  match a with
  | .text s => times fun n => .text (String.ofList (repeated s.toList n))
  | .bytes s => times fun n => .bytes (repeated s n)
  | .list s => times fun n => .list (repeated s n)
  | .tuple s => times fun n => .tuple (repeated s n)
  | _ =>
    arithmetic "*"
      (Numeric.combine (fun m n => .ok (m * n)) (fun x y => .ok (x.mul y)) Decimal.mul) a b

/-- Whether a value is smaller than another. -/
def lt (a b : Value) : Except Misuse Bool :=
  match a.numeric?, b.numeric? with
  | some x, some y => x.lt y
  | _, _ => .error (.ordering a.kindName b.kindName)

/-- The items of a value that can be gone through: of a text its characters, of bytes their
numbers, of a dictionary its keys. -/
def items? : Value → Except Misuse (List Value)
  | .list items => .ok items
  | .tuple items => .ok items
  | .text s => .ok (s.toList.map fun c => .text (String.ofList [c]))
  | .bytes b => .ok (b.map fun byte => .int byte.toNat)
  | .dict entries => .ok (entries.map Prod.fst)
  | v => .error (.notIterable v.kindName)

end Value

end FluentQuery
