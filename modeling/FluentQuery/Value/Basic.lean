import FluentQuery.Number.Decimal
import FluentQuery.Calendar.DateTime

/-!
# Values

What callers bind to a statement, what drivers return in rows and what decoding makes of it are
values of one dynamic type. Numbers of different kinds are equal when they are the same number;
`true` is one and `false` is zero in that comparison.
-/

namespace FluentQuery

/-- The shape of a decoded record. -/
inductive RecordShape where
  | model
  | dataclass
  deriving DecidableEq, Inhabited

/-- A value of any kind. -/
inductive Value where
  | null
  | bool (b : Bool)
  | int (n : Int)
  | float (x : Binary64)
  | decimal (d : Decimal)
  | text (s : String)
  | bytes (b : List UInt8)
  | date (d : Date)
  | datetime (t : DateTime)
  | list (items : List Value)
  | tuple (items : List Value)
  | dict (entries : List (Value × Value))
  | member (enumeration label : String) (value : Value)
  | record (shape : RecordShape) (name : String) (fields : List (String × Value))
  deriving Inhabited, BEq

namespace Value

/-- The name of a value's kind in error texts. -/
def kindName : Value → String
  | .null => "NoneType"
  | .bool _ => "bool"
  | .int _ => "int"
  | .float _ => "float"
  | .decimal _ => "decimal.Decimal"
  | .text _ => "str"
  | .bytes _ => "bytes"
  | .date _ => "datetime.date"
  | .datetime _ => "datetime.datetime"
  | .list _ => "list"
  | .tuple _ => "tuple"
  | .dict _ => "dict"
  | .member enumeration _ _ => enumeration
  | .record _ name _ => name

/-- Whether a value counts as present: no empty text or collection, no zero, not null. -/
def isTruthy : Value → Bool
  | .null => false
  | .bool b => b
  | .int n => n != 0
  | .float x => !x.isZero
  | .decimal d => d.isTruthy
  | .text s => !s.isEmpty
  | .bytes b => !b.isEmpty
  | .list items => !items.isEmpty
  | .tuple items => !items.isEmpty
  | .dict entries => !entries.isEmpty
  | _ => true

/-- The rational that a number is. -/
def toRat? : Value → Option Rat
  | .bool b => some (if b then 1 else 0)
  | .int n => some n
  | .float x => x.toRat?
  | .decimal d => d.toRat?
  | _ => none

/-- Whether two values that are not collections are equal. -/
def equalsAtom (a b : Value) : Bool :=
  match a.toRat?, b.toRat? with
  | some p, some q => p == q
  | _, _ =>
    match a, b with
    | .null, .null => true
    | .text s, .text t => s == t
    | .bytes s, .bytes t => s == t
    | .date s, .date t => s == t
    | .datetime s, .datetime t => s == t
    | .float (.infinite s), .float (.infinite t) => s == t
    | .decimal (.infinite s), .decimal (.infinite t) => s == t
    | .float (.infinite s), .decimal (.infinite t) => s == t
    | .decimal (.infinite s), .float (.infinite t) => s == t
    | _, _ => false

mutual

/-- Whether two values are equal: numbers by value, sequences of one kind item by item. -/
def equals : Value → Value → Bool
  | .list xs, .list ys => equalsAll xs ys
  | .tuple xs, .tuple ys => equalsAll xs ys
  | a, b => equalsAtom a b

/-- Whether two lists of values are equal item by item. -/
def equalsAll : List Value → List Value → Bool
  | [], [] => true
  | x :: xs, y :: ys => equals x y && equalsAll xs ys
  | _, _ => false

end

theorem equals_text (s t : String) : (text s).equals (text t) = (s == t) := by
  simp only [equals, equalsAtom, toRat?]

end Value

/-- The entries of a dictionary in insertion order. -/
abbrev Entries := List (Value × Value)

namespace Entries

/-- The value under a key. -/
def get? (key : Value) : Entries → Option Value
  | [] => none
  | (k, v) :: rest => if k.equals key then some v else get? key rest

/-- Puts a value under a key: a new key goes to the end, an old one keeps its place. -/
def insert (key value : Value) : Entries → Entries
  | [] => [(key, value)]
  | (k, v) :: rest => if k.equals key then (k, value) :: rest else (k, v) :: insert key value rest

/-- The dictionary of a list of pairs: each key stands where it first came, with its last value. -/
def ofPairs (pairs : List (Value × Value)) : Entries :=
  pairs.foldl (fun entries p => insert p.1 p.2 entries) []

end Entries

end FluentQuery
