import FluentQuery.Text.Blank
import FluentQuery.Value.Printed

/-!
# Reading integers

* **`readInteger?`** — a numeral with an optional sign and single underscores between digits,
  where a function tells which characters are digits;
* **`Value.toInteger`** — the integer a value stands for: a number is cut to its integral part, a
  text or bytes must be a numeral with blanks around it at most. `IntegerFault` says why a value
  stands for none, or why one cannot be written.
-/

namespace FluentQuery

/-- Reads digits with single underscores between them. `acc` is the value so far, `fresh` tells
that a digit must come next. -/
def readDigits? (digit? : Char → Option Nat) : Nat → Bool → List Char → Option Nat
  | acc, fresh, [] => if fresh then none else some acc
  | acc, fresh, c :: rest =>
    if c == '_' then (if fresh then none else readDigits? digit? acc true rest)
    else
      match digit? c with
      | some d => readDigits? digit? (10 * acc + d) false rest
      | none => none

/-- Reads a numeral with an optional sign. -/
def readInteger? (digit? : Char → Option Nat) (cs : List Char) : Option Int :=
  let (negative, digits) := takeSign cs
  (readDigits? digit? 0 true digits).map fun n => if negative then -(n : Int) else n

/-- Blanks that may stand around a numeral: white space without the information separators. -/
def isSpacing (c : Char) : Bool := Text.isBlankChar c && !(0x1C ≤ c.toNat && c.toNat ≤ 0x1F)

/-- Drops spacing at both ends. -/
def trimSpacing (cs : List Char) : List Char :=
  ((cs.dropWhile isSpacing).reverse.dropWhile isSpacing).reverse

/-- Blank characters of ASCII, the only ones that bytes have. -/
def isAsciiBlank (c : Char) : Bool := c == ' ' || (9 ≤ c.toNat && c.toNat ≤ 13)

/-- Why a value stands for no integer, or an integer in it cannot be written. -/
inductive IntegerFault where
  | notANumeral (shown : String)
  | tooManyDigits (count : Nat)
  | notANumber (written : String)
  | infinite (written : String)
  | wrongKind (kind : String)
  | unwritable
  deriving DecidableEq, Inhabited

/-- The wording of a fault. A numeral is shown up to a length of 200 characters. -/
def IntegerFault.message : IntegerFault → String
  | .notANumeral shown =>
    "invalid literal for int() with base 10: " ++ String.ofList (shown.toList.take 200)
  | .tooManyDigits count =>
    "Exceeds the limit (" ++ intText maxNumeralDigits ++
      " digits) for integer string conversion: value has " ++ intText count ++
      " digits; use sys.set_int_max_str_digits() to increase the limit"
  | .notANumber written => "cannot convert " ++ written ++ " to integer"
  | .infinite written => "cannot convert " ++ written ++ " to integer"
  | .wrongKind kind =>
    "int() argument must be a string, a bytes-like object or a real number, not '" ++ kind ++ "'"
  | .unwritable =>
    "Exceeds the limit (" ++ intText maxNumeralDigits ++
      " digits) for integer string conversion; use sys.set_int_max_str_digits() to increase the limit"

/-- The integer that a numeral writes. -/
def readNumeral (digit? : Char → Option Nat) (shown : String) (cs : List Char) :
    Except IntegerFault Int :=
  match readInteger? digit? cs with
  | none => .error (.notANumeral shown)
  | some n =>
    let count := (cs.filter fun c => (digit? c).isSome).length
    if maxNumeralDigits < count then .error (.tooManyDigits count) else .ok n

namespace Value

/-- The integer that a value stands for. -/
def toInteger : Value → Except IntegerFault Int
  | .bool b => .ok (if b then 1 else 0)
  | .int n => .ok n
  | .float x =>
    match x with
    | .nan => .error (.notANumber "float NaN")
    | .infinite _ => .error (.infinite "float infinity")
    | x => .ok (x.truncate?.getD 0)
  | .decimal d =>
    match d with
    | .nan _ _ _ => .error (.notANumber "NaN")
    | .infinite _ => .error (.infinite "Infinity")
    | d => .ok (d.truncate?.getD 0)
  | .text s => readNumeral Text.digitValue? (Text.quoted s) (trimSpacing s.toList)
  | .bytes b =>
    let cs := b.map fun byte => Char.ofNat byte.toNat
    let inner := ((cs.dropWhile isAsciiBlank).reverse.dropWhile isAsciiBlank).reverse
    readNumeral Text.asciiDigit? (Text.quotedBytes b) inner
  | v => .error (.wrongKind v.kindName)

end Value

end FluentQuery
