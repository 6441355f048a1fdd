import FluentQuery.Error.Failure

/-!
# Drivers

A driver answers the calls that an adapter makes on its connections. It is any function of the
calls so far, so nothing is assumed of how it behaves: each call may raise a fault, a statement
may have any result, and a transaction may be open at any time.
-/

namespace FluentQuery

/-- A call to a driver. A connection is known by its number in the order of opening. -/
inductive DriverCall where
  | connect (positional : List Value) (keywords : List (String × Value))
  | cursor (connection : Nat)
  | execute (connection : Nat) (sql : String) (params : Option (List Value))
  | fetchAll (connection : Nat)
  | closeCursor (connection : Nat)
  | commit (connection : Nat)
  | rollback (connection : Nat)
  | script (connection : Nat) (text : String)
  | close (connection : Nat)
  deriving Inhabited, BEq

/-- The connection that a call is made on. -/
def DriverCall.connection? : DriverCall → Option Nat
  | .connect _ _ => none
  | .cursor n => some n
  | .execute n _ _ => some n
  | .fetchAll n => some n
  | .closeCursor n => some n
  | .commit n => some n
  | .rollback n => some n
  | .script n _ => some n
  | .close n => some n

/-- What a statement leaves behind: the names of its columns if it has any, its rows, and the
count of rows it changed if the driver tells. -/
structure Answer where
  columns : Option (List String) := none
  rows : List (List Value) := []
  rowCount : Option Value := none
  deriving Inhabited, BEq

/-- A driver, as functions of the calls so far, the last of which is the one in question. -/
structure Driver where
  /-- What the last call raises. -/
  fault : List DriverCall → Option Fault
  /-- What the statement executed last leaves behind. -/
  answer : List DriverCall → Answer
  /-- Whether a transaction is open after the calls. -/
  inTransaction : List DriverCall → Bool

/-- A driver whose calls never fail and whose statements have no result. -/
instance : Inhabited Driver := ⟨fun _ => none, fun _ => {}, fun _ => false⟩

end FluentQuery
