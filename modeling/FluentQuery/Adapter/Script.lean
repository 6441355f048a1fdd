import FluentQuery.Adapter.Driver

/-!
# Scripted drivers

A script lists what a driver does: a result for each statement in turn, and faults that every
call of a kind raises. When the results are used up a statement has no result.
-/

namespace FluentQuery

/-- What one statement does. -/
structure ScriptedResult where
  answer : Answer := {}
  fault : Option Fault := none
  fetchFault : Option Fault := none
  deriving Inhabited

/-- What a driver does. -/
structure Script where
  results : List ScriptedResult := []
  inTransaction : Bool := false
  connectFault : Option Fault := none
  cursorFault : Option Fault := none
  commitFault : Option Fault := none
  rollbackFault : Option Fault := none
  scriptFault : Option Fault := none
  closeFault : Option Fault := none
  deriving Inhabited

namespace Script

/-- The number of statements among calls. -/
def statementCount (calls : List DriverCall) : Nat :=
  calls.countP fun c =>
    match c with
    | .execute _ _ _ => true
    | _ => false

/-- The result of the statement executed last. -/
def lastResult (s : Script) (calls : List DriverCall) : ScriptedResult :=
  (s.results[statementCount calls - 1]?).getD {}

/-- The driver that follows a script. -/
def driver (s : Script) : Driver where
  fault calls :=
    match calls.getLast? with
    | some (.connect _ _) => s.connectFault
    | some (.cursor _) => s.cursorFault
    | some (.execute _ _ _) => (s.lastResult calls).fault
    | some (.fetchAll _) => (s.lastResult calls).fetchFault
    | some (.commit _) => s.commitFault
    | some (.rollback _) => s.rollbackFault
    | some (.script _ _) => s.scriptFault
    | some (.close _) => s.closeFault
    | some (.closeCursor _) => none
    | none => none
  answer calls := (s.lastResult calls).answer
  inTransaction _ := s.inTransaction

end Script

end FluentQuery
