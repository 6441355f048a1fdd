import FluentQuery.Text.LetterCase

/-!
# The environment

Variables are kept in the order in which they were first set. Names count without regard to the
case of their letters, and of two names that differ only in case the later one wins.
-/

namespace FluentQuery

/-- Variables with their values, and the content of the file beside the program if there is one. -/
structure Environment where
  bindings : List (String × String) := []
  file : Option String := none
  deriving Inhabited, DecidableEq

namespace Environment

/-- Puts a value under a name: a new name goes to the end, an old one keeps its place. -/
def put (name value : String) : List (String × String) → List (String × String)
  | [] => [(name, value)]
  | (n, v) :: rest => if n == name then (n, value) :: rest else (n, v) :: put name value rest

/-- Sets a variable. -/
def set (e : Environment) (name value : String) : Environment :=
  { e with bindings := put name value e.bindings }

/-- Removes a variable. -/
def unset (e : Environment) (name : String) : Environment :=
  { e with bindings := e.bindings.filter (·.1 != name) }

/-- The value under a name in small letters; of several the last. -/
def folded {α : Type} (name : String) (bindings : List (String × α)) : Option α :=
  bindings.foldl (fun found v => if Text.lower v.1 == name then some v.2 else found) none

/-- The value of the variable with a name in small letters. -/
def get? (e : Environment) (name : String) : Option String := folded name e.bindings

end Environment

end FluentQuery
