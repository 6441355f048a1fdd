import FluentQuery.Adapter.Connect
import FluentQuery.Text.LetterCase

/-!
# The registry of engines

Engines are registered under names in which the case of letters does not count; a later
registration replaces an earlier one. The names are kept in order.
-/

namespace FluentQuery

/-- Engines under names in small letters, in order. -/
structure Registry where
  entries : List (String × Engine)
  deriving Inhabited, DecidableEq

namespace Registry

/-- The engines that are built in. -/
def builtIn : Registry := ⟨[("duckdb", .duckdb), ("postgres", .postgres), ("sqlite", .sqlite)]⟩

/-- Puts an engine under a name at its place in order. -/
def put (name : String) (engine : Engine) : List (String × Engine) → List (String × Engine)
  | [] => [(name, engine)]
  | (n, e) :: rest =>
    if n = name then (name, engine) :: rest
    else if name < n then (name, engine) :: (n, e) :: rest
    else (n, e) :: put name engine rest

/-- Registers an engine. -/
def register (r : Registry) (name : String) (engine : Engine) : Registry :=
  ⟨put (Text.lower name) engine r.entries⟩

/-- The registered names. -/
def names (r : Registry) : List String := r.entries.map Prod.fst

/-- The engine under a name. -/
def resolve? (r : Registry) (name : String) : Option Engine := r.entries.lookup (Text.lower name)

/-- Makes an adapter for the engine under a name. -/
def make (r : Registry) (name options : Value) (driver : Driver) (files : Path.Files) :
    Except Failure Adapter :=
  match name with
  | .text s =>
    match r.resolve? s with
    | some engine => Adapter.make engine options driver files
    | none =>
      .error (Adapter.connectionError s
        ("Unsupported engine: " ++ s ++ ". Available: " ++ joinWith ", " r.names))
  | v => .error (.misuse (.noMember v.kindName "lower"))

end Registry

end FluentQuery
