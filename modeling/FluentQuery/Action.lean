import FluentQuery.Error.Failure
import FluentQuery.Log.Record

/-!
# Actions

An action works on a state and writes a journal of log records; it gives a result or fails. State
and journal stay as they are when it fails.

* **`Action.attempt`** — turns the failure of an action into a result;
* **`Action.zoom`** — an action on a part of a state as one on the whole.
-/

namespace FluentQuery

/-- A state with the records that have been written. -/
structure Journaled (σ : Type) where
  state : σ
  journal : List LogRecord := []

/-- An action on a state. -/
abbrev Action (σ α : Type) := ExceptT Failure (StateM (Journaled σ)) α

namespace Action

variable {σ τ α : Type}

/-- The state. -/
def current : Action σ σ := do return (← get).state

/-- Changes the state. -/
def update (f : σ → σ) : Action σ Unit := modify fun s => { s with state := f s.state }

/-- Writes a record. -/
def log (source : LogSource) (severity : Severity) (text : String) : Action σ Unit :=
  modify fun s => { s with journal := s.journal ++ [⟨source, severity, text⟩] }

/-- Runs an action for its result or its failure. -/
def attempt (act : Action σ α) : Action σ (Except Failure α) := ExceptT.mk do return .ok (← act.run)

/-- Gives a result or fails with one. -/
def ofExcept (r : Except Failure α) : Action σ α := ExceptT.mk (pure r)

/-- Runs an action on a part of the state. -/
def zoom (part : τ → σ) (put : σ → τ → τ) (act : Action σ α) : Action τ α :=
  ExceptT.mk fun s =>
    let (result, inner) := act.run.run ⟨part s.state, s.journal⟩
    (result, ⟨put inner.state s.state, inner.journal⟩)

/-- The result of an action on a state, with the state it leaves and the records it writes. -/
def start (act : Action σ α) (s : σ) : Except Failure α × Journaled σ := act.run.run ⟨s, []⟩

end Action

end FluentQuery
