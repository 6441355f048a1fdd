import FluentQuery.Adapter.Basic

/-!
# Connecting

Connecting opens a connection unless the adapter counts as connected already; disconnecting gives
up the connection first and then closes it, so that it is closed once whatever the driver does.
-/

namespace FluentQuery.Adapter

/-- What an adapter passes to its driver to connect. -/
def target (a : Adapter) : Except Failure (List Value × List (String × Value)) :=
  match a.engine with
  | .sqlite | .other => do
    let readOnly := (a.option "read_only" (.bool false)).isTruthy && !isMemory a.database
    let place ← if readOnly then (Path.readOnlyTarget a.files a.database).map Value.text
      else .ok a.database
    return ([place],
      [("uri", .bool readOnly), ("timeout", a.option "timeout" (.float (.ofInt 30))),
        ("isolation_level", a.option "isolation_level" .null)])
  | .duckdb =>
    if !a.installed then
      .error (connectionError a.engine.name
        "DuckDB not installed. Run: pip install querywrapper[duckdb]")
    else .ok ([], [("database", a.database), ("read_only", a.option "read_only" (.bool false))])
  | .postgres => do
    if !a.installed then
      throw (connectionError a.engine.name
        "psycopg2 not installed. Run: pip install querywrapper[postgres]")
    if ← Options.has a.options "dsn" then return ([← Options.required a.options "dsn"], [])
    return ([],
      [("host", ← Options.required a.options "host"),
        ("port", ← Options.optional a.options "port" (.int 5432)),
        ("dbname", ← Options.required a.options "database"),
        ("user", ← Options.required a.options "user"),
        ("password", ← Options.optional a.options "password" .null),
        ("sslmode", ← Options.optional a.options "sslmode" (.text "prefer")),
        ("connect_timeout", ← Options.optional a.options "connect_timeout" (.int 10))])
  | .fake => .ok ([.text "fake"], [])

/-- Opens a connection and holds it. -/
def openConnection : Action Adapter Unit := do
  let (positional, keywords) ← Action.ofExcept (← Action.current).target
  call (.connect positional keywords)
  Action.update fun a => { a with connection := some a.opened, opened := a.opened + 1 }

/-- Connects, unless connected. -/
def connect : Action Adapter Unit := do
  let a ← Action.current
  if a.connected then return
  match ← Action.attempt openConnection with
  | .ok () => pure ()
  | .error e =>
    match a.engine.ownFault? e with
    | some f =>
      throw (.connection ⟨"Failed to connect to " ++ a.engine.name ++ ": " ++ f.message,
        a.engine.name, some (.fault f)⟩)
    | none => throw e
  Action.update fun a => { a with connected := true }
  let place ← Action.ofExcept a.describe
  Action.log .adapter .info (a.engine.name ++ " connected: " ++ place.plain)

/-- Disconnects; an error of the driver while closing is only logged. -/
def disconnect : Action Adapter Unit := do
  let a ← Action.current
  Action.update fun a => { a with connection := none, connected := false }
  match a.connection with
  | none => return
  | some n =>
    match ← Action.attempt (call (.close n)) with
    | .ok () => return
    | .error e =>
      match a.engine.ownFault? e with
      | some f =>
        Action.log .adapter .warning
          ("Error closing " ++ a.engine.name ++ " connection: " ++ f.message)
      | none => throw e

end FluentQuery.Adapter
