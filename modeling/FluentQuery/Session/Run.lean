import FluentQuery.Session.Operation

/-!
# Sessions

A session runs operations one after another; one that fails does not stop the next. A new query
is kept before its first calls are made, so that it keeps those before a rejected one; an adapter
that cannot be made or connected leaves its name empty.
-/

namespace FluentQuery

/-- All that operations share. -/
structure Session where
  configuration : Configuration := {}
  logging : LogSetup := {}
  registry : Registry := .builtIn
  queries : List (String × Query) := []
  adapters : List (String × Adapter) := []
  deriving Inhabited

namespace Session

/-- Puts something under a name. -/
def put {α : Type} (name : String) (a : α) : List (String × α) → List (String × α)
  | [] => [(name, a)]
  | (n, b) :: rest => if n = name then (n, a) :: rest else (n, b) :: put name a rest

/-- Removes what is under a name. -/
def erase {α : Type} (name : String) (entries : List (String × α)) : List (String × α) :=
  entries.filter fun e => e.1 != name

/-- Keeps a query under a name. -/
def keepQuery (name : String) (q : Query) : Action Session Unit :=
  Action.update fun s => { s with queries := put name q s.queries }

/-- Keeps an adapter under a name. -/
def keepAdapter (name : String) (a : Adapter) : Action Session Unit :=
  Action.update fun s => { s with adapters := put name a s.adapters }

/-- The query under a name. -/
def findQuery (name : String) : Action Session Query := do
  match (← Action.current).queries.lookup name with
  | some q => return q
  | none => throw (.missing "wrapper" name)

/-- The adapter under a name. -/
def findAdapter (name : String) : Action Session Adapter := do
  match (← Action.current).adapters.lookup name with
  | some a => return a
  | none => throw (.missing "adapter" name)

/-- Runs an action that needs settings alone. -/
def configured {α : Type} (act : Action Configuration α) : Action Session α :=
  act.zoom configuration fun c s => { s with configuration := c }

/-- Makes a new query and its first calls. -/
def start (name : String) (s : QueryStart) : Action Session Query := do
  let dialect ← configured (Compile.dialect s.dialect)
  let (q, failure) := ({ dialect } : Query).chain s.chain
  keepQuery name q
  match failure with
  | none => return q
  | some e => throw e

/-- The query under a name, which is made anew if there is a start for it. -/
def startOrFind (name : String) : Option QueryStart → Action Session Query
  | some s => start name s
  | none => findQuery name

/-- Runs an operation of the adapter under a name. -/
def onAdapter {α : Type} (name : String) (act : Action Adapter α) : Action Session α := do
  let a ← findAdapter name
  act.zoom (fun s => (s.adapters.lookup name).getD a)
    fun a s => { s with adapters := put name a s.adapters }

/-- Runs a terminal operation with the adapter under a name. -/
def onContext {α : Type} (name : String) (act : Action Context α) : Action Session α := do
  let a ← findAdapter name
  act.zoom (fun s => ⟨s.configuration, (s.adapters.lookup name).getD a⟩)
    fun c s =>
      { s with configuration := c.configuration, adapters := put name c.adapter s.adapters }

/-- Runs a terminal operation of a query. -/
def terminal (q : Query) : TerminalCall → Action Context Reply
  | .fetchAll table type => do return .value (.list (← q.fetchAll table type))
  | .fetchOne table type => do return .value ((← q.fetchOne table type).getD .null)
  | .count table => do return .value (.int (← q.count table))
  | .fetchPage table pageNo pageSize type => do
    return .page (← q.fetchPage table pageNo pageSize type)
  | .delete table allowFullTable => do return .value (← q.delete table allowFullTable)

/-- Runs an operation of an adapter. -/
def adapterCall : AdapterCall → Action Adapter Reply
  | .connect => do
    Adapter.connect
    return .value .null
  | .disconnect => do
    Adapter.disconnect
    return .value .null
  | .describe => do return .value (← Action.ofExcept (← Action.current).describe)
  | .isConnected => do return .value (.bool (← Action.current).connected)
  | .healthCheck => do return .value (.bool (← Adapter.healthCheck))
  | .execute sql params => do
    return .execution (← Action.current).engine (← Adapter.execute sql params)
  | .executeQuery sql params => do
    return .value (.list ((← Adapter.executeQuery sql params).map .dict))
  | .executeCount sql params => do return .value (.int (← Adapter.executeCount sql params))
  | .executeUpdate sql params => do return .value (← Adapter.executeUpdate sql params)
  | .prepare sql params => do
    let values ← Action.ofExcept (boundValues params)
    let (driverSql, driverParams) := (← Action.current).engine.prepare sql values
    return .value (.tuple [.text driverSql, .list driverParams])
  | .executeScript script => do
    Adapter.executeScript script
    return .value .null
  | .enter => do
    Adapter.connect
    return .value (.bool true)
  | .leave => do
    Adapter.disconnect
    return .value (.bool false)

/-- Changes the environment. -/
def changeEnvironment (changes : List (String × Option String)) (file : Option String)
    (e : Environment) : Environment :=
  let e := changes.foldl (fun e change =>
    match change.2 with
    | some value => e.set change.1 value
    | none => e.unset change.1) e
  match file with
  | some content => { e with file := some content }
  | none => e

/-- Writes a report to the log by the log method with a name. -/
def logReport (r : Report) (method : String) : Action Session Reply := do
  let text ← Action.ofExcept r.logText
  match Severity.ofMethod? method with
  | some severity =>
    Action.log .errors severity text
    return .report r
  | none => throw (.misuse (.noLogMethod method))

/-- The level to configure logging with: null stands for the one of the settings. -/
def logLevel : Value → Action Configuration Value
  | .null => do return .text (← Action.settings).logLevel
  | v => return v

/-- Configures logging. -/
def configureLogging (level : Value) : Action Session Reply := do
  let level ← configured (logLevel level)
  let (result, logging) := (← Action.current).logging.configure level
  Action.update fun s => { s with logging }
  match result with
  | .ok () => return .done
  | .error e => throw e

/-- The action of an operation. -/
def perform : Operation → Action Session Reply
  | .new name s => do return .query (← start name s)
  | .call name c => do
    let q ← findQuery name
    let q ← Action.ofExcept (q.call c)
    keepQuery name q
    return .clauses q.clauses
  | .copy name target => do
    let q ← findQuery name
    keepQuery target q
    return .clauses q.clauses
  | .clauses name => do return .clauses (← findQuery name).clauses
  | .quoted name => do return .value (.text (← Action.ofExcept (← findQuery name).shown))
  | .build name s table => do
    let q ← startOrFind name s
    return .statement (← configured (q.build table))
  | .compile name s dialect kind table => do
    let q ← startOrFind name s
    let dialect ← configured (Compile.dialect dialect)
    return .statement (← configured (match kind with
      | .select o => Compile.select dialect q.clauses table o
      | .count => Compile.count dialect q.clauses table
      | .delete => Compile.delete q.clauses table))
  | .terminal query adapter c => do
    let q ← findQuery query
    onContext adapter (terminal q c)
  | .adapter name source options connect driver files => do
    Action.update fun s => { s with adapters := erase name s.adapters }
    keepAdapter name (← Action.ofExcept
      (source.make (← Action.current).registry options driver files))
    if connect then onAdapter name Adapter.connect
    return .adapter (← findAdapter name)
  | .adapterCall name c installed =>
    onAdapter name do
      Action.update fun a => { a with installed }
      let result ← Action.attempt (adapterCall c)
      Action.update fun a => { a with installed := true }
      Action.ofExcept result
  | .register name engine => do
    Action.update fun s => { s with registry := s.registry.register name engine }
    Action.log .registry .debug ("Registered adapter for engine: " ++ name)
    return .value (.list ((← Action.current).registry.names.map .text))
  | .engines => do return .value (.list ((← Action.current).registry.names.map .text))
  | .logReport r method => logReport r method
  | .environment changes file reset => do
    configured (Action.update fun c =>
      let c := { c with environment := changeEnvironment changes file c.environment }
      if reset then c.reset else c)
    return .done
  | .settings => do return .settings (← configured Action.settings)
  | .configureLogging level => configureLogging level

/-- The adapter that an operation works with. -/
def adapterOf? : Operation → Option String
  | .terminal _ adapter _ => some adapter
  | .adapter name _ _ _ _ _ => some name
  | .adapterCall name _ _ => some name
  | _ => none

/-- Whether an operation makes its adapter anew. -/
def makesAdapter : Operation → Bool
  | .adapter _ _ _ _ _ _ => true
  | _ => false

/-- The calls that an adapter has made, if there is one under the name. -/
def callsOf (name : String) (s : Session) : List DriverCall :=
  ((s.adapters.lookup name).map Adapter.calls).getD []

/-- The calls that the driver saw during an operation; there are none to tell of when something is
missing. -/
def callsDuring (op : Operation) (result : Except Failure Reply) (before after : Session) :
    Option (List DriverCall) :=
  match result, adapterOf? op with
  | .error (.missing _ _), _ => none
  | _, none => none
  | _, some name =>
    some ((callsOf name after).drop (if makesAdapter op then 0 else (callsOf name before).length))

/-- Drops an adapter that could not be connected. -/
def dropFailed (op : Operation) (result : Except Failure Reply) (s : Session) : Session :=
  match op, result with
  | .adapter name _ _ _ _ _, .error _ => { s with adapters := erase name s.adapters }
  | _, _ => s

/-- The clauses after a call. -/
def clausesAfter? (op : Operation) (s : Session) : Option Clauses :=
  match op with
  | .call name _ => (s.queries.lookup name).map Query.clauses
  | _ => none

/-- Runs an operation. -/
def run (op : Operation) (s : Session) : Response × Session :=
  let (result, left) := (perform op).start s
  ({ result
     after := clausesAfter? op left.state
     calls := callsDuring op result s left.state
     records := left.journal.filter left.state.logging.shows },
    dropFailed op result left.state)

end Session

end FluentQuery
