import FluentQuery.Proofs.Action.Run
import FluentQuery.Session.Run

/-!
# What operations are built from

Compiling a statement, a terminal operation and an operation of a session are each built from few
parts. What holds of the parts, and of actions one after another, holds of them all.

* **`Action.Closed`** — a property of actions that the ways to build actions keep;
* **`Action.Closed.select`** and the others — such a property, if it holds of reading the settings,
  holds of compiling a statement;
* **`Action.Closed.terminal`** — and if it carries over to what works with an adapter, of terminal
  operations;
* **`Session.Hereditary.perform`** — and to what sessions add, of the operations of a session;
* **`Session.run_eq`** — what an operation answers and leaves, read off the run of its action.
-/

namespace FluentQuery

namespace Action

/-- A property of actions that the ways to build actions keep. -/
structure Closed {σ : Type} (P : ∀ {α : Type}, Action σ α → Prop) : Prop where
  pure : ∀ {α : Type} (x : α), P (pure x)
  throw : ∀ {α : Type} (e : Failure), P (throw e : Action σ α)
  log : ∀ source severity text, P (log source severity text)
  bind : ∀ {α β : Type} {act : Action σ α} {f : α → Action σ β},
    P act → (∀ x, P (f x)) → P (act >>= f)

namespace Closed

variable {σ : Type} {P : ∀ {α : Type}, Action σ α → Prop}

theorem ofExcept (h : Closed P) {α : Type} (r : Except Failure α) : P (ofExcept r) := by
  cases r with
  | ok x => exact h.pure x
  | error e => exact h.throw e

/-! ## Compiling -/

section Compiling

variable {Q : ∀ {α : Type}, Action Configuration α → Prop} (h : Closed Q) (hsettings : Q settings)
  (s : Clauses) (table : Value)

include h

theorem customHead (d : Value) : Q (Compile.customHead d s) := by
  refine h.bind (h.ofExcept _) fun sql => ?_
  simp only
  split
  · exact h.bind (h.log _ _ _) fun _ => h.pure _
  · exact h.pure _

include hsettings

theorem dialect (given : Value) : Q (Compile.dialect given) := by
  unfold Compile.dialect
  split
  · exact h.bind hsettings fun _ => h.pure _
  · split
    · exact h.pure _
    · exact h.throw _

theorem finish (statement : Statement) : Q (Compile.finish statement) := by
  refine h.bind hsettings fun settings => ?_
  split
  · exact h.bind (h.log _ _ _) fun _ => h.pure _
  · exact h.pure _

theorem select (d : Value) (o : Overrides) : Q (Compile.select d s table o) := by
  unfold Compile.select
  split
  · exact h.bind (h.customHead s d) fun _ => h.bind (h.ofExcept _) (h.finish hsettings)
  · exact h.bind (h.ofExcept _) (h.finish hsettings)

theorem count (d : Value) : Q (Compile.count d s table) := by
  unfold Compile.count
  split
  · exact h.bind (h.select hsettings _ _ d _) fun _ => h.finish hsettings _
  · exact h.bind (h.ofExcept _) (h.finish hsettings)

theorem delete : Q (Compile.delete s table) := h.bind (h.ofExcept _) (h.finish hsettings)

theorem checkPage (pageNo pageSize : Value) : Q (Query.checkPage pageNo pageSize) := by
  unfold Query.checkPage
  split
  · refine h.bind hsettings fun settings => ?_
    split
    · split
      · exact h.throw _
      · exact h.pure _
    · exact h.pure _
  · exact h.throw _

theorem logLevel (level : Value) : Q (Session.logLevel level) := by
  unfold Session.logLevel
  split
  · exact h.bind hsettings fun _ => h.pure _
  · exact h.pure _

end Compiling

/-! ## Terminal operations -/

section Terminal

variable {Q : ∀ {α : Type}, Action Configuration α → Prop}
  {P : ∀ {α : Type}, Action Context α → Prop} (hQ : Closed Q) (hsettings : Q settings)
  (hP : Closed P)
  (hcompile : ∀ {α : Type} {act : Action Configuration α}, Q act → P (Context.compile act))
  (hexecute : ∀ {α : Type} (act : Action Adapter α), P (Context.execute act))

include hQ hsettings hP hcompile hexecute

theorem fetchPage (q : Query) (table pageNo pageSize : Value) (type : Option Schema)
    (fit : Row.Fit) : P (q.fetchPage table pageNo pageSize type fit) := by
  refine hP.bind (hcompile (hQ.checkPage hsettings _ _)) fun checked => ?_
  refine hP.bind (hcompile (hQ.count hsettings _ _ _)) fun counting => ?_
  refine hP.bind (hcompile (hQ.select hsettings _ _ _ _)) fun reading => ?_
  refine hP.bind (hexecute _) fun total => ?_
  split
  · exact hP.bind (hP.ofExcept _) fun _ => hP.bind (hP.log _ _ _) fun _ => hP.ofExcept _
  · exact hP.bind (hexecute _) fun _ => hP.bind (hP.ofExcept _) fun _ =>
      hP.bind (hP.ofExcept _) fun _ => hP.bind (hP.log _ _ _) fun _ => hP.ofExcept _

theorem deleteRows (q : Query) (table : Value) (allowFullTable : Bool) :
    P (q.delete table allowFullTable) := by
  unfold Query.delete
  split
  · exact hP.throw _
  · exact hP.bind (hcompile (hQ.delete hsettings _ _)) fun _ => hP.bind (hexecute _) fun _ =>
      hP.bind (hP.ofExcept _) fun _ => hP.bind (hP.log _ _ _) fun _ => hP.pure _

theorem terminal (q : Query) (c : TerminalCall) : P (Session.terminal q c) := by
  cases c with
  | fetchAll table type =>
    refine hP.bind (hP.bind (hcompile (hQ.select hsettings _ _ _ _)) fun _ => ?_) fun _ => hP.pure _
    exact hP.bind (hexecute _) fun _ => hP.bind (hP.ofExcept _) fun _ =>
      hP.bind (hP.log _ _ _) fun _ => hP.ofExcept _
  | fetchOne table type =>
    refine hP.bind (hP.bind (hcompile (hQ.select hsettings _ _ _ _)) fun _ => ?_) fun _ => hP.pure _
    refine hP.bind (hexecute _) fun rows => ?_
    split
    · exact hP.bind (hP.ofExcept _) fun _ => hP.bind (hP.log _ _ _) fun _ => hP.pure _
    · exact hP.bind (hP.ofExcept _) fun _ => hP.pure _
  | count table =>
    exact hP.bind (hP.bind (hcompile (hQ.count hsettings _ _ _)) fun _ => hexecute _)
      fun _ => hP.pure _
  | fetchPage table pageNo pageSize type =>
    exact hP.bind (fetchPage hQ hsettings hP hcompile hexecute q _ _ _ _ _) fun _ => hP.pure _
  | delete table allowFullTable =>
    exact hP.bind (deleteRows hQ hsettings hP hcompile hexecute q _ _) fun _ => hP.pure _

end Terminal

end Closed

end Action

/-! ## Operations of a session -/

/-- Whether an operation neither makes an adapter nor changes the environment. -/
def Operation.isSteady : Operation → Bool
  | .adapter _ _ _ _ _ _ => false
  | .environment _ _ _ => false
  | _ => true

namespace Session

open FluentQuery.Action

/-- A property of the actions of a session that the ways to build them keep, if another holds of
those actions that need settings alone. -/
structure Hereditary (Q : ∀ {α : Type}, Action Configuration α → Prop)
    (P : ∀ {α : Type}, Action Session α → Prop) : Prop extends Closed P where
  configured : ∀ {α : Type} {act : Action Configuration α}, Q act → P (configured act)
  findQuery : ∀ name, P (findQuery name)
  keepQuery : ∀ name q, P (keepQuery name q)
  logging : ∀ {α : Type} {f : LogSetup → Action Session α},
    (∀ l, P (f l)) → P (current >>= fun s => f s.logging)
  setLogging : ∀ l, P (update fun s => { s with logging := l })
  registry : ∀ {α : Type} {f : Registry → Action Session α},
    (∀ r, P (f r)) → P (current >>= fun s => f s.registry)
  register : ∀ name engine,
    P (update fun s => { s with registry := s.registry.register name engine })
  adapterCall : ∀ name c installed, P (perform (.adapterCall name c installed))
  onContext : ∀ name q c, P (onContext name (terminal q c))

/-- What is left of configuring the logging once its present state `l` is known. -/
def relog (level : Value) (l : LogSetup) : Action Session Reply := do
  update fun s => { s with logging := (l.configure level).2 }
  match (l.configure level).1 with
  | .ok () => return .done
  | .error e => throw e

namespace Hereditary

variable {Q : ∀ {α : Type}, Action Configuration α → Prop}
  {P : ∀ {α : Type}, Action Session α → Prop}

section Operations

variable (h : Hereditary Q P) (hQ : Closed Q) (hsettings : Q settings)

include h hQ hsettings

theorem start (name : String) (q : QueryStart) : P (start name q) := by
  refine h.bind (h.configured (hQ.dialect hsettings _)) fun dialect => ?_
  refine h.bind (h.keepQuery _ _) fun _ => ?_
  split
  · exact h.pure _
  · exact h.throw _

theorem startOrFind (name : String) (q : Option QueryStart) : P (startOrFind name q) := by
  cases q with
  | none => exact h.findQuery name
  | some q => exact h.start hQ hsettings name q

theorem configureLogging (level : Value) : P (configureLogging level) := by
  refine h.bind (h.configured (hQ.logLevel hsettings level)) fun level => ?_
  refine h.logging (f := relog level) fun l => ?_
  refine h.bind (h.setLogging _) fun _ => ?_
  split
  · exact h.pure _
  · exact h.throw _

/-- **What the parts have in common all operations have.** -/
theorem perform {op : Operation} (hop : op.isSteady = true) : P (perform op) := by
  have hengines : P (Session.perform .engines) :=
    h.registry (f := fun r => pure (Reply.value (.list (r.names.map .text)))) fun _ => h.pure _
  cases op with
  | new name q => exact h.bind (h.start hQ hsettings name q) fun _ => h.pure _
  | call name c =>
    exact h.bind (h.findQuery name) fun _ => h.bind (h.ofExcept _) fun _ =>
      h.bind (h.keepQuery _ _) fun _ => h.pure _
  | copy name target =>
    exact h.bind (h.findQuery name) fun _ => h.bind (h.keepQuery _ _) fun _ => h.pure _
  | clauses name => exact h.bind (h.findQuery name) fun _ => h.pure _
  | quoted name =>
    exact h.bind (h.findQuery name) fun _ => h.bind (h.ofExcept _) fun _ => h.pure _
  | build name q table =>
    exact h.bind (h.startOrFind hQ hsettings name q) fun _ =>
      h.bind (h.configured (hQ.select hsettings _ _ _ _)) fun _ => h.pure _
  | compile name q dialect kind table =>
    refine h.bind (h.startOrFind hQ hsettings name q) fun _ => ?_
    refine h.bind (h.configured (hQ.dialect hsettings _)) fun _ => ?_
    refine h.bind (h.configured ?_) fun _ => h.pure _
    cases kind with
    | select o => exact hQ.select hsettings _ _ _ _
    | count => exact hQ.count hsettings _ _ _
    | delete => exact hQ.delete hsettings _ _
  | terminal query adapter c =>
    exact h.bind (h.findQuery query) fun _ => h.onContext adapter _ c
  | adapter name source options connect driver files => cases hop
  | adapterCall name c installed => exact h.adapterCall name c installed
  | register name engine =>
    exact h.bind (h.register name engine) fun _ => h.bind (h.log _ _ _) fun _ =>
      hengines
  | engines => exact hengines
  | logReport r method =>
    refine h.bind (h.ofExcept _) fun text => ?_
    split
    · exact h.bind (h.log _ _ _) fun _ => h.pure _
    · exact h.throw _
  | environment changes file reset => cases hop
  | settings => exact h.bind (h.configured hsettings) fun _ => h.pure _
  | configureLogging level => exact h.configureLogging hQ hsettings level

end Operations

end Hereditary

/-- What an operation answers and leaves, read off the run of its action. -/
theorem run_eq (op : Operation) (s : Session) :
    s.run op =
      ({ result := ((perform op).runFrom ⟨s, []⟩).1
         after := clausesAfter? op ((perform op).runFrom ⟨s, []⟩).2.state
         calls := callsDuring op ((perform op).runFrom ⟨s, []⟩).1 s
           ((perform op).runFrom ⟨s, []⟩).2.state
         records := ((perform op).runFrom ⟨s, []⟩).2.journal.filter
           ((perform op).runFrom ⟨s, []⟩).2.state.logging.shows },
        dropFailed op ((perform op).runFrom ⟨s, []⟩).1 ((perform op).runFrom ⟨s, []⟩).2.state) :=
  rfl

end Session

end FluentQuery
