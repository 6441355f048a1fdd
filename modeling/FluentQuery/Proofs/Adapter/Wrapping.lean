import FluentQuery.Proofs.Adapter.Orderly
import FluentQuery.Proofs.Adapter.Rollback

/-!
# Errors that an adapter wraps

An adapter catches the errors of its own driver and gives them a name of its own. What undoes or
cleans up after a statement is outside of that: an error in the release of a cursor, or in a
rollback but PostgreSQL's, reaches the caller as the driver raised it, in place of the error that
it came behind.

* **`Failure.IsWrapped`** — an error in the form that adapters give it;
* **`Adapter.Spills`** — among calls one raises where nothing catches it;
* **`Adapter.Contains`** — what follows from that for the result behind the calls;
* **`Adapter.unwrapped_iff_spills`** — after any operations the next one fails with an error that is
  not wrapped exactly if one of its calls raises there.
-/

namespace FluentQuery

/-- An error in the form that adapters give it. -/
def Failure.IsWrapped : Failure → Prop
  | .connection _ | .statement _ => True
  | _ => False

/-- A call whose error nothing catches: the release of a cursor, and a rollback but for
PostgreSQL's. -/
def DriverCall.escapes (e : Engine) : DriverCall → Bool
  | .closeCursor _ => true
  | .rollback _ => e ≠ .postgres
  | _ => false

theorem DriverCall.works_of_not_escapes {e : Engine} {c : DriverCall} (h : c.works = true) :
    c.escapes e = false := by
  cases c with
  | closeCursor n => cases h
  | rollback n => cases h
  | _ => rfl

/-- A driver raises no errors but those that an engine knows as its own. -/
def Driver.IsOf (d : Driver) (e : Engine) : Prop :=
  ∀ calls f, d.fault calls = some f → e.owns f = true

namespace Adapter

variable {α β : Type} {a b : Adapter} {n : Nat} {text : String} {given : List Value}
  {made : List DriverCall} {P : Failure → Prop} {r : Except Failure α}

/-- Among calls one raises where nothing catches it. -/
def Spills (a : Adapter) (made : List DriverCall) : Prop :=
  ∃ front c f, a.Comes made front c (some f) ∧ c.escapes a.engine = true

/-- What comes of calls: an error of the driver as it is, if a call raises where nothing catches it,
and else no errors but some. With DuckDB no call raises there. -/
structure Contains (P : Failure → Prop) (a : Adapter) (made : List DriverCall)
    (r : Except Failure α) : Prop where
  escapes : a.Spills made → ∃ f, r = .error (.fault f)
  caught : ¬a.Spills made → ∀ e, r = .error e → P e
  free : a.engine = .duckdb → ¬a.Spills made

theorem not_spills_of_forall (h : ∀ c ∈ made, c.escapes a.engine = false) : ¬a.Spills made := by
  rintro ⟨front, c, f, hcomes, hescapes⟩
  rw [h c hcomes.mem] at hescapes
  cases hescapes

theorem not_spills_nil : ¬a.Spills [] := not_spills_of_forall fun _ hc => nomatch hc

theorem not_spills_singleton {c : DriverCall} (h : c.escapes a.engine = false) :
    ¬a.Spills [c] := by
  refine not_spills_of_forall fun x hx => ?_
  rw [List.mem_singleton.mp hx, h]

theorem Contains.of_not_spills (h : ¬a.Spills made) (hcaught : ∀ e, r = .error e → P e) :
    Contains P a made r := ⟨fun hspills => absurd hspills h, fun _ => hcaught, fun _ => h⟩

theorem Contains.mono {Q : Failure → Prop} (h : Contains P a made r) (hPQ : ∀ e, P e → Q e) :
    Contains Q a made r :=
  ⟨h.escapes, fun hnone e he => hPQ e (h.caught hnone e he), h.free⟩

/-! ## Executions -/

/-- In an execution it is the release of the cursor that raises where nothing catches it, or the
rollback behind an error of the engine's own driver. -/
theorem spills_execution_iff : a.Spills (a.executionCalls n text given) ↔
    (∃ g, (a.after (a.attempted (a.plan n text given) ++
      a.afterwards n (a.plan n text given))).raised (a.releasing n) = some g) ∨
    a.engine ≠ .postgres ∧ ∃ f g, a.raised (a.plan n text given) = some f ∧
      a.engine.owns f = true ∧ (a.after (a.attempted (a.plan n text given))).raised
        ((a.after (a.attempted (a.plan n text given))).ending (.rollback n)) = some g := by
  constructor
  · rintro ⟨front, c, g, hcomes, hescapes⟩
    rcases place_in_execution hcomes with hplan | ⟨rfl, rfl, f, hraised, howns, -⟩ | ⟨rfl, -⟩
    · rw [DriverCall.works_of_not_escapes (works_of_attempted hplan)] at hescapes
      cases hescapes
    · exact .inr ⟨of_decide_eq_true hescapes, f, g, hraised, howns,
        (comes_rollback_iff hraised howns).mp ⟨_, hcomes⟩⟩
    · exact .inl ⟨g, comes_closeCursor_iff.mp ⟨_, hcomes⟩⟩
  · rintro (⟨g, hrelease⟩ | ⟨hengine, f, g, hraised, howns, hundo⟩)
    · obtain ⟨front, hcomes⟩ := comes_closeCursor_iff.mpr hrelease
      exact ⟨front, _, g, hcomes, rfl⟩
    · obtain ⟨front, hcomes⟩ := (comes_rollback_iff hraised howns).mpr hundo
      exact ⟨front, _, g, hcomes, decide_eq_true hengine⟩

/-- DuckDB has neither cursors nor rollbacks. -/
theorem not_spills_execution (hengine : a.engine = .duckdb) :
    ¬a.Spills (a.executionCalls n text given) := by
  rw [spills_execution_iff]
  rintro (⟨g, hrelease⟩ | ⟨-, f, g, -, -, hundo⟩)
  · rcases releasing_eq a n with hnone | ⟨-, hother, -⟩
    · rw [hnone] at hrelease
      cases hrelease
    · exact hother hengine
  · unfold ending hasPending at hundo
    rw [after_engine, hengine] at hundo
    cases hundo

theorem owns_of_raised (hdriver : a.driver.IsOf a.engine) {plan : List DriverCall} {f : Fault}
    (h : a.raised plan = some f) : a.engine.owns f = true := by
  obtain ⟨front, c, hcomes⟩ := exists_comes_of_raised h
  exact hdriver _ f hcomes.2

/-- What an execution gives, where its driver raises errors of its own alone. -/
theorem execution_contains (hdriver : a.driver.IsOf a.engine) :
    Contains Failure.IsWrapped a (a.executionCalls n text given)
      (a.executionResult n text given) := by
  have hspills := @spills_execution_iff a n text given
  unfold executionResult attended
  cases hrelease : (a.after (a.attempted (a.plan n text given) ++
      a.afterwards n (a.plan n text given))).raised (a.releasing n) with
  | some g =>
    have hraises := hspills.mpr (.inl ⟨g, hrelease⟩)
    exact ⟨fun _ => ⟨g, rfl⟩, fun hnone => absurd hraises hnone, not_spills_execution⟩
  | none =>
    rw [hrelease] at hspills
    cases hraised : a.raised (a.plan n text given) with
    | none =>
      refine .of_not_spills ?_ fun e he => (nomatch he)
      rw [hspills, hraised]
      rintro (⟨g, hg⟩ | ⟨-, f, g, hf, -⟩)
      · cases hg
      · cases hf
    | some f =>
      have howns := owns_of_raised hdriver hraised
      unfold recovered undoOutcome
      simp only [after_engine, howns, if_true]
      cases hundo : (a.after (a.attempted (a.plan n text given))).raised
          ((a.after (a.attempted (a.plan n text given))).ending (.rollback n)) with
      | none =>
        refine .of_not_spills ?_ fun e he => by cases he; exact trivial
        rw [hspills, hundo]
        rintro (⟨g, hg⟩ | ⟨-, f, g, -, -, hg⟩) <;> cases hg
      | some g =>
        by_cases hengine : a.engine = .postgres
        · -- PostgreSQL passes over the error of its rollback.
          have hown := owns_of_raised (a := a.after _) hdriver hundo
          rw [after_engine, hengine] at hown
          simp only [hengine, hown, and_self, if_true]
          refine .of_not_spills ?_ fun e he => by cases he; exact trivial
          rw [hspills]
          rintro (⟨g, hg⟩ | ⟨hother, -⟩)
          · cases hg
          · exact hother hengine
        · simp only [hengine, false_and, if_false]
          have hraises := hspills.mpr (.inr ⟨hengine, f, g, hraised, howns, hundo⟩)
          exact ⟨fun _ => ⟨g, rfl⟩, fun hnone => absurd hraises hnone, not_spills_execution⟩

/-! ## Operations -/

/-- An action makes calls, and what they raise comes out of it as it should. -/
def Tells (P : Failure → Prop) (a : Adapter) (act : Action Adapter α) : Prop :=
  ∃ made, (act.runFrom ⟨a, []⟩).2.state.calls = a.calls ++ made ∧
    Contains P a made (act.runFrom ⟨a, []⟩).1

namespace Tells

theorem mono {Q : Failure → Prop} {act : Action Adapter α} (h : Tells P a act)
    (hPQ : ∀ e, P e → Q e) : Tells Q a act := by
  obtain ⟨made, hcalls, hcontains⟩ := h
  exact ⟨made, hcalls, hcontains.mono hPQ⟩

/-- What is done with a result makes no calls. -/
theorem bind {act : Action Adapter α} {f : α → Action Adapter β} (h : Tells P a act)
    (hkeeps : ∀ x, Action.Keeps calls (f x))
    (hcaught : ∀ x j, act.runFrom ⟨a, []⟩ = (.ok x, j) →
      ∀ e, ((f x).runFrom j).1 = .error e → P e) : Tells P a (act >>= f) := by
  obtain ⟨made, hcalls, hcontains⟩ := h
  refine ⟨made, (Action.Keeps.behind hkeeps _).trans hcalls, ?_⟩
  rw [Action.runFrom_bind]
  cases hrun : act.runFrom ⟨a, []⟩ with
  | mk r j =>
    rw [hrun] at hcontains
    cases r with
    | error e =>
      -- The error is that of the action, at another type.
      refine ⟨fun hspills => ?_, fun hnone e' he => ?_, hcontains.free⟩
      · obtain ⟨f, hf⟩ := hcontains.escapes hspills
        cases hf
        exact ⟨f, rfl⟩
      · cases he
        exact hcontains.caught hnone e rfl
    | ok x =>
      -- There is a result, so nothing has raised where it is not caught.
      refine .of_not_spills (fun hspills => ?_) (hcaught x j hrun)
      obtain ⟨f, hf⟩ := hcontains.escapes hspills
      cases hf

theorem bind_pure {act : Action Adapter α} (h : Tells P a act) (f : α → β) :
    Tells P a (act >>= fun x => pure (f x)) :=
  h.bind (fun _ => .pure _) fun _ _ _ _ he => nomatch he

theorem of_kept {act : Action Adapter α} (hkeeps : Action.Keeps calls act)
    (hcaught : ∀ e, (act.runFrom ⟨a, []⟩).1 = .error e → P e) : Tells P a act :=
  ⟨[], (hkeeps _).trans (List.append_nil _).symm, .of_not_spills not_spills_nil hcaught⟩

end Tells

/-- An adapter knows where to connect to. -/
structure Addressed (a : Adapter) : Prop where
  described : ∃ v, a.describe = .ok v
  targeted : ∀ e, a.target = .error e → e.IsWrapped

/-- An error of the engine's own driver is caught. -/
theorem ownFault?_of_isOf (hdriver : a.driver.IsOf a.engine) {calls : List DriverCall} {f : Fault}
    (h : a.driver.fault calls = some f) : a.engine.ownFault? (.fault f) = some f := by
  unfold Engine.ownFault?
  exact if_pos (hdriver calls f h)

theorem ownFault?_of_isWrapped {engine : Engine} {e : Failure} (h : e.IsWrapped) :
    engine.ownFault? e = none := by
  cases e with
  | fault f => exact h.elim
  | _ => rfl

theorem connect_tells (hdriver : a.driver.IsOf a.engine) (haddressed : a.Addressed) :
    Tells Failure.IsWrapped a connect := by
  unfold Tells connect
  rw [Action.runFrom_bind_ok (Action.runFrom_current _)]
  cases hconnected : a.connected with
  | true =>
    exact ⟨[], (List.append_nil _).symm, .of_not_spills not_spills_nil fun e he => by cases he⟩
  | false =>
    simp only
    rw [if_neg (by decide), Action.runFrom_bind_ok (Action.runFrom_attempt _ _),
      openConnection_runFrom]
    cases htarget : a.target with
    | error e =>
      have hwrapped := haddressed.targeted e htarget
      simp only [ownFault?_of_isWrapped hwrapped]
      refine ⟨[], (List.append_nil _).symm, .of_not_spills not_spills_nil fun e' he => ?_⟩
      cases he
      exact hwrapped
    | ok found =>
      obtain ⟨positional, keywords⟩ := found
      have hnone : ¬a.Spills [.connect positional keywords] := not_spills_singleton rfl
      simp only
      cases hfault : a.driver.fault (a.calls ++ [.connect positional keywords]) with
      | some f =>
        simp only [ownFault?_of_isOf hdriver hfault]
        refine ⟨[.connect positional keywords], rfl, .of_not_spills hnone fun e he => ?_⟩
        cases he
        exact trivial
      | none =>
        obtain ⟨place, hplace⟩ := haddressed.described
        simp only [hplace]
        exact ⟨[.connect positional keywords], rfl, .of_not_spills hnone fun e he => by cases he⟩

/-- Disconnecting gives a result, whatever closing the connection raises. -/
theorem disconnect_ok (hdriver : a.driver.IsOf a.engine) :
    (disconnect.runFrom ⟨a, []⟩).1 = .ok () ∧
      ∃ made, (disconnect.runFrom ⟨a, []⟩).2.state.calls = a.calls ++ made ∧ ¬a.Spills made := by
  unfold disconnect
  rw [Action.runFrom_bind_ok (Action.runFrom_current _),
    Action.runFrom_bind_ok (Action.runFrom_update _ _)]
  cases hconnection : a.connection with
  | none => exact ⟨rfl, [], (List.append_nil _).symm, not_spills_nil⟩
  | some n =>
    have hnone : ¬a.Spills [.close n] := not_spills_singleton rfl
    simp only
    rw [Action.runFrom_bind_ok (Action.runFrom_attempt _ _), call_runFrom]
    unfold outcome
    simp only
    cases hfault : a.driver.fault (a.calls ++ [.close n]) with
    | none => exact ⟨rfl, _, rfl, hnone⟩
    | some f =>
      simp only [ownFault?_of_isOf hdriver hfault]
      exact ⟨rfl, _, rfl, hnone⟩

theorem disconnect_tells (hdriver : a.driver.IsOf a.engine) : Tells P a disconnect := by
  obtain ⟨hok, made, hcalls, hnone⟩ := disconnect_ok hdriver
  refine ⟨made, hcalls, .of_not_spills hnone fun e he => ?_⟩
  rw [hok] at he
  cases he

theorem execute_tells (hdriver : a.driver.IsOf a.engine)
    (hholds : a.connected = true → a.connection.isSome = true) {params : Value}
    {values : List Value} (hvalues : boundValues params = .ok values) (sql : String) :
    Tells Failure.IsWrapped a (execute sql params) := by
  unfold Tells
  cases hconnected : a.connected with
  | false =>
    rw [execute_disconnected hconnected]
    refine ⟨[], (List.append_nil _).symm, .of_not_spills not_spills_nil fun e he => ?_⟩
    cases he
    exact trivial
  | true =>
    obtain ⟨n, hconnection⟩ := Option.isSome_iff_exists.mp (hholds hconnected)
    obtain ⟨more, hrun⟩ := execute_course hconnected hconnection hvalues []
    rw [hrun]
    exact ⟨_, rfl, execution_contains hdriver⟩

/-- A health check passes over every wrapped error. -/
theorem healthCheck_tells (hdriver : a.driver.IsOf a.engine)
    (hholds : a.connected = true → a.connection.isSome = true) :
    Tells (fun _ => False) a healthCheck := by
  obtain ⟨made, hcalls, hcontains⟩ :=
    execute_tells hdriver hholds (rfl : boundValues .null = .ok []) "SELECT 1"
  unfold Tells healthCheck
  rw [Action.runFrom_bind_ok (Action.runFrom_current _)]
  cases hconnected : a.connected with
  | false =>
    exact ⟨[], (List.append_nil _).symm, .of_not_spills not_spills_nil fun e he => (nomatch he)⟩
  | true =>
    rw [if_neg (by decide), Action.runFrom_bind_ok (Action.runFrom_attempt _ _)]
    generalize (execute "SELECT 1").runFrom ⟨a, []⟩ = run at hcalls hcontains
    obtain ⟨r, j⟩ := run
    cases r with
    | ok x =>
      refine ⟨made, hcalls, .of_not_spills (fun hspills => ?_) fun e he => (nomatch he)⟩
      obtain ⟨f, hf⟩ := hcontains.escapes hspills
      cases hf
    | error e =>
      by_cases hspills : a.Spills made
      · obtain ⟨f, hf⟩ := hcontains.escapes hspills
        cases hf
        exact ⟨made, hcalls, fun _ => ⟨f, rfl⟩, fun hnone => absurd hspills hnone, hcontains.free⟩
      · have hwrapped := hcontains.caught hspills e rfl
        cases e with
        | connection error =>
          exact ⟨made, hcalls, .of_not_spills hspills fun e he => (nomatch he)⟩
        | statement error =>
          exact ⟨made, hcalls, .of_not_spills hspills fun e he => (nomatch he)⟩
        | _ => exact hwrapped.elim

theorem executeScript_tells (hdriver : a.driver.IsOf a.engine)
    (hholds : a.connected = true → a.connection.isSome = true)
    (hscripts : a.engine.isSqlite = true ∨ a.engine = .duckdb) (script : String) :
    Tells Failure.IsWrapped a (executeScript script) := by
  unfold Tells
  cases hconnected : a.connected with
  | false =>
    have hrefused : ∃ e : EngineError, (executeScript script).runFrom ⟨a, []⟩ =
        (.error (.statement e), ⟨a, []⟩) := by
      unfold executeScript
      rw [Action.runFrom_bind_ok (Action.runFrom_current _)]
      cases hengine : a.engine with
      | postgres => simp [hengine, Engine.isSqlite] at hscripts
      | fake => simp [hengine, Engine.isSqlite] at hscripts
      | _ =>
        simp only [hconnected]
        exact ⟨_, rfl⟩
    obtain ⟨e, hrun⟩ := hrefused
    rw [hrun]
    refine ⟨[], (List.append_nil _).symm, .of_not_spills not_spills_nil fun e' he => ?_⟩
    cases he
    exact trivial
  | true =>
    obtain ⟨n, hconnection⟩ := Option.isSome_iff_exists.mp (hholds hconnected)
    rw [executeScript_course hconnected hconnection hscripts]
    refine ⟨_, rfl, .of_not_spills (not_spills_singleton ?_) fun e he => ?_⟩
    · unfold scripting
      split <;> rfl
    · cases hraised : a.raised [a.scripting n script] with
      | none =>
        rw [hraised] at he
        cases he
      | some f =>
        rw [hraised] at he
        cases he
        unfold scriptFailure
        rw [if_pos (owns_of_raised hdriver hraised)]
        exact trivial

/-! ## Reading numbers off rows -/

/-- What an engine counts is no infinite number, and can be written where it is no integer. -/
def CountsTold (rows : List Row) : Prop :=
  ∀ v, (firstValue rows).join = some v → ∀ fault, v.toInteger = .error fault →
    (∀ written, fault ≠ .infinite written) ∧ v.isWritable = true

/-- What an engine tells of a change begins with an integer. -/
def TellsChanged (rows : List Row) : Prop :=
  ∀ cell, firstValue rows = some cell → ∃ v k, cell = some v ∧ v.toInteger = .ok k

theorem countOf_wrapped {engine : Engine} {rows : List Row} (h : CountsTold rows) {e : Failure}
    (he : countOf engine rows = .error e) : e.IsWrapped := by
  unfold countOf at he
  split at he
  · cases he
  · cases he
  · next v hother hv =>
    split at he
    · cases he
    · next written hinteger => exact absurd rfl ((h v hv _ hinteger).1 written)
    · next hinteger =>
      cases he
      rw [notCounted, if_pos (h v hv _ hinteger).2]
      exact trivial

theorem changedOf_ok {rows : List Row} (h : TellsChanged rows) : ∃ k, changedOf rows = .ok k := by
  unfold changedOf
  cases hcell : firstValue rows with
  | none => exact ⟨0, rfl⟩
  | some cell =>
    obtain ⟨v, k, rfl, hinteger⟩ := h cell hcell
    simp only [hinteger]
    exact ⟨k, rfl⟩

/-- An operation can be asked of an adapter: the engine has it, the values are a list, and where a
number is read off the rows there is one. -/
def Takes (a : Adapter) : AdapterCall → Prop
  | .execute _ params | .executeQuery _ params | .prepare _ params =>
    ∃ values, boundValues params = .ok values
  | .executeCount sql params => (∃ values, boundValues params = .ok values) ∧
    ∀ x, ((execute sql params).start a).1 = .ok x → CountsTold x.rows
  | .executeUpdate sql params => (∃ values, boundValues params = .ok values) ∧
    (a.engine = .duckdb → ∀ x, ((execute sql params).start a).1 = .ok x → TellsChanged x.rows)
  | .executeScript _ => a.engine.isSqlite = true ∨ a.engine = .duckdb
  | _ => True

/-- The options of an adapter are a dictionary, in which a path is a text. -/
structure Configured (a : Adapter) : Prop where
  dictionary : ∃ entries, a.options = .dict entries
  path : a.engine.isSqlite = true → ∃ path, a.database = .text path

theorem filterAuxM_ok (p : String → Bool) (names found : List String) :
    names.filterAuxM (fun name => (.ok (p name) : Except Failure Bool)) found =
      .ok ((names.filter p).reverse ++ found) := by
  induction names generalizing found with
  | nil => rfl
  | cons name rest ih =>
    show rest.filterAuxM _ (cond (p name) (name :: found) found) = _
    rw [ih]
    cases hname : p name <;> simp [hname]

/-- Names can be picked one after the other where none of them is refused. -/
theorem filterM_ok (p : String → Bool) (names : List String) :
    names.filterM (fun name => (.ok (p name) : Except Failure Bool)) = .ok (names.filter p) := by
  show (names.filterAuxM _ [] >>= fun found => pure found.reverse) = _
  rw [filterAuxM_ok, List.append_nil]
  show Except.ok (names.filter p).reverse.reverse = _
  rw [List.reverse_reverse]

/-- A PostgreSQL adapter is made from a DSN or from a host, a database and a user. -/
theorem checkPostgres_dict {engine : Engine} {entries : List (Value × Value)}
    (h : checkPostgres engine (.dict entries) = .ok ()) :
    (Entries.get? (.text "dsn") entries).isSome = true ∨
      ∀ name ∈ ["host", "database", "user"], (Entries.get? (.text name) entries).isSome = true := by
  have hpick := filterM_ok (fun name => !(Entries.get? (.text name) entries).isSome)
    ["host", "database", "user"]
  cases hdsn : (Entries.get? (.text "dsn") entries).isSome with
  | true => exact .inl rfl
  | false =>
    change (do
      if !(Entries.get? (.text "dsn") entries).isSome then
        let missing ← ["host", "database", "user"].filterM fun name =>
          (.ok (!(Entries.get? (.text name) entries).isSome) : Except Failure Bool)
        if !missing.isEmpty then throw _) = _ at h
    rw [hdsn, hpick] at h
    cases hmissing : ["host", "database", "user"].filter fun name =>
        !(Entries.get? (.text name) entries).isSome with
    | nil =>
      refine .inr fun name hname => ?_
      have hpresent := List.filter_eq_nil_iff.mp hmissing name hname
      simpa only [Bool.not_eq_true', Bool.not_eq_false] using hpresent
    | cons name rest =>
      rw [hmissing] at h
      cases h

theorem has_dict (entries : List (Value × Value)) (name : String) :
    Options.has (.dict entries) name = .ok (Entries.get? (.text name) entries).isSome := rfl

theorem required_dict {entries : List (Value × Value)} {name : String}
    (h : (Entries.get? (.text name) entries).isSome = true) :
    ∃ v, Options.required (.dict entries) name = .ok v := by
  obtain ⟨v, hv⟩ := Option.isSome_iff_exists.mp h
  refine ⟨v, ?_⟩
  unfold Options.required
  simp only [hv]

section Options

variable {entries : List (Value × Value)} (hoptions : a.options = .dict entries)
  (hpostgres : a.engine = .postgres → checkPostgres .postgres (.dict entries) = .ok ())

include hoptions hpostgres

theorem describe_ok : ∃ v, a.describe = .ok v := by
  unfold describe
  rw [hoptions]
  cases hengine : a.engine with
  | postgres =>
    simp only [has_dict]
    rcases checkPostgres_dict (hpostgres hengine) with hdsn | hnamed
    · rw [hdsn]
      exact ⟨_, rfl⟩
    · obtain ⟨host, hhost⟩ := required_dict (hnamed "host" (by simp))
      obtain ⟨database, hdatabase⟩ := required_dict (hnamed "database" (by simp))
      rw [hhost, hdatabase]
      cases (Entries.get? (.text "dsn") entries).isSome <;> exact ⟨_, rfl⟩
  | _ => exact ⟨_, rfl⟩

/-- Where there is nowhere to connect to, an adapter says so in its own words or the path of a
database file is no text. -/
theorem target_error {e : Failure} (h : a.target = .error e) :
    e.IsWrapped ∨
      a.engine.isSqlite = true ∧ Path.readOnlyTarget a.files a.database = .error e := by
  unfold target at h
  rw [hoptions] at h
  cases hengine : a.engine with
  | postgres =>
    rw [hengine] at h
    cases hinstalled : a.installed with
    | false =>
      rw [hinstalled] at h
      cases h
      exact .inl trivial
    | true =>
      simp only [has_dict, hinstalled] at h
      cases hdsn : (Entries.get? (.text "dsn") entries).isSome with
      | true =>
        obtain ⟨v, hv⟩ := required_dict hdsn
        rw [hdsn, hv] at h
        cases h
      | false =>
        -- Without a data source name the options that were checked are those that are asked for.
        rcases checkPostgres_dict (hpostgres hengine) with hother | hnamed
        · rw [hdsn] at hother
          cases hother
        · obtain ⟨host, hhost⟩ := required_dict (hnamed "host" (by simp))
          obtain ⟨database, hdatabase⟩ := required_dict (hnamed "database" (by simp))
          obtain ⟨user, huser⟩ := required_dict (hnamed "user" (by simp))
          rw [hdsn, hhost, hdatabase, huser] at h
          cases h
  | duckdb =>
    rw [hengine] at h
    simp only at h
    split at h
    · cases h
      exact .inl trivial
    · cases h
  | fake =>
    rw [hengine] at h
    cases h
  | _ =>
    rw [hengine] at h
    simp only at h
    split at h
    · cases hplace : Path.readOnlyTarget a.files a.database with
      | ok place =>
        rw [hplace] at h
        cases h
      | error e' =>
        rw [hplace] at h
        cases h
        exact .inr ⟨rfl, rfl⟩
    · cases h

theorem target_caught (hpath : a.engine.isSqlite = true → ∃ path, a.database = .text path)
    {e : Failure} (h : a.target = .error e) : e.IsWrapped := by
  rcases target_error hoptions hpostgres h with hwrapped | ⟨hsqlite, hplace⟩
  · exact hwrapped
  · obtain ⟨path, hdatabase⟩ := hpath hsqlite
    rw [hdatabase] at hplace
    cases hplace

end Options

/-- Every operation that can be asked of an adapter contains what its calls raise. -/
theorem adapterCall_tells (hdriver : a.driver.IsOf a.engine) (haddressed : a.Addressed)
    (hholds : a.connected = true → a.connection.isSome = true) {op : AdapterCall}
    (htakes : a.Takes op) : Tells Failure.IsWrapped a (Session.adapterCall op) := by
  cases op with
  | connect => exact (connect_tells hdriver haddressed).bind_pure _
  | disconnect => exact (disconnect_tells hdriver).bind_pure _
  | describe =>
    obtain ⟨place, hplace⟩ := haddressed.described
    refine .of_kept (.bind .current fun _ => .bind (.ofExcept _) fun _ => .pure _) fun e he => ?_
    change ((Action.ofExcept a.describe >>= fun v => pure (Reply.value v)).runFrom ⟨a, []⟩).1 = _
      at he
    rw [hplace] at he
    cases he
  | isConnected =>
    exact .of_kept (.bind .current fun _ => .pure _) fun e he => nomatch he
  | healthCheck => exact ((healthCheck_tells hdriver hholds).mono fun _ he => he.elim).bind_pure _
  | execute sql params =>
    obtain ⟨values, hvalues⟩ := htakes
    exact (execute_tells hdriver hholds hvalues sql).bind_pure (Reply.execution a.engine)
  | executeQuery sql params =>
    obtain ⟨values, hvalues⟩ := htakes
    exact ((execute_tells hdriver hholds hvalues sql).bind_pure Execution.rows).bind_pure _
  | executeCount sql params =>
    obtain ⟨⟨values, hvalues⟩, hfinite⟩ := htakes
    refine Tells.bind_pure (Tells.bind (execute_tells hdriver hholds hvalues sql)
      (fun x => .bind .current fun _ => .ofExcept _) fun x j hrun e he => ?_) _
    exact countOf_wrapped (hfinite x (congrArg Prod.fst hrun)) he
  | executeUpdate sql params =>
    obtain ⟨⟨values, hvalues⟩, hchanged⟩ := htakes
    refine Tells.bind_pure (Tells.bind (execute_tells hdriver hholds hvalues sql)
      (fun x => .bind .current fun b => ?_) fun x j hrun e he => ?_) _
    · split
      · exact .bind (.ofExcept _) fun _ => .pure _
      · exact .pure _
    · have hmoves : Moves a (.executeUpdate sql params)
          ((execute sql params).runFrom ⟨a, []⟩).2.state := execute_moves hholds sql params []
      rw [hrun] at hmoves
      rw [Action.runFrom_bind_ok (Action.runFrom_current _), hmoves.same_driver.1] at he
      split at he
      · next hengine =>
        obtain ⟨k, hk⟩ := changedOf_ok (hchanged hengine x (congrArg Prod.fst hrun))
        rw [hk] at he
        cases he
      · cases he
  | prepare sql params =>
    obtain ⟨values, hvalues⟩ := htakes
    refine .of_kept (.bind (.ofExcept _) fun _ => .bind .current fun _ => .pure _) fun e he => ?_
    change ((Action.ofExcept (boundValues params) >>= _).runFrom ⟨a, []⟩).1 = _ at he
    rw [hvalues] at he
    cases he
  | executeScript script =>
    exact (executeScript_tells hdriver hholds htakes script).bind_pure _
  | enter => exact (connect_tells hdriver haddressed).bind_pure _
  | leave => exact (disconnect_tells hdriver).bind_pure _

theorem Tells.contains {op : AdapterCall} (h : Tells P a (Session.adapterCall op)) :
    Contains P a (a.made op) (a.reply op) := by
  obtain ⟨made, hcalls, hcontains⟩ := h
  have hmade : a.made op = made := by
    show (a.step op).calls.drop a.calls.length = made
    rw [show (a.step op).calls = a.calls ++ made from hcalls, List.drop_left]
  rw [hmade]
  exact hcontains

theorem reply_disconnect (hdriver : a.driver.IsOf a.engine) {op : AdapterCall}
    (h : op.disconnects = true) : ∃ r, a.reply op = .ok r := by
  have hreply : ∀ r : Reply,
      ((do disconnect; return r : Action Adapter Reply).runFrom ⟨a, []⟩).1 = .ok r := by
    intro r
    rw [Action.runFrom_bind_pure disconnect (fun _ => r), (disconnect_ok hdriver).1]
    rfl
  cases op with
  | disconnect => exact ⟨_, hreply (.value .null)⟩
  | leave => exact ⟨_, hreply (.value (.bool false))⟩
  | _ => cases h

/-- A PostgreSQL adapter has options that passed their check. -/
theorem checkPostgres_of_make {options : Value} {driver : Driver} {files : Path.Files}
    (h : make .postgres options driver files = .ok a) :
    checkPostgres .postgres a.options = .ok () := by
  unfold make at h
  cases hcheck : checkPostgres .postgres options with
  | error e =>
    rw [hcheck] at h
    cases h
  | ok u =>
    rw [hcheck] at h
    cases h
    exact hcheck

/-- An adapter finds its way with the options that it was made from. -/
theorem addressed_of_make {engine : Engine} {options : Value} {driver : Driver}
    {files : Path.Files} (hmake : make engine options driver files = .ok a)
    (hconfigured : a.Configured) (hengine : b.engine = a.engine)
    (hoptions : b.options = a.options) : b.Addressed := by
  obtain ⟨entries, hentries⟩ := hconfigured.dictionary
  have hpostgres : b.engine = .postgres → checkPostgres .postgres (.dict entries) = .ok () := by
    intro hkind
    obtain ⟨options', rfl⟩ := make_eq hmake
    rw [hkind] at hengine
    cases hengine
    rw [← hentries]
    exact checkPostgres_of_make hmake
  have hpath : b.engine.isSqlite = true → ∃ path, b.database = .text path := by
    intro hsqlite
    have hsame : b.database = a.database := by
      unfold database option
      rw [hengine, hoptions]
    rw [hengine] at hsqlite
    rw [hsame]
    exact hconfigured.path hsqlite
  rw [hentries] at hoptions
  exact ⟨describe_ok hoptions hpostgres, fun e => target_caught hoptions hpostgres hpath⟩

/-- **Errors of the driver leave an adapter unwrapped in two places.** After any operations on an
adapter whose driver raises errors of its own alone, the next one fails with an error that is not
wrapped exactly if it releases a cursor and that raises, or if it rolls back otherwise than
PostgreSQL and that raises; the error is then the driver's as it is. Only then does a health check
fail. To disconnect never fails, and with DuckDB no operation does so. -/
theorem unwrapped_iff_spills {engine : Engine} {options : Value} {driver : Driver}
    {files : Path.Files} (hmake : make engine options driver files = .ok a)
    (hconfigured : a.Configured) (hdriver : driver.IsOf engine)
    (ops : List (AdapterCall × Bool)) (installed : Bool)
    (hrun : ({ a.steps ops with installed } : Adapter) = b) (op : AdapterCall)
    (htakes : b.Takes op) :
    ((∃ e, b.reply op = .error e ∧ ¬e.IsWrapped) ↔ b.Spills (b.made op)) ∧
      (b.Spills (b.made op) → engine ≠ .duckdb ∧ ∃ f, b.reply op = .error (.fault f)) ∧
      (op = .healthCheck → ((∃ e, b.reply op = .error e) ↔ b.Spills (b.made op))) ∧
      (op.disconnects = true → ∃ r, b.reply op = .ok r) := by
  have hnew : a.engine = engine ∧ a.driver = driver := by
    obtain ⟨options', rfl⟩ := make_eq hmake
    exact ⟨rfl, rfl⟩
  have howns := owns_of_make hmake
  -- Of all that the operations before can have done, the connection alone matters.
  obtain ⟨hengine, hdriver', hoptions, hheld⟩ :
      b.engine = engine ∧ b.driver = driver ∧ b.options = a.options ∧ b.Owns := by
    obtain ⟨hengine, hdriver'⟩ := howns.steps_driver ops
    rw [← hrun]
    exact ⟨hengine.trans hnew.1, hdriver'.trans hnew.2,
      howns.steps_part (fun hmoves => hmoves.same_options) (fun _ _ => rfl) ops,
      (howns.steps ops).installed installed⟩
  have hof : b.driver.IsOf b.engine := by
    rw [hengine, hdriver']
    exact hdriver
  have haddressed := addressed_of_make hmake hconfigured (hengine.trans hnew.1.symm) hoptions
  have hholds := hheld.connected_iff.mp
  have hcontains := (adapterCall_tells hof haddressed hholds htakes).contains
  refine ⟨⟨?_, fun hspills => ?_⟩, fun hspills => ⟨fun hduckdb => ?_, ?_⟩, ?_, ?_⟩
  · rintro ⟨e, he, hraw⟩
    by_contra hnone
    exact hraw (hcontains.caught hnone e he)
  · obtain ⟨f, hf⟩ := hcontains.escapes hspills
    exact ⟨_, hf, fun hwrapped => hwrapped⟩
  · exact hcontains.free (hengine.trans hduckdb) hspills
  · exact hcontains.escapes hspills
  · rintro rfl
    -- A health check gives a result for each wrapped error, so no error is left to be caught.
    have hquiet : Tells (fun _ => False) b (Session.adapterCall .healthCheck) :=
      (healthCheck_tells hof hholds).bind_pure fun x => Reply.value (.bool x)
    have hcontains' := hquiet.contains
    constructor
    · rintro ⟨e, he⟩
      by_contra hnone
      exact hcontains'.caught hnone e he
    · intro hspills
      obtain ⟨f, hf⟩ := hcontains'.escapes hspills
      exact ⟨_, hf⟩
  · exact reply_disconnect hof

/-- A driver that rejects every statement and cannot roll back. -/
def failing (vendor : Vendor) : Driver where
  fault calls :=
    match calls.getLast? with
    | some (.execute _ _ _) => some (.driver vendor "boom")
    | some (.rollback _) => some (.driver vendor "gone")
    | _ => none
  answer _ := {}
  inTransaction _ := true

theorem failing_isOf (e : Engine) : (failing e.vendor).IsOf e := by
  intro calls f h
  unfold failing at h
  simp only at h
  split at h
  · cases h
    exact beq_self_eq_true _
  · cases h
    exact beq_self_eq_true _
  · cases h

/-- Options for a PostgreSQL server. -/
def serverOptions : Value :=
  .dict [(.text "host", .text "db"), (.text "database", .text "app"), (.text "user", .text "u")]

theorem unwrapped_iff_spills_postgres :
    ∃ a b, make .postgres serverOptions (failing .postgres) {} = .ok a ∧
      ({ a.steps [(.connect, true)] with installed := true } : Adapter) = b ∧
      b.reply (.execute "DELETE FROM t" .null) = .error (.statement
        ⟨"postgres statement failed: boom", "postgres", some (.fault (.driver .postgres "boom"))⟩) ∧
      ¬b.Spills (b.made (.execute "DELETE FROM t" .null)) := by
  have hmake : make .postgres serverOptions (failing .postgres) {} =
      .ok { engine := .postgres, options := serverOptions, driver := failing .postgres } := rfl
  have hconfigured : Configured
      { engine := .postgres, options := serverOptions, driver := failing .postgres } :=
    ⟨⟨_, rfl⟩, fun hsqlite => nomatch hsqlite⟩
  obtain ⟨hiff, -⟩ := unwrapped_iff_spills hmake hconfigured (failing_isOf .postgres)
    [(.connect, true)] true rfl (.execute "DELETE FROM t" .null) ⟨[], rfl⟩
  refine ⟨_, _, hmake, rfl, rfl, fun hspills => ?_⟩
  obtain ⟨e, he, hraw⟩ := hiff.mpr hspills
  cases he
  exact hraw trivial

/-- With SQLite the error of the rollback reaches the caller as the driver raised it. -/
theorem rollback_error_unwrapped :
    ∃ a, make .sqlite (.dict [(.text "database", .text ":memory:")]) (failing .sqlite) {} = .ok a ∧
      (failing .sqlite).IsOf .sqlite ∧
      (a.steps [(.connect, true)]).reply (.execute "DELETE FROM t" .null) =
        .error (.fault (.driver .sqlite "gone")) ∧
      ¬(Failure.fault (.driver .sqlite "gone")).IsWrapped :=
  ⟨{ engine := .sqlite, options := .dict [(.text "database", .text ":memory:")],
      driver := failing .sqlite }, rfl, failing_isOf .sqlite, rfl, id⟩

end Adapter

end FluentQuery
