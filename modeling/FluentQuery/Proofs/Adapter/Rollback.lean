import FluentQuery.Adapter.Script
import FluentQuery.Proofs.Adapter.Ownership

/-!
# Work that is left behind

An operation that fails after its work was handed to the driver may leave that work in an open
transaction, where the next commit makes it permanent. Whether an adapter rolls it back first
depends on what has failed: a statement is rolled back when a call for it raises an error of the
engine's own driver, any other fault and every script leave their work behind.

* **`Adapter.LeavesWork`** — an operation fails with its work handed over and not committed;
* **`Adapter.Recovers`** — what has failed is answered by a rollback;
* **`Undoes`** — the next commit on a connection comes after a rollback;
* **`Adapter.failed_work_undone_iff`** — work that is left behind is undone before the next commit
  exactly if the adapter recovers.
-/

namespace FluentQuery

/-- Work for a driver. -/
inductive Task where
  | statement (sql : String) (params : Value)
  | script (text : String)

namespace Task

/-- The operation of an adapter that hands work to its driver. -/
def op : Task → AdapterCall
  | .statement sql params => .execute sql params
  | .script text => .executeScript text

/-- Whether work is one statement. -/
def isStatement : Task → Bool
  | .statement _ _ => true
  | .script _ => false

end Task

/-- Whether a call hands over work. -/
def DriverCall.handsWork : DriverCall → Bool
  | .execute _ _ _ => true
  | .script _ _ => true
  | _ => false

/-- Among calls the next commit on a connection comes after a rollback. -/
def Undoes (n : Nat) (calls : List DriverCall) : Prop :=
  ∀ front back, calls = front ++ .commit n :: back → .rollback n ∈ front

/-- A rollback at once comes before any commit. -/
theorem Undoes.of_rollback {n : Nat} (more : List DriverCall) : Undoes n (.rollback n :: more) := by
  intro front back h
  cases front with
  | nil => cases h
  | cons c rest =>
    obtain ⟨rfl, -⟩ := List.cons.inj h
    exact List.mem_cons_self ..

/-- A commit without any rollback is one that nothing was undone before. -/
theorem not_undoes {n : Nat} {calls : List DriverCall} (hcommit : .commit n ∈ calls)
    (hrollback : .rollback n ∉ calls) : ¬Undoes n calls := by
  intro h
  obtain ⟨front, back, rfl⟩ := List.append_of_mem hcommit
  exact hrollback (List.mem_append_left _ (h front back rfl))

namespace Adapter

variable {a : Adapter} {n : Nat}

/-! ## Operations and what is left of them -/

/-- What an operation answers. -/
def reply (a : Adapter) (op : AdapterCall) : Except Failure Reply :=
  ((Session.adapterCall op).start a).1

/-- The calls that an operation makes. -/
def made (a : Adapter) (op : AdapterCall) : List DriverCall :=
  (a.step op).calls.drop a.calls.length

/-- The calls that an operation makes up to the first that raises. -/
def untilFault (a : Adapter) (op : AdapterCall) : List DriverCall := a.attempted (a.made op)

/-- Work fails after it was handed over, and with no commit behind it that succeeded; SQLite
reports an open transaction by then. -/
structure LeavesWork (a : Adapter) (n : Nat) (t : Task) : Prop where
  failed : ∃ e, a.reply t.op = .error e
  handed : ∃ c ∈ a.untilFault t.op, c.handsWork = true
  uncommitted : .commit n ∉ (a.untilFault t.op).dropLast
  pending : a.engine.isSqlite = true →
    a.driver.inTransaction (a.calls ++ a.untilFault t.op) = true

/-- A call for a statement raises an error of the engine's own driver, before the cursor is
released. -/
structure Recovers (a : Adapter) (n : Nat) (t : Task) : Prop where
  statement : t.isStatement = true
  owned : ∃ f, a.raised (a.made t.op) = some f ∧ a.engine.owns f = true
  held : (a.untilFault t.op).getLast? ≠ some (.closeCursor n)

/-- The adapter after more work. -/
def afterTasks (a : Adapter) (later : List Task) : Adapter := later.foldl (fun a t => a.step t.op) a

/-- The calls since the fault that a task ran into, the rest of its own among them. -/
def sinceFault (a : Adapter) (t : Task) (later : List Task) : List DriverCall :=
  ((a.step t.op).afterTasks later).calls.drop (a.calls ++ a.untilFault t.op).length

/-- Every task succeeds. -/
def Succeeding (a : Adapter) : List Task → Prop
  | [] => True
  | t :: rest => (∃ r, a.reply t.op = .ok r) ∧ (a.step t.op).Succeeding rest

theorem made_of_step {op : AdapterCall} {calls : List DriverCall} (h : a.step op = a.after calls) :
    a.made op = calls := by
  unfold made
  rw [h, after_calls, List.drop_left]

/-! ## What a task does -/

section Tasks

/-- All that a task does on a connection. -/
inductive Does (a : Adapter) (n : Nat) (t : Task) : Prop
  /-- It is refused. -/
  | refused {e : Failure} : a.reply t.op = .error e → a.step t.op = a.after [] → Does a n t
  /-- It takes the course of an execution. -/
  | executes {text : String} {given : List Value} : t.isStatement = true →
      a.reply t.op = (a.executionResult n text given).map (.execution a.engine) →
      a.step t.op = a.after (a.executionCalls n text given) → Does a n t
  /-- It is handed over in one call. -/
  | hands {text : String} : t.isStatement = false → a.engine ≠ .duckdb →
      a.step t.op = a.after [.script n text] → Does a n t

theorem task_does (hconnected : a.connected = true) (h : a.connection = some n)
    (hengine : a.engine.isSqlite = true ∨ a.engine = .postgres) (t : Task) : Does a n t := by
  have hduckdb : a.engine ≠ .duckdb := by
    rintro hduckdb
    simp [hduckdb, Engine.isSqlite] at hengine
  cases t with
  | statement sql params =>
    have hstart : (Session.adapterCall (.execute sql params)).start a =
        (((execute sql params).runFrom ⟨a, []⟩).1.map (.execution a.engine),
          ((execute sql params).runFrom ⟨a, []⟩).2) :=
      Action.runFrom_bind_pure (execute sql params) (Reply.execution a.engine) ⟨a, []⟩
    cases hvalues : boundValues params with
    | error e =>
      rw [execute_unlisted hconnected hvalues] at hstart
      refine .refused (e := e) (congrArg Prod.fst hstart) ?_
      rw [after_nil]
      exact congrArg (fun r => r.2.state) hstart
    | ok values =>
      obtain ⟨more, hrun⟩ := execute_course hconnected h hvalues []
      rw [hrun] at hstart
      exact .executes rfl (congrArg Prod.fst hstart) (congrArg (fun r => r.2.state) hstart)
  | script text =>
    have hstart : (Session.adapterCall (.executeScript text)).start a =
        (((executeScript text).runFrom ⟨a, []⟩).1.map fun _ => .value .null,
          ((executeScript text).runFrom ⟨a, []⟩).2) :=
      Action.runFrom_bind_pure (executeScript text) (fun _ => Reply.value .null) ⟨a, []⟩
    rcases hengine with hsqlite | hpostgres
    · rw [executeScript_course hconnected h (.inl hsqlite)] at hstart
      have hscript : a.scripting n text = .script n text := if_neg hduckdb
      rw [hscript] at hstart
      exact .hands rfl hduckdb (congrArg (fun r => r.2.state) hstart)
    · have hnone : a.engine.isSqlite = false := by rw [hpostgres]; rfl
      obtain ⟨e, hrefused⟩ := executeScript_refused (.inr ⟨hnone, hduckdb⟩) text []
      rw [hrefused] at hstart
      refine .refused (e := e) (congrArg Prod.fst hstart) ?_
      rw [after_nil]
      exact congrArg (fun r => r.2.state) hstart

/-! ## What is left of an execution -/

/-- An error of the engine's own driver is answered by a rollback: without a question on
PostgreSQL, and with SQLite if a transaction is open. -/
theorem undoing_of_pending (hengine : a.engine.isSqlite = true ∨ a.engine = .postgres) {f : Fault}
    (howns : a.engine.owns f = true) {made : List DriverCall}
    (hpending : a.engine.isSqlite = true → a.driver.inTransaction (a.calls ++ made) = true) :
    (a.after made).undoing n f = [.rollback n] := by
  unfold undoing
  rw [after_engine, if_pos howns]
  refine if_pos ?_
  unfold hasPending
  rw [after_engine, after_driver, after_calls]
  rcases hengine with hsqlite | hpostgres
  · have hopen := hpending hsqlite
    cases hkind : a.engine with
    | sqlite => exact hopen
    | other => exact hopen
    | postgres => rfl
    | duckdb => simp [hkind, Engine.isSqlite] at hsqlite
    | fake => simp [hkind, Engine.isSqlite] at hsqlite
  · rw [hpostgres]

/-- An execution that rolls nothing back is one that no error of the engine's own driver stops. -/
theorem rollback_not_mem {sql : String} {params : List Value}
    (h : ∀ f, a.raised (a.plan n sql params) = some f → a.engine.owns f = false) :
    .rollback n ∉ a.executionCalls n sql params := by
  intro hmem
  rcases mem_executionCalls hmem with hplan | ⟨f, hraised, howns, -⟩ | hrelease
  · rcases mem_plan (attempted_subset _ hplan) with hc | hc | hc | hc <;> cases hc
  · rw [h f hraised] at howns
    cases howns
  · cases (mem_releasing hrelease).1

/-- When a call of the plan raises, the calls up to there are those of the plan. -/
theorem attempted_executionCalls {sql : String} {params : List Value} {f : Fault}
    (h : a.raised (a.plan n sql params) = some f) :
    a.raised (a.executionCalls n sql params) = some f ∧
      a.attempted (a.executionCalls n sql params) = a.attempted (a.plan n sql params) := by
  have hagain : a.raised (a.attempted (a.plan n sql params)) = some f := by
    rw [raised_attempted, h]
  rw [executionCalls_of_raised h]
  refine ⟨?_, ?_⟩
  · rw [raised_append, hagain, Option.some_or]
  · rw [attempted_append_of_some hagain, attempted_attempted]

/-- When no call of the plan raises, what raises is the release of the cursor. -/
theorem getLast?_attempted_executionCalls {sql : String} {params : List Value} {f : Fault}
    (h : a.raised (a.plan n sql params) = none)
    (hraised : a.raised (a.executionCalls n sql params) = some f) :
    (a.attempted (a.executionCalls n sql params)).getLast? = some (.closeCursor n) := by
  rw [executionCalls_of_unraised h] at hraised ⊢
  rw [raised_append, h, Option.none_or] at hraised
  rw [attempted_append_of_none h]
  have hrelease : a.releasing n = [.closeCursor n] := by
    cases hreleasing : a.releasing n with
    | nil =>
      rw [hreleasing] at hraised
      cases hraised
    | cons c rest =>
      unfold releasing withCursor at hreleasing
      split at hreleasing
      · cases hreleasing
      · split at hreleasing
        · cases hreleasing
        · exact hreleasing.symm
  rw [hrelease, attempted_singleton, List.getLast?_concat]

variable {t : Task}

/-- Work that succeeds is not rolled back. -/
theorem Does.not_rollback (h : Does a n t) : ∃ made, a.step t.op = a.after made ∧
    ((∃ r, a.reply t.op = .ok r) → .rollback n ∉ made) := by
  cases h with
  | refused hreply hstep => exact ⟨_, hstep, fun _ hmem => nomatch hmem⟩
  | hands hscript hduckdb hstep =>
    refine ⟨_, hstep, fun _ hmem => ?_⟩
    cases List.mem_singleton.mp hmem
  | @executes text given hstatement hreply hstep =>
    refine ⟨_, hstep, fun hok => rollback_not_mem fun f hraised => ?_⟩
    obtain ⟨r, hr⟩ := hok
    rw [hr] at hreply
    cases hresult : a.executionResult n text given with
    | error e =>
      rw [hresult] at hreply
      cases hreply
    | ok x =>
      rw [(executionResult_ok hresult).1] at hraised
      cases hraised

/-- Work that is left behind is rolled back at once if the adapter recovers. -/
theorem Does.rollback_of_recovers (h : Does a n t)
    (hengine : a.engine.isSqlite = true ∨ a.engine = .postgres) (hleaves : a.LeavesWork n t)
    (hrecovers : a.Recovers n t) :
    ∃ more, a.made t.op = a.untilFault t.op ++ .rollback n :: more := by
  obtain ⟨f, hraised, howns⟩ := hrecovers.owned
  cases h with
  | refused hreply hstep =>
    rw [made_of_step hstep] at hraised
    cases hraised
  | hands hscript hduckdb hstep =>
    rw [hrecovers.statement] at hscript
    cases hscript
  | @executes text given hstatement hreply hstep =>
    have hmade := made_of_step hstep
    have hpending := hleaves.pending
    have hheld := hrecovers.held
    unfold untilFault at hpending hheld ⊢
    rw [hmade] at hpending hheld hraised ⊢
    cases hplan : a.raised (a.plan n text given) with
    | none =>
      -- What raised can only be the release of the cursor, which is not recovered from.
      exact absurd (getLast?_attempted_executionCalls hplan hraised) hheld
    | some g =>
      obtain ⟨hg, hattempted⟩ := attempted_executionCalls hplan
      obtain rfl : f = g := Option.some.inj (hraised.symm.trans hg)
      rw [hattempted] at hpending ⊢
      rw [executionCalls_of_raised hplan, undoing_of_pending hengine howns hpending]
      exact ⟨a.releasing n, rfl⟩

/-- What the adapter does not recover from it does not roll back. -/
theorem Does.not_rollback_of_not_recovers (h : Does a n t) (hrecovers : ¬a.Recovers n t) :
    .rollback n ∉ a.made t.op := by
  cases h with
  | refused hreply hstep =>
    rw [made_of_step hstep]
    exact fun hmem => nomatch hmem
  | hands hscript hduckdb hstep =>
    rw [made_of_step hstep]
    exact fun hmem => nomatch List.mem_singleton.mp hmem
  | @executes text given hstatement hreply hstep =>
    have hmade := made_of_step hstep
    rw [hmade]
    refine rollback_not_mem fun f hraised => ?_
    cases howns : a.engine.owns f with
    | false => rfl
    | true =>
      -- The plan does not release the cursor, so the adapter would have recovered from this fault.
      obtain ⟨hf, hattempted⟩ := attempted_executionCalls hraised
      refine absurd ⟨hstatement, ⟨f, by rw [hmade, hf], howns⟩, ?_⟩ hrecovers
      unfold untilFault
      rw [hmade, hattempted]
      intro hlast
      have hmem := attempted_subset _ (List.mem_of_getLast? hlast)
      rcases mem_plan hmem with hc | hc | hc | hc <;> cases hc

end Tasks

/-! ## Runs -/

/-- Tasks one after the other make calls and nothing else, and none of them is rolled back if all
succeed. -/
theorem afterTasks_calls (hconnected : a.connected = true) (h : a.connection = some n)
    (hengine : a.engine.isSqlite = true ∨ a.engine = .postgres) (later : List Task) :
    ∃ made, a.afterTasks later = a.after made ∧ (a.Succeeding later → .rollback n ∉ made) := by
  induction later generalizing a with
  | nil => exact ⟨[], (after_nil a).symm, fun _ hmem => nomatch hmem⟩
  | cons t rest ih =>
    obtain ⟨front, hstep, hfront⟩ := (task_does hconnected h hengine t).not_rollback
    obtain ⟨back, hrest, hback⟩ := ih (a := a.step t.op) (by rw [hstep]; exact hconnected)
      (by rw [hstep]; exact h) (by rw [hstep]; exact hengine)
    refine ⟨front ++ back, ?_, fun hsucceeding hmem => ?_⟩
    · show (a.step t.op).afterTasks rest = _
      rw [hrest, hstep, after_after]
    · rcases List.mem_append.mp hmem with hmem | hmem
      · exact hfront hsucceeding.1 hmem
      · exact hback hsucceeding.2 hmem

theorem sinceFault_eq {t : Task} {later : List Task} {front back : List DriverCall}
    (hfront : a.step t.op = a.after front)
    (hback : (a.step t.op).afterTasks later = (a.step t.op).after back) :
    a.sinceFault t later = (front ++ back).drop (a.untilFault t.op).length := by
  unfold sinceFault
  rw [hback, hfront, after_after, after_calls, List.length_append, List.drop_append,
    List.drop_eq_nil_of_le (by omega), List.nil_append, Nat.add_sub_cancel_left]

/-- **Whether work that is left behind is undone.** When work fails after it was handed to the
driver, it is rolled back before the next commit on its connection, whatever comes later, if the
adapter recovers. If it does not, nothing is rolled back, and when later work succeeds a commit
makes the work that has failed permanent. -/
theorem failed_work_undone_iff (hconnected : a.connected = true) (h : a.connection = some n)
    (hengine : a.engine.isSqlite = true ∨ a.engine = .postgres) {t : Task}
    (hleaves : a.LeavesWork n t) (later : List Task) :
    (a.Recovers n t → Undoes n (a.sinceFault t later)) ∧
      ((a.step t.op).Succeeding later → .commit n ∈ a.sinceFault t later →
        (Undoes n (a.sinceFault t later) ↔ a.Recovers n t)) := by
  have hdoes := task_does hconnected h hengine t
  obtain ⟨front, hstep, -⟩ := hdoes.not_rollback
  obtain ⟨back, hrun, hback⟩ := afterTasks_calls (a := a.step t.op)
    (by rw [hstep]; exact hconnected) (by rw [hstep]; exact h) (by rw [hstep]; exact hengine) later
  have hmade : a.made t.op = front := made_of_step hstep
  have hsince := sinceFault_eq hstep hrun
  have hundoes : a.Recovers n t → Undoes n (a.sinceFault t later) := by
    intro hrecovers
    obtain ⟨more, hmore⟩ := hdoes.rollback_of_recovers hengine hleaves hrecovers
    rw [hsince, ← hmade, hmore, List.append_assoc, List.drop_left]
    exact .of_rollback _
  refine ⟨hundoes, fun hsucceeding hcommit => ⟨fun hundone => ?_, hundoes⟩⟩
  -- Neither the rest of the failed task nor what comes later rolls back, so the commit comes first.
  refine Classical.byContradiction fun hrecovers => not_undoes hcommit ?_ hundone
  rw [hsince]
  intro hmem
  rcases List.mem_append.mp (List.mem_of_mem_drop hmem) with hmem | hmem
  · rw [← hmade] at hmem
    exact hdoes.not_rollback_of_not_recovers hrecovers hmem
  · exact hback hsucceeding hmem

/-- A PostgreSQL adapter whose first statement is rejected. -/
def rejecting : Adapter :=
  scripted .postgres { results := [{ fault := some (.driver .postgres "duplicate key") }] }

/-- A statement that changes rows. -/
def insertion : Task := .statement "INSERT INTO t (a) VALUES (1) RETURNING id" .null

/-- Another one. -/
def deletion : Task := .statement "DELETE FROM u" .null

theorem failed_work_undone_rejected :
    rejecting.LeavesWork 0 insertion ∧ Undoes 0 (rejecting.sinceFault insertion [deletion]) ∧
      .commit 0 ∈ rejecting.sinceFault insertion [deletion] := by
  have hleaves : rejecting.LeavesWork 0 insertion := by
    refine ⟨⟨_, rfl⟩, ⟨_, List.mem_cons_of_mem _ (List.mem_cons_self ..), rfl⟩, ?_, ?_⟩
    · intro hmem
      cases List.mem_singleton.mp hmem
    · intro hsqlite
      cases hsqlite
  have hrecovers : rejecting.Recovers 0 insertion := by
    refine ⟨rfl, ⟨_, rfl, rfl⟩, ?_⟩
    intro hlast
    cases hlast
  have hsince : rejecting.sinceFault insertion [deletion] =
      [.rollback 0, .closeCursor 0, .cursor 0, .execute 0 "DELETE FROM u" none, .commit 0,
        .closeCursor 0] := rfl
  refine ⟨hleaves, (failed_work_undone_iff rfl rfl (.inr rfl) hleaves _).1 hrecovers, ?_⟩
  rw [hsince]
  simp

/-- A PostgreSQL adapter whose first statement returns a row that cannot be read. -/
def unreadable : Adapter :=
  scripted .postgres {
    results := [{
      answer := { columns := some ["id"], rows := [[.int 1]] }
      fetchFault := some (.foreign .value "bad value") }] }

/-- An SQLite adapter whose scripts are rejected in the middle of a transaction. -/
def breaking : Adapter :=
  scripted .sqlite { inTransaction := true, scriptFault := some (.driver .sqlite "syntax error") }

/-- A script that fails with its transaction open. -/
def unfinished : Task := .script "BEGIN; INSERT INTO t VALUES (1); INSERT"

/-- Failed work that the next statement makes permanent: a statement whose rows cannot be read, and
a script that the driver rejects. -/
theorem failed_work_committed :
    (unreadable.LeavesWork 0 insertion ∧ ¬Undoes 0 (unreadable.sinceFault insertion [deletion])) ∧
      breaking.LeavesWork 0 unfinished ∧
        ¬Undoes 0 (breaking.sinceFault unfinished [deletion]) := by
  have hstatement : unreadable.LeavesWork 0 insertion := by
    refine ⟨⟨_, rfl⟩, ⟨_, List.mem_cons_of_mem _ (List.mem_cons_self ..), rfl⟩, ?_, ?_⟩
    · rintro (_ | ⟨_, _ | ⟨_, hmem⟩⟩)
      cases hmem
    · intro hsqlite
      cases hsqlite
  have hscript : breaking.LeavesWork 0 unfinished :=
    ⟨⟨_, rfl⟩, ⟨_, List.mem_cons_self .., rfl⟩, fun hmem => (nomatch hmem), fun _ => rfl⟩
  have hunreadable : unreadable.sinceFault insertion [deletion] =
      [.closeCursor 0, .cursor 0, .execute 0 "DELETE FROM u" none, .commit 0, .closeCursor 0] :=
    rfl
  have hbreaking : breaking.sinceFault unfinished [deletion] =
      [.cursor 0, .execute 0 "DELETE FROM u" none, .commit 0, .closeCursor 0] := rfl
  refine ⟨⟨hstatement, ?_⟩, hscript, ?_⟩
  · rw [hunreadable]
    exact not_undoes (by simp) (by simp)
  · rw [hbreaking]
    exact not_undoes (by simp) (by simp)

end Adapter

end FluentQuery
