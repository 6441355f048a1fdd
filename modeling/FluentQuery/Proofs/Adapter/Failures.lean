import FluentQuery.Proofs.Adapter.Course

/-!
# Failures of an adapter

An adapter fails with faults of its driver, with its own errors around them and with misuses, but
never as the builder does: what the builder raises was raised before the adapter was used.

* **`Failure.IsForeign`** — a failure that is not the builder's;
* **`Adapter.execute_fails`** — an execution fails with no other, and so do the operations that
  read something off its rows.
-/

namespace FluentQuery

/-- A failure that is not the builder's. -/
def Failure.IsForeign : Failure → Prop
  | .builder _ => False
  | _ => True

/-- What fails after a step failed in the step or behind it. -/
theorem Failure.of_bind {α β : Type} {P : Failure → Prop} {r : Except Failure α}
    {f : α → Except Failure β} (hr : ∀ e, r = .error e → P e)
    (hf : ∀ x e, f x = .error e → P e) {e : Failure} (h : (r >>= f) = .error e) : P e := by
  cases r with
  | error e' =>
    cases h
    exact hr e rfl
  | ok x => exact hf x e h

/-- What fails when something is made of a result alone failed before. -/
theorem Failure.of_bind_pure {α β : Type} {P : Failure → Prop} {r : Except Failure α} {f : α → β}
    (hr : ∀ e, r = .error e → P e) {e : Failure} (h : (r >>= fun x => pure (f x)) = .error e) :
    P e := by
  refine of_bind hr (fun x e' he => ?_) h
  cases he

namespace Adapter

open FluentQuery.Action

theorem call_fails (c : DriverCall) : FailsWith Failure.IsForeign (call c) := by
  intro j e he
  rw [call_runFrom] at he
  unfold outcome at he
  split at he
  · cases he
    exact trivial
  · cases he

theorem held_fails (member : String) : FailsWith Failure.IsForeign (held member) := by
  refine .bind .current fun a => ?_
  split
  · exact .pure _
  · exact .throw trivial

theorem callHeld_fails (member : String) (c : Nat → DriverCall) :
    FailsWith Failure.IsForeign (do call (c (← held member))) :=
  .bind (held_fails member) fun n => call_fails (c n)

theorem takeCursor_fails : FailsWith Failure.IsForeign takeCursor := by
  refine .bind .current fun a => ?_
  split
  · exact .pure _
  · exact callHeld_fails "cursor" .cursor

theorem release_fails : FailsWith Failure.IsForeign release := by
  refine .bind .current fun a => ?_
  split
  · exact .pure _
  · exact callHeld_fails "cursor" .closeCursor

theorem endOpen_fails (member : String) (c : Nat → DriverCall) :
    FailsWith Failure.IsForeign (do if ← isInTransaction then call (c (← held member))) := by
  refine .bind (.bind .current fun _ => .pure _) fun b => ?_
  split
  · exact callHeld_fails member c
  · exact .pure _

theorem commit_fails : FailsWith Failure.IsForeign commit := by
  refine .bind .current fun a => ?_
  cases a.engine with
  | sqlite => exact endOpen_fails "commit" .commit
  | other => exact endOpen_fails "commit" .commit
  | postgres => exact callHeld_fails "commit" .commit
  | duckdb => exact .pure _
  | fake => exact .pure _

theorem rollback_fails : FailsWith Failure.IsForeign rollback := by
  refine .bind .current fun a => ?_
  cases a.engine with
  | sqlite => exact endOpen_fails "rollback" .rollback
  | other => exact endOpen_fails "rollback" .rollback
  | postgres =>
    refine .attempt_bind (callHeld_fails "rollback" .rollback) (fun _ => .pure _) fun e he => ?_
    simp only
    split
    · exact .log _ _ _
    · exact .throw he
  | duckdb => exact .pure _
  | fake => exact .pure _

theorem collect_fails (n : Nat) (sql : String) : FailsWith Failure.IsForeign (collect n sql) := by
  refine .bind .current fun a => ?_
  have hend : FailsWith Failure.IsForeign (do
      commit
      return (a.driver.answer a.calls).execution sql) := .bind commit_fails fun _ => .pure _
  show FailsWith _ (if (!((a.driver.answer a.calls).columns.getD []).isEmpty) = true then _ else _)
  split
  · exact .bind (call_fails _) fun _ => hend
  · exact hend

theorem work_fails (sql : String) (params : List Value) :
    FailsWith Failure.IsForeign (work sql params) := by
  rw [work_eq]
  exact .bind (held_fails _) fun n => .bind (call_fails _) fun _ => collect_fails n sql

theorem recover_fails {α : Type} (what : String) {e : Failure} (he : e.IsForeign) :
    FailsWith Failure.IsForeign (recover what e : Action Adapter α) := by
  refine .bind .current fun a => ?_
  cases a.engine.ownFault? e with
  | some f => exact .bind rollback_fails fun _ => .throw trivial
  | none => exact .throw he

theorem boundValues_fails {params : Value} {e : Failure} (h : boundValues params = .error e) :
    e.IsForeign := by
  unfold boundValues at h
  split at h
  · cases h
  · split at h
    · cases h
    · cases h
      exact trivial

/-- No failure of an execution is the builder's. -/
theorem execute_fails (sql : String) (params : Value) :
    FailsWith Failure.IsForeign (execute sql params) := by
  refine .bind .current fun a => ?_
  -- The cursor is released behind whatever came of the work.
  have hend : ∀ r : Except Failure Execution, (∀ e, r = .error e → e.IsForeign) →
      FailsWith Failure.IsForeign (do release; Action.ofExcept r) :=
    fun r hr => .bind release_fails fun _ => .ofExcept hr
  have hok : ∀ x : Execution, FailsWith Failure.IsForeign (do
      release
      Action.ofExcept (.ok x)) := by
    intro x
    refine hend (.ok x) fun e he => ?_
    cases he
  cases a.connected with
  | false => exact .throw trivial
  | true =>
    refine FailsWith.bind (.ofExcept fun e he => boundValues_fails he) fun values => ?_
    refine FailsWith.attempt_bind takeCursor_fails (fun _ => ?_) fun e he => recover_fails _ he
    refine FailsWith.attempt_bind (work_fails _ _) hok fun e he => ?_
    refine FailsWith.attempt_bind (recover_fails _ he) hok fun e he => hend (.error e) ?_
    intro e' he'
    cases he'
    exact he

theorem countOf_fails {engine : Engine} {rows : List Row} {e : Failure}
    (h : countOf engine rows = .error e) : e.IsForeign := by
  unfold countOf at h
  split at h
  · cases h
  · cases h
  · split at h
    · cases h
    · cases h
      exact trivial
    · cases h
      unfold notCounted
      split <;> exact trivial

theorem changedOf_fails {rows : List Row} {e : Failure} (h : changedOf rows = .error e) :
    e.IsForeign := by
  unfold changedOf at h
  split at h
  · cases h
  · cases h
    exact trivial
  · split at h
    · cases h
    · cases h
      exact trivial

theorem executeQuery_fails (sql : String) (params : Value) :
    FailsWith Failure.IsForeign (executeQuery sql params) :=
  .bind (execute_fails sql params) fun _ => .pure _

theorem executeCount_fails (sql : String) (params : Value) :
    FailsWith Failure.IsForeign (executeCount sql params) :=
  .bind (execute_fails sql params) fun _ =>
    .bind .current fun _ => .ofExcept fun _ he => countOf_fails he

theorem executeUpdate_fails (sql : String) (params : Value) :
    FailsWith Failure.IsForeign (executeUpdate sql params) := by
  refine .bind (execute_fails sql params) fun result => .bind .current fun a => ?_
  split
  · exact .bind (.ofExcept fun e he => changedOf_fails he) fun _ => .pure _
  · exact .pure _

end Adapter

end FluentQuery
