import Mathlib.Data.List.Forall2
import FluentQuery.Adapter.Script
import FluentQuery.Proofs.Action.Pair
import FluentQuery.Proofs.Adapter.Calls

/-!
# Adapters that cannot be told apart

Two adapters are run side by side. Executions look at an adapter's engine and connection and at
what its driver does, and all they do to it is to make calls. So a relation between adapters that
agree in all this, and that related calls keep, makes whole executions come out alike.

* **`Adapter.Bisimulation`** — such a relation, for a relation between calls;
* **`Adapter.Interchange`** — values that can be handed over in each other's place;
* **`Adapter.Bisimulation.execute_agree`** — executions come out alike, and so do the operations
  that read something off their rows;
* **`Script.fault_eq`**, **`Script.answer_eq`** — a driver that follows a script does not look at
  what calls hand over.
-/

namespace FluentQuery

/-- Whether a call binds values. -/
def DriverCall.binds : DriverCall → Bool
  | .execute _ _ (some _) => true
  | _ => false

namespace Adapter

open FluentQuery.Action

/-- Related adapters agree in all that an execution looks at, and they stay related when they make
related calls. -/
structure Bisimulation (C : DriverCall → DriverCall → Prop) (R : Adapter → Adapter → Prop) :
    Prop where
  same : ∀ c, c.binds = false → C c c
  engine : ∀ x y, R x y → y.engine = x.engine
  connection : ∀ x y, R x y → y.connection = x.connection
  connected : ∀ x y, R x y → y.connected = x.connected
  fault : ∀ x y c c', R x y → C c c' →
    x.driver.fault (x.calls ++ [c]) = y.driver.fault (y.calls ++ [c'])
  answer : ∀ x y, R x y → x.driver.answer x.calls = y.driver.answer y.calls
  inTransaction : ∀ x y, R x y → x.driver.inTransaction x.calls = y.driver.inTransaction y.calls
  after : ∀ x y c c', R x y → C c c' → R (x.after [c]) (y.after [c'])

/-- As many values on either side, with which a statement is handed over by related calls. -/
structure Interchange (C : DriverCall → DriverCall → Prop) (p p' : List Value) : Prop where
  length : p.length = p'.length
  handing : ∀ n sql, C (handing n sql p) (handing n sql p')

/-- Whether an engine rewrites a text depends on whether there are values, and not on which. -/
theorem prepare_alike {p p' : List Value} (hlength : p.length = p'.length) (e : Engine)
    (sql : String) : ∃ text, e.prepare sql p = (text, p) ∧ e.prepare sql p' = (text, p') := by
  have hnil : p ≠ [] ↔ p' ≠ [] := by
    rw [← List.length_pos_iff, ← List.length_pos_iff, hlength]
  unfold Engine.prepare
  by_cases hformats : e = .postgres ∧ p ≠ []
  · rw [if_pos hformats, if_pos ⟨hformats.1, hnil.mp hformats.2⟩]
    exact ⟨_, rfl, rfl⟩
  · rw [if_neg hformats, if_neg fun h => hformats ⟨h.1, hnil.mpr h.2⟩]
    exact ⟨_, rfl, rfl⟩

namespace Bisimulation

variable {α : Type} {C : DriverCall → DriverCall → Prop} {R : Adapter → Adapter → Prop}
  (h : Bisimulation C R)

include h

/-! ## One call -/

theorem call_agree {c c' : DriverCall} (hc : C c c') : Agree R Eq (call c) (call c') := by
  intro x y records hxy
  rw [call_runFrom, call_runFrom]
  refine ⟨?_, h.after x y c c' hxy hc, rfl⟩
  unfold outcome
  rw [h.fault x y c c' hxy hc]
  exact .refl _

theorem held_agree (member : String) : Agree R Eq (held member) (held member) := by
  refine .bind .current fun x y hxy => ?_
  rw [h.connection x y hxy]
  split
  · exact .pure rfl
  · exact .throw _

theorem callHeld_agree (member : String) {c : Nat → DriverCall} (hc : ∀ n, (c n).binds = false) :
    Agree R Eq (do call (c (← held member))) (do call (c (← held member))) := by
  refine .bind (h.held_agree member) fun n m hnm => ?_
  subst hnm
  exact h.call_agree (h.same _ (hc n))

/-! ## One execution -/

theorem takeCursor_agree : Agree R Eq takeCursor takeCursor := by
  refine .bind .current fun x y hxy => ?_
  rw [h.engine x y hxy]
  split
  · exact .pure rfl
  · exact h.callHeld_agree "cursor" fun _ => rfl

theorem release_agree : Agree R Eq release release := by
  refine .bind .current fun x y hxy => ?_
  rw [h.engine x y hxy]
  split
  · exact .pure rfl
  · exact h.callHeld_agree "cursor" fun _ => rfl

theorem endOpen_agree (member : String) {c : Nat → DriverCall} (hc : ∀ n, (c n).binds = false) :
    Agree R Eq (do if ← isInTransaction then call (c (← held member)))
      (do if ← isInTransaction then call (c (← held member))) := by
  have hopen : Agree R Eq isInTransaction isInTransaction := by
    refine .bind .current fun x y hxy => ?_
    rw [h.inTransaction x y hxy]
    exact .pure rfl
  refine .bind hopen fun t u htu => ?_
  subst htu
  split
  · exact h.callHeld_agree member hc
  · exact .pure rfl

theorem commit_agree : Agree R Eq commit commit := by
  refine .bind .current fun x y hxy => ?_
  rw [h.engine x y hxy]
  cases x.engine with
  | sqlite => exact h.endOpen_agree "commit" fun _ => rfl
  | other => exact h.endOpen_agree "commit" fun _ => rfl
  | postgres => exact h.callHeld_agree "commit" fun _ => rfl
  | duckdb => exact .pure rfl
  | fake => exact .pure rfl

theorem rollback_agree : Agree R Eq rollback rollback := by
  refine .bind .current fun x y hxy => ?_
  rw [h.engine x y hxy]
  cases x.engine with
  | sqlite => exact h.endOpen_agree "rollback" fun _ => rfl
  | other => exact h.endOpen_agree "rollback" fun _ => rfl
  | postgres =>
    -- Whether the error is passed over depends on the error, which is the same in both runs.
    refine .bind (Agree.attempt (h.callHeld_agree "rollback" fun _ => rfl)) fun r r' hr => ?_
    cases hr with
    | ok hu => exact .pure rfl
    | error e =>
      simp only
      split
      · exact .log _ _ _
      · exact .throw _
  | duckdb => exact .pure rfl
  | fake => exact .pure rfl

theorem recover_agree (what : String) (e : Failure) :
    Agree R Eq (recover what e : Action Adapter α) (recover what e) := by
  refine .bind .current fun x y hxy => ?_
  rw [h.engine x y hxy]
  split
  · exact .bind h.rollback_agree fun _ _ _ => .throw _
  · exact .throw _

theorem collect_agree (n : Nat) (sql : String) :
    Agree R Eq (collect n sql) (collect n sql) := by
  refine .bind .current fun x y hxy => ?_
  rw [h.answer x y hxy]
  have hend : ∀ execution : Execution,
      Agree R Eq (do commit; return execution) (do commit; return execution) :=
    fun _ => .bind h.commit_agree fun _ _ _ => .pure rfl
  simp only
  split
  · exact .bind (h.call_agree (h.same _ rfl)) fun _ _ _ => hend _
  · exact hend _

variable {p p' : List Value}

theorem work_agree (hvalues : Interchange C p p') (sql : String) :
    Agree R Eq (work sql p) (work sql p') := by
  rw [work_eq, work_eq]
  refine .bind (h.held_agree "execute") fun n m hnm => ?_
  subst hnm
  exact .bind (h.call_agree (hvalues.handing n sql)) fun _ _ _ => h.collect_agree n sql

/-- Executions of a statement with values that can be interchanged come out alike, and so do those
whose values cannot be listed for the same reason. -/
theorem execute_agree {v v' : Value}
    (hvalues : Alike (Interchange C) (boundValues v) (boundValues v')) (sql : String) :
    Agree R Eq (execute sql v) (execute sql v') := by
  refine .bind .current fun x y hxy => ?_
  rw [h.engine x y hxy, h.connected x y hxy]
  have hend : ∀ outcome : Except Failure Execution,
      Agree R Eq (do release; Action.ofExcept outcome) (do release; Action.ofExcept outcome) :=
    fun outcome => .bind h.release_agree fun _ _ _ => .ofExcept (.refl outcome)
  cases x.connected with
  | false => exact .throw _
  | true =>
    refine .bind (.ofExcept hvalues) fun p p' hp => ?_
    obtain ⟨text, htext, htext'⟩ := prepare_alike hp.length x.engine sql
    rw [htext, htext']
    refine .bind (Agree.attempt h.takeCursor_agree) fun r r' hr => ?_
    cases hr with
    | error e => exact h.recover_agree _ e
    | ok hu =>
      refine .bind (Agree.attempt (h.work_agree hp text)) fun r r' hr => ?_
      cases hr with
      | ok hx =>
        subst hx
        exact hend (.ok _)
      | error e =>
        -- The cursor is released whatever becomes of the rollback.
        refine .bind (Agree.attempt (h.recover_agree _ e)) fun r r' hr => ?_
        rw [hr.eq]
        exact hend r'

section Operations

variable {v v' : Value} (hvalues : Alike (Interchange C) (boundValues v) (boundValues v'))
  (sql : String)

include hvalues

theorem executeQuery_agree : Agree R Eq (executeQuery sql v) (executeQuery sql v') :=
  .bind (h.execute_agree hvalues sql) fun _ _ hx => .pure (congrArg Execution.rows hx)

theorem executeCount_agree : Agree R Eq (executeCount sql v) (executeCount sql v') := by
  refine .bind (h.execute_agree hvalues sql) fun r r' hr => ?_
  subst hr
  refine .bind .current fun x y hxy => ?_
  rw [h.engine x y hxy]
  exact .ofExcept (.refl _)

theorem executeUpdate_agree : Agree R Eq (executeUpdate sql v) (executeUpdate sql v') := by
  refine .bind (h.execute_agree hvalues sql) fun r r' hr => ?_
  subst hr
  refine .bind .current fun x y hxy => ?_
  rw [h.engine x y hxy]
  split
  · refine .bind (.ofExcept (.refl _)) fun n m hnm => ?_
    subst hnm
    exact .pure rfl
  · exact .pure rfl

end Operations

/-- A statement of the adapter's own, without values. -/
theorem alike_boundValues_null : Alike (Interchange C) (boundValues .null) (boundValues .null) :=
  .ok ⟨rfl, fun _ _ => h.same _ rfl⟩

theorem healthCheck_agree : Agree R Eq healthCheck healthCheck := by
  refine .bind .current fun x y hxy => ?_
  rw [h.connected x y hxy]
  cases x.connected with
  | false => exact .pure rfl
  | true =>
    refine .bind (Agree.attempt (h.execute_agree h.alike_boundValues_null "SELECT 1"))
      fun r r' hr => ?_
    rw [hr.eq]
    cases r' with
    | ok execution => exact .pure rfl
    | error e =>
      cases e with
      | connection f => exact .pure rfl
      | statement f => exact .pure rfl
      | _ => exact .throw _

theorem executeScript_agree (script : String) :
    Agree R Eq (executeScript script) (executeScript script) := by
  refine .bind .current fun x y hxy => ?_
  rw [h.engine x y hxy, h.connected x y hxy]
  cases hengine : x.engine with
  | postgres => exact .throw _
  | fake => exact .throw _
  | _ =>
    cases x.connected with
    | false => exact .throw _
    | true =>
      refine .bind (Agree.attempt (h.callHeld_agree "execute" fun n => by split <;> rfl))
        fun r r' hr => ?_
      rw [hr.eq]
      cases r' with
      | ok u => exact .pure rfl
      | error e =>
        simp only
        split <;> exact .throw _

end Bisimulation

end Adapter

/-! ## Scripted drivers -/

/-- A call without what it hands over. -/
def DriverCall.bare : DriverCall → DriverCall
  | .connect _ _ => .connect [] []
  | .execute n sql _ => .execute n sql none
  | c => c

theorem DriverCall.map_bare_eq {C : DriverCall → DriverCall → Prop} {calls calls' : List DriverCall}
    (hC : ∀ c c', C c c' → c.bare = c'.bare) (h : List.Forall₂ C calls calls') :
    calls.map DriverCall.bare = calls'.map DriverCall.bare := by
  induction h with
  | nil => rfl
  | cons hc _ ih => rw [List.map_cons, List.map_cons, hC _ _ hc, ih]

namespace Script

variable {calls calls' : List DriverCall}

theorem lastResult_bare (s : Script) (calls : List DriverCall) :
    s.lastResult (calls.map DriverCall.bare) = s.lastResult calls := by
  have hcount : statementCount (calls.map DriverCall.bare) = statementCount calls := by
    unfold statementCount
    rw [List.countP_map]
    refine List.countP_congr fun c _ => ?_
    cases c <;> rfl
  unfold lastResult
  rw [hcount]

theorem fault_bare (s : Script) (calls : List DriverCall) :
    s.driver.fault (calls.map DriverCall.bare) = s.driver.fault calls := by
  unfold driver
  simp only [List.getLast?_map, lastResult_bare]
  cases calls.getLast? with
  | none => rfl
  | some c => cases c <;> rfl

theorem fault_eq (s : Script) (h : calls.map DriverCall.bare = calls'.map DriverCall.bare) :
    s.driver.fault calls = s.driver.fault calls' := by
  rw [← fault_bare, h, fault_bare]

theorem answer_eq (s : Script) (h : calls.map DriverCall.bare = calls'.map DriverCall.bare) :
    s.driver.answer calls = s.driver.answer calls' := by
  show (s.lastResult calls).answer = (s.lastResult calls').answer
  rw [← lastResult_bare, h, lastResult_bare]

end Script

end FluentQuery
