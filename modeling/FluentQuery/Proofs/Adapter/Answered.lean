import FluentQuery.Proofs.Adapter.Course

/-!
# Executions that are answered

On a connected adapter whose driver raises nothing, an execution succeeds, and what it gives is
what the driver answers to the statement.

* **`Adapter.Undisturbed`** — no call fails from now on;
* **`Adapter.Answers`** — what the driver answers to a statement, whatever calls come in between;
* **`Adapter.execute_undisturbed`** — the calls that an execution makes then, and what it gives;
* **`Adapter.Succeeds`** — an action gives a result and does nothing to the adapter but make calls;
* **`Adapter.executeQuery_succeeds`**, **`Adapter.executeCount_succeeds`** — the rows of an answer,
  and the number in one.
-/

namespace FluentQuery

namespace Adapter

variable {α β : Type} {a : Adapter}

/-- No call fails from now on. -/
def Undisturbed (a : Adapter) : Prop := ∀ made, a.driver.fault (a.calls ++ made) = none

theorem Undisturbed.after (h : a.Undisturbed) (made : List DriverCall) :
    (a.after made).Undisturbed := by
  intro more
  rw [after_driver, after_calls, List.append_assoc]
  exact h (made ++ more)

theorem Undisturbed.raised (h : a.Undisturbed) (plan : List DriverCall) : a.raised plan = none := by
  induction plan generalizing a with
  | nil => rfl
  | cons c rest ih => rw [raised_cons_of_none (h [c]), ih (h.after [c])]

/-- The driver answers a statement in a certain way from now on. -/
def Answers (a : Adapter) (sql : String) (params : List Value) (answer : Answer) : Prop :=
  ∀ made n, a.driver.answer (a.calls ++ made ++
    [handing n (a.engine.prepare sql params).1 (a.engine.prepare sql params).2]) = answer

theorem Answers.after {sql : String} {params : List Value} {answer : Answer}
    (h : a.Answers sql params answer) (made : List DriverCall) :
    (a.after made).Answers sql params answer := by
  intro more n
  have hmore := h (made ++ more) n
  rw [← List.append_assoc] at hmore
  exact hmore

/-- An action gives a result, and all it does to the adapter is to make calls. -/
def Succeeds (act : Action Adapter α) (a : Adapter) (x : α) : Prop :=
  ∀ records, ∃ made, act.runFrom ⟨a, records⟩ = (.ok x, ⟨a.after made, records⟩)

namespace Succeeds

theorem pure (x : α) : Succeeds (pure x) a x := fun records => ⟨[], by rw [after_nil]; rfl⟩

theorem ofExcept_ok (x : α) : Succeeds (Action.ofExcept (.ok x)) a x :=
  fun records => ⟨[], by rw [after_nil]; rfl⟩

theorem bind {act : Action Adapter α} {f : α → Action Adapter β} {x : α} {y : β}
    (h : Succeeds act a x) (hf : ∀ made, Succeeds (f x) (a.after made) y) :
    Succeeds (act >>= f) a y := by
  intro records
  obtain ⟨front, hfront⟩ := h records
  obtain ⟨back, hback⟩ := hf front records
  rw [after_after] at hback
  exact ⟨front ++ back, by rw [Action.runFrom_bind_ok hfront, hback]⟩

theorem bind_current {f : Adapter → Action Adapter β} {y : β} (h : Succeeds (f a) a y) :
    Succeeds (Action.current >>= f) a y := h

end Succeeds

/-- A plan is carried out to its end where no call fails. -/
theorem Carries.runFrom_undisturbed {act : Action Adapter α} {plan : List DriverCall} {x : α}
    (h : Carries act a plan x) (hquiet : a.Undisturbed) (records : List LogRecord) :
    act.runFrom ⟨a, records⟩ = (.ok x, ⟨a.after plan, records⟩) := by
  rw [h records, attempted_of_raised_none (hquiet.raised plan)]
  unfold planned
  rw [hquiet.raised plan]

variable {n : Nat}

/-- Where no call fails, an execution makes the calls of its plan and releases its cursor; it gives
what the driver answers to the statement, and writes no record. -/
theorem execute_undisturbed (hquiet : a.Undisturbed) (hconnected : a.connected = true)
    (hconnection : a.connection = some n) (sql : String) (params : List Value)
    (records : List LogRecord) :
    (execute sql (.list params)).runFrom ⟨a, records⟩ =
      (.ok ((a.after (a.withCursor (.cursor n))).executed n (a.engine.prepare sql params).1
          (a.engine.prepare sql params).2),
        ⟨a.after (a.plan n (a.engine.prepare sql params).1 (a.engine.prepare sql params).2 ++
          a.withCursor (.closeCursor n)), records⟩) := by
  rw [execute_runFrom hconnected (boundValues_list params),
    (takeCursor_carries hconnection).runFrom_undisturbed hquiet]
  generalize (a.engine.prepare sql params).1 = text
  generalize (a.engine.prepare sql params).2 = given
  unfold plan
  generalize a.withCursor (.cursor n) = front
  have hwork := (work_carries (a := a.after front) hconnection text given).runFrom_undisturbed
    (hquiet.after front) records
  have hrelease := (release_carries (a := (a.after front).after
    ((a.after front).working n text given)) hconnection).runFrom_undisturbed
      ((hquiet.after front).after _) records
  unfold attend
  simp only
  rw [Action.runFrom_bind_ok (Action.runFrom_attempt _ _), hwork]
  simp only [pure_bind]
  rw [Action.runFrom_bind_ok hrelease, after_after, after_after, List.append_assoc]
  rfl

theorem execute_succeeds (hquiet : a.Undisturbed) (hconnected : a.connected = true)
    (hconnection : a.connection = some n) {sql : String} {params : List Value} {answer : Answer}
    (hanswer : a.Answers sql params answer) :
    Succeeds (execute sql (.list params)) a
      (answer.execution (a.engine.prepare sql params).1) := by
  intro records
  have hrun := execute_undisturbed hquiet hconnected hconnection sql params records
  have hexecuted : (a.after (a.withCursor (.cursor n))).executed n (a.engine.prepare sql params).1
      (a.engine.prepare sql params).2 = answer.execution (a.engine.prepare sql params).1 := by
    unfold executed
    rw [after_driver, after_calls, hanswer]
  rw [hexecuted] at hrun
  exact ⟨_, hrun⟩

/-- The rows of an answer with columns. -/
theorem executeQuery_succeeds (hquiet : a.Undisturbed) (hconnected : a.connected = true)
    (hconnection : a.connection = some n) {sql : String} {params : List Value}
    {columns : List String} {rows : List (List Value)} (hcolumns : columns ≠ [])
    (hanswer : a.Answers sql params { columns := some columns, rows }) :
    Succeeds (executeQuery sql (.list params)) a (rows.map (rowOf columns)) := by
  refine (execute_succeeds hquiet hconnected hconnection hanswer).bind fun _ => ?_
  have hrows : (Answer.execution { columns := some columns, rows }
      (a.engine.prepare sql params).1).rows = rows.map (rowOf columns) := by
    cases columns with
    | nil => exact absurd rfl hcolumns
    | cons c cs => rfl
  rw [hrows]
  exact .pure _

/-- The number in an answer of one row with one column. -/
theorem executeCount_succeeds (hquiet : a.Undisturbed) (hconnected : a.connected = true)
    (hconnection : a.connection = some n) {sql : String} {params : List Value} {column : String}
    {total : Int}
    (hanswer : a.Answers sql params { columns := some [column], rows := [[.int total]] }) :
    Succeeds (executeCount sql (.list params)) a total := by
  refine (execute_succeeds hquiet hconnected hconnection hanswer).bind fun _ => ?_
  exact Succeeds.bind_current (.ofExcept_ok total)

end Adapter

end FluentQuery
