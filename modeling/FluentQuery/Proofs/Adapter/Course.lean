import FluentQuery.Adapter.Script
import FluentQuery.Proofs.Adapter.Calls

/-!
# The course of an execution

What an execution does on a connection is planned: take a cursor, hand over the statement, fetch
rows if there are columns, commit if there is something to commit. The calls of a plan are made one
after the other up to the first that raises. What follows depends on that fault alone, and on
whether the cursor was taken at all.

* **`Adapter.attempted`**, **`Adapter.raised`** — the calls of a plan that are made, and what stops
  them;
* **`Adapter.Carries`** — an action carries out a plan; closed under sequence;
* **`Adapter.executionCalls`**, **`Adapter.executionResult`** — all calls of one execution and what
  it gives;
* **`Adapter.execute_course`**, **`Adapter.executeScript_course`** — an execution and a script do
  just that.
-/

namespace FluentQuery

/-- The outcome of a statement with an answer. -/
def Answer.execution (answer : Answer) (sql : String) : Execution where
  rows := if (answer.columns.getD []).isEmpty then []
    else answer.rows.map (Adapter.rowOf (answer.columns.getD []))
  columns := answer.columns.getD []
  rowsAffected := answer.rowCount.getD (.int (-1))
  sql := sql

namespace Adapter

variable {α β : Type} {a : Adapter} {n : Nat}

/-! ## Plans -/

/-- The calls of a plan that are made: those up to the first that raises. -/
def attempted (a : Adapter) : List DriverCall → List DriverCall
  | [] => []
  | c :: rest =>
    match a.driver.fault (a.calls ++ [c]) with
    | some _ => [c]
    | none => c :: (a.after [c]).attempted rest

/-- What the first call of a plan that raises raises. -/
def raised (a : Adapter) : List DriverCall → Option Fault
  | [] => none
  | c :: rest =>
    match a.driver.fault (a.calls ++ [c]) with
    | some f => some f
    | none => (a.after [c]).raised rest

theorem raised_cons_of_some {c : DriverCall} {rest : List DriverCall} {f : Fault}
    (h : a.driver.fault (a.calls ++ [c]) = some f) : a.raised (c :: rest) = some f := by
  simp [raised, h]

theorem raised_cons_of_none {c : DriverCall} {rest : List DriverCall}
    (h : a.driver.fault (a.calls ++ [c]) = none) :
    a.raised (c :: rest) = (a.after [c]).raised rest := by
  simp [raised, h]

theorem attempted_cons_of_some {c : DriverCall} {rest : List DriverCall} {f : Fault}
    (h : a.driver.fault (a.calls ++ [c]) = some f) : a.attempted (c :: rest) = [c] := by
  simp [attempted, h]

theorem attempted_cons_of_none {c : DriverCall} {rest : List DriverCall}
    (h : a.driver.fault (a.calls ++ [c]) = none) :
    a.attempted (c :: rest) = c :: (a.after [c]).attempted rest := by
  simp [attempted, h]

/-- A plan in which nothing raises is carried out to its end. -/
theorem attempted_of_raised_none {plan : List DriverCall} (h : a.raised plan = none) :
    a.attempted plan = plan := by
  induction plan generalizing a with
  | nil => rfl
  | cons c rest ih =>
    cases hc : a.driver.fault (a.calls ++ [c]) with
    | some f =>
      rw [raised_cons_of_some hc] at h
      cases h
    | none =>
      rw [raised_cons_of_none hc] at h
      rw [attempted_cons_of_none hc, ih h]

theorem raised_append (front back : List DriverCall) :
    a.raised (front ++ back) = (a.raised front).or ((a.after front).raised back) := by
  induction front generalizing a with
  | nil => simp [raised]
  | cons c rest ih =>
    cases hc : a.driver.fault (a.calls ++ [c]) with
    | some f =>
      rw [List.cons_append, raised_cons_of_some hc, raised_cons_of_some hc, Option.some_or]
    | none =>
      rw [List.cons_append, raised_cons_of_none hc, raised_cons_of_none hc, ih, after_after]
      rfl

theorem attempted_append_of_none {front : List DriverCall} (h : a.raised front = none)
    (back : List DriverCall) :
    a.attempted (front ++ back) = front ++ (a.after front).attempted back := by
  induction front generalizing a with
  | nil => simp
  | cons c rest ih =>
    cases hc : a.driver.fault (a.calls ++ [c]) with
    | some f =>
      rw [raised_cons_of_some hc] at h
      cases h
    | none =>
      rw [raised_cons_of_none hc] at h
      rw [List.cons_append, attempted_cons_of_none hc, ih h, after_after]
      rfl

theorem attempted_append_of_some {front : List DriverCall} {f : Fault}
    (h : a.raised front = some f) (back : List DriverCall) :
    a.attempted (front ++ back) = a.attempted front := by
  induction front generalizing a with
  | nil => cases h
  | cons c rest ih =>
    cases hc : a.driver.fault (a.calls ++ [c]) with
    | some g => rw [List.cons_append, attempted_cons_of_some hc, attempted_cons_of_some hc]
    | none =>
      rw [raised_cons_of_none hc] at h
      rw [List.cons_append, attempted_cons_of_none hc, attempted_cons_of_none hc, ih h]

theorem attempted_singleton (c : DriverCall) : a.attempted [c] = [c] := by
  cases hc : a.driver.fault (a.calls ++ [c]) with
  | some f => rw [attempted_cons_of_some hc]
  | none => rw [attempted_cons_of_none hc]; rfl

/-- The calls that were made raise what stopped them, and making them again would stop there. -/
theorem raised_attempted (plan : List DriverCall) :
    a.raised (a.attempted plan) = a.raised plan := by
  induction plan generalizing a with
  | nil => rfl
  | cons c rest ih =>
    cases hc : a.driver.fault (a.calls ++ [c]) with
    | some f => rw [attempted_cons_of_some hc, raised_cons_of_some hc, raised_cons_of_some hc]
    | none =>
      rw [attempted_cons_of_none hc, raised_cons_of_none hc, raised_cons_of_none hc, ih]

theorem attempted_attempted (plan : List DriverCall) :
    a.attempted (a.attempted plan) = a.attempted plan := by
  induction plan generalizing a with
  | nil => rfl
  | cons c rest ih =>
    cases hc : a.driver.fault (a.calls ++ [c]) with
    | some f => rw [attempted_cons_of_some hc, attempted_cons_of_some hc]
    | none =>
      rw [attempted_cons_of_none hc, attempted_cons_of_none hc, ih]

theorem attempted_subset (plan : List DriverCall) : a.attempted plan ⊆ plan := by
  induction plan generalizing a with
  | nil => exact fun _ h => h
  | cons c rest ih =>
    cases hc : a.driver.fault (a.calls ++ [c]) with
    | some f => rw [attempted_cons_of_some hc]; simp
    | none =>
      rw [attempted_cons_of_none hc]
      exact List.cons_subset_cons c ih

/-! ## Actions that carry out a plan -/

/-- What a plan comes to: its first fault, or a result. -/
def planned (a : Adapter) (plan : List DriverCall) (x : α) : Except Failure α :=
  match a.raised plan with
  | some f => .error (.fault f)
  | none => .ok x

/-- All an action does is to carry out a plan: it fails with the first fault, and else gives a
result. -/
def Carries (act : Action Adapter α) (a : Adapter) (plan : List DriverCall) (x : α) : Prop :=
  ∀ records, act.runFrom ⟨a, records⟩ = (a.planned plan x, ⟨a.after (a.attempted plan), records⟩)

namespace Carries

theorem pure (x : α) : Carries (pure x) a [] x := by
  intro records
  show (Except.ok x, _) = (Except.ok x, Journaled.mk (a.after []) records)
  rw [after_nil]

/-- The plan of what follows may depend on the calls before it, all of which succeeded. -/
theorem bind {act : Action Adapter α} {f : α → Action Adapter β} {front back : List DriverCall}
    {x : α} {y : β} (h : Carries act a front x) (hf : Carries (f x) (a.after front) back y) :
    Carries (act >>= f) a (front ++ back) y := by
  intro records
  have hrun := h records
  unfold planned at hrun
  cases hfront : a.raised front with
  | some g =>
    -- A fault in front ends the action, and the plan behind it is not begun.
    rw [hfront] at hrun
    rw [Action.runFrom_bind_error hrun, attempted_append_of_some hfront]
    unfold planned
    rw [raised_append, hfront]
    rfl
  | none =>
    rw [hfront, attempted_of_raised_none hfront] at hrun
    rw [Action.runFrom_bind_ok hrun, hf records, attempted_append_of_none hfront, after_after]
    unfold planned
    rw [raised_append, hfront]
    rfl

theorem bind_current {f : Adapter → Action Adapter β} {plan : List DriverCall} {y : β}
    (h : Carries (f a) a plan y) : Carries (Action.current >>= f) a plan y := h

theorem call (c : DriverCall) : Carries (Adapter.call c) a [c] () := by
  intro records
  rw [call_runFrom, attempted_singleton]
  unfold outcome planned
  cases hc : a.driver.fault (a.calls ++ [c]) with
  | some f => rw [raised_cons_of_some hc]
  | none => rw [raised_cons_of_none hc]; rfl

theorem held (h : a.connection = some n) (member : String) :
    Carries (Adapter.held member) a [] n := by
  intro records
  rw [held_runFrom]
  show _ = (Except.ok n, Journaled.mk (a.after []) records)
  rw [after_nil]
  simp only [h]

theorem callHeld (h : a.connection = some n) (member : String) (c : Nat → DriverCall) :
    Carries (do Adapter.call (c (← Adapter.held member))) a [c n] () := by
  refine (held h member).bind ?_
  rw [after_nil]
  exact call (c n)

end Carries

/-! ## The plan of an execution -/

/-- A call for a cursor, where the engine has cursors. -/
def withCursor (a : Adapter) (c : DriverCall) : List DriverCall :=
  if a.engine = .duckdb then [] else [c]

/-- Whether there is work to commit or to roll back, as far as the adapter can tell: always where
every statement opens a transaction, and with SQLite if one is open. -/
def hasPending (a : Adapter) : Bool :=
  match a.engine with
  | .sqlite | .other => a.driver.inTransaction a.calls
  | .postgres => true
  | .duckdb | .fake => false

/-- A call that ends a transaction, if there is pending work. -/
def ending (a : Adapter) (c : DriverCall) : List DriverCall := if a.hasPending then [c] else []

/-- The fetch of the rows, if the statement handed over last has columns. -/
def fetching (a : Adapter) (n : Nat) : List DriverCall :=
  if ((a.driver.answer a.calls).columns.getD []).isEmpty then [] else [.fetchAll n]

/-- The calls that collect the outcome of the statement handed over last. -/
def collecting (a : Adapter) (n : Nat) : List DriverCall :=
  a.fetching n ++ (a.after (a.fetching n)).ending (.commit n)

/-- The calls of a statement. -/
def working (a : Adapter) (n : Nat) (sql : String) (params : List Value) : List DriverCall :=
  handing n sql params :: (a.after [handing n sql params]).collecting n

/-- The execution that a statement comes to if nothing raises. -/
def executed (a : Adapter) (n : Nat) (sql : String) (params : List Value) : Execution :=
  (a.driver.answer (a.calls ++ [handing n sql params])).execution sql

theorem takeCursor_carries (h : a.connection = some n) :
    Carries takeCursor a (a.withCursor (.cursor n)) () := by
  refine Carries.bind_current ?_
  unfold withCursor
  split
  · exact .pure _
  · exact .callHeld h "cursor" .cursor

theorem release_carries (h : a.connection = some n) :
    Carries release a (a.withCursor (.closeCursor n)) () := by
  refine Carries.bind_current ?_
  unfold withCursor
  split
  · exact .pure _
  · exact .callHeld h "cursor" .closeCursor

/-- With SQLite a transaction is ended if one is open. -/
theorem endOpen_carries (h : a.connection = some n) (member : String) (c : Nat → DriverCall) :
    Carries (do if ← isInTransaction then call (c (← held member))) a
      (if a.driver.inTransaction a.calls then [c n] else []) () := by
  show Carries (if a.driver.inTransaction a.calls = true then
    (do call (c (← held member))) else pure () : Action Adapter Unit) a _ ()
  split
  · exact .callHeld h member c
  · exact .pure _

theorem commit_carries (h : a.connection = some n) :
    Carries commit a (a.ending (.commit n)) () := by
  refine Carries.bind_current ?_
  have hopen := endOpen_carries h "commit" .commit
  unfold ending hasPending
  cases a.engine with
  | sqlite => exact hopen
  | other => exact hopen
  | postgres => exact .callHeld h "commit" .commit
  | duckdb => exact .pure _
  | fake => exact .pure _

theorem collect_carries (h : a.connection = some n) (sql : String) :
    Carries (collect n sql) a (a.collecting n) ((a.driver.answer a.calls).execution sql) := by
  refine Carries.bind_current ?_
  have hend : Carries (do
      commit
      return (a.driver.answer a.calls).execution sql) (a.after (a.fetching n))
        ((a.after (a.fetching n)).ending (.commit n) ++ [])
        ((a.driver.answer a.calls).execution sql) := by
    refine Carries.bind (commit_carries (a := a.after (a.fetching n)) h) ?_
    exact .pure _
  rw [List.append_nil] at hend
  show Carries (if (!((a.driver.answer a.calls).columns.getD []).isEmpty) = true then _ else _) a
    (a.fetching n ++ (a.after (a.fetching n)).ending (.commit n)) _
  split
  · next hcolumns =>
    have hfetch : a.fetching n = [.fetchAll n] := if_neg (by simpa using hcolumns)
    rw [hfetch] at hend ⊢
    exact (Carries.call (.fetchAll n)).bind hend
  · next hcolumns =>
    have hfetch : a.fetching n = [] := if_pos (by simpa using hcolumns)
    rw [hfetch, after_nil] at hend
    rw [hfetch, after_nil]
    exact hend

theorem work_carries (h : a.connection = some n) (sql : String) (params : List Value) :
    Carries (work sql params) a (a.working n sql params) (a.executed n sql params) := by
  rw [work_eq]
  have hstatement : Carries (do
      call (handing n sql params)
      collect n sql) a (a.working n sql params) (a.executed n sql params) := by
    refine Carries.bind (Carries.call (handing n sql params)) ?_
    exact collect_carries (a := a.after [handing n sql params]) h sql
  refine Carries.bind (Carries.held h "execute") ?_
  rw [after_nil]
  exact hstatement

/-! ## What follows a fault -/

/-- What undoing the work of a statement comes to: PostgreSQL passes over an error of its driver. -/
def undoOutcome (a : Adapter) (n : Nat) : Except Failure Unit :=
  match a.raised (a.ending (.rollback n)) with
  | none => .ok ()
  | some g => if a.engine = .postgres ∧ a.engine.owns g then .ok () else .error (.fault g)

theorem attempted_ending (c : DriverCall) : a.attempted (a.ending c) = a.ending c := by
  unfold ending
  split
  · exact attempted_singleton c
  · rfl

theorem attempted_withCursor (c : DriverCall) : a.attempted (a.withCursor c) = a.withCursor c := by
  unfold withCursor
  split
  · rfl
  · exact attempted_singleton c

theorem rollback_carries (h : a.connection = some n) (hengine : a.engine ≠ .postgres) :
    Carries rollback a (a.ending (.rollback n)) () := by
  refine Carries.bind_current ?_
  have hopen := endOpen_carries h "rollback" .rollback
  unfold ending hasPending
  cases hkind : a.engine with
  | sqlite => exact hopen
  | other => exact hopen
  | postgres => exact absurd hkind hengine
  | duckdb => exact .pure _
  | fake => exact .pure _

theorem rollback_runFrom (h : a.connection = some n) (records : List LogRecord) :
    ∃ more, rollback.runFrom ⟨a, records⟩ =
      (a.undoOutcome n, ⟨a.after (a.ending (.rollback n)), records ++ more⟩) := by
  -- PostgreSQL alone makes an attempt at it, so its outcome is not that of the plan.
  by_cases hengine : a.engine = .postgres
  · have hending : a.ending (.rollback n) = [.rollback n] := by
      simp [ending, hasPending, hengine]
    have hcall := Carries.callHeld h "rollback" .rollback records
    rw [attempted_singleton] at hcall
    unfold rollback undoOutcome
    rw [Action.runFrom_bind_ok (Action.runFrom_current _), hending]
    simp only [hengine]
    rw [Action.runFrom_bind_ok (Action.runFrom_attempt _ _), hcall]
    unfold planned
    cases a.raised [.rollback n] with
    | none => exact ⟨[], by rw [List.append_nil]; rfl⟩
    | some g =>
      by_cases howns : Engine.postgres.owns g = true
      · refine ⟨[⟨.postgres, .warning, "PostgreSQL rollback failed: " ++ g.message⟩], ?_⟩
        simp [Engine.ownFault?, howns]
        rfl
      · refine ⟨[], ?_⟩
        simp [Engine.ownFault?, howns]
        rfl
  · refine ⟨[], ?_⟩
    rw [rollback_carries h hengine records, attempted_ending, List.append_nil]
    unfold planned undoOutcome
    cases a.raised (a.ending (.rollback n)) with
    | none => rfl
    | some g => simp [hengine]

/-- The calls that undo the work of a statement that a fault has stopped: none for a fault that is
no error of the engine's own driver. -/
def undoing (a : Adapter) (n : Nat) (f : Fault) : List DriverCall :=
  if a.engine.owns f then a.ending (.rollback n) else []

/-- What the caller gets to see of a fault that has stopped a statement. -/
def recovered (a : Adapter) (n : Nat) (what : String) (f : Fault) : Failure :=
  if a.engine.owns f then
    match a.undoOutcome n with
    | .ok () => .statement ⟨what ++ f.message, a.engine.name, some (.fault f)⟩
    | .error e => e
  else .fault f

theorem recover_runFrom (h : a.connection = some n) (what : String) (f : Fault)
    (records : List LogRecord) :
    ∃ more, (recover what (.fault f) : Action Adapter α).runFrom ⟨a, records⟩ =
      (.error (a.recovered n what f), ⟨a.after (a.undoing n f), records ++ more⟩) := by
  unfold recover recovered undoing
  rw [Action.runFrom_bind_ok (Action.runFrom_current _)]
  simp only [Engine.ownFault?]
  by_cases howns : a.engine.owns f = true
  · rw [if_pos howns, if_pos howns, if_pos howns]
    obtain ⟨more, hrun⟩ := rollback_runFrom h records
    refine ⟨more, ?_⟩
    simp only
    rw [Action.runFrom_bind, hrun]
    cases a.undoOutcome n with
    | ok u => rfl
    | error e => rfl
  · rw [if_neg howns, if_neg howns, if_neg howns]
    exact ⟨[], by rw [after_nil, List.append_nil]; rfl⟩

/-- The calls that follow a plan: they undo its work if a fault has stopped it. -/
def afterwards (a : Adapter) (n : Nat) (plan : List DriverCall) : List DriverCall :=
  match a.raised plan with
  | some f => (a.after (a.attempted plan)).undoing n f
  | none => []

/-! ## Whole executions -/

/-- What a plan for a statement comes to when its cursor is released at the end. -/
def attended (a : Adapter) (n : Nat) (what : String) (plan closing : List DriverCall)
    (x : α) : Except Failure α :=
  match (a.after (a.attempted plan ++ a.afterwards n plan)).raised closing with
  | some f => .error (.fault f)
  | none =>
    match a.raised plan with
    | some f => .error ((a.after (a.attempted plan)).recovered n what f)
    | none => .ok x

/-- A release is always carried out, and its own fault is what the caller gets to see. -/
theorem release_behind (h : a.connection = some n) (r : Except Failure α)
    (records : List LogRecord) :
    (do release; Action.ofExcept r : Action Adapter α).runFrom ⟨a, records⟩ =
      (match a.raised (a.withCursor (.closeCursor n)) with
        | some f => .error (.fault f)
        | none => r, ⟨a.after (a.withCursor (.closeCursor n)), records⟩) := by
  have hrun := release_carries h records
  rw [attempted_withCursor] at hrun
  unfold planned at hrun
  cases hraised : a.raised (a.withCursor (.closeCursor n)) with
  | some f =>
    rw [hraised] at hrun
    rw [Action.runFrom_bind_error hrun]
  | none =>
    rw [hraised] at hrun
    rw [Action.runFrom_bind_ok hrun]
    rfl

theorem attend_course (h : a.connection = some n) (what sql : String) (params : List Value)
    (records : List LogRecord) :
    ∃ more, (attend what sql params).runFrom ⟨a, records⟩ =
      (a.attended n what (a.working n sql params) (a.withCursor (.closeCursor n))
          (a.executed n sql params),
        ⟨a.after (a.attempted (a.working n sql params) ++ a.afterwards n (a.working n sql params) ++
          a.withCursor (.closeCursor n)), records ++ more⟩) := by
  unfold attend
  rw [Action.runFrom_bind_ok (Action.runFrom_attempt _ _), work_carries h sql params records]
  unfold planned attended afterwards
  cases hraised : a.raised (a.working n sql params) with
  | none =>
    refine ⟨[], ?_⟩
    have hrelease := release_behind (a := a.after (a.attempted (a.working n sql params))) h
      (.ok (a.executed n sql params)) records
    simp only [List.append_nil]
    rw [after_after] at hrelease
    exact hrelease
  | some f =>
    obtain ⟨more, hrecover⟩ := recover_runFrom (α := Execution)
      (a := a.after (a.attempted (a.working n sql params))) h what f records
    refine ⟨more, ?_⟩
    -- The cursor is released behind the calls of the plan and those that undo its work.
    have hrelease := release_behind (n := n)
      (a := a.after (a.attempted (a.working n sql params) ++
        (a.after (a.attempted (a.working n sql params))).undoing n f)) h
      (.error ((a.after (a.attempted (a.working n sql params))).recovered n what f) :
        Except Failure Execution) (records ++ more)
    rw [after_after] at hrelease
    simp only
    rw [Action.runFrom_bind_ok (Action.runFrom_attempt _ _), hrecover, after_after]
    exact hrelease

/-- The plan of an execution. -/
def plan (a : Adapter) (n : Nat) (sql : String) (params : List Value) : List DriverCall :=
  a.withCursor (.cursor n) ++ (a.after (a.withCursor (.cursor n))).working n sql params

/-- The release of the cursor, if one could be taken. -/
def releasing (a : Adapter) (n : Nat) : List DriverCall :=
  match a.raised (a.withCursor (.cursor n)) with
  | some _ => []
  | none => a.withCursor (.closeCursor n)

/-- All calls of one execution of a text with values, as the driver takes them. -/
def executionCalls (a : Adapter) (n : Nat) (sql : String) (params : List Value) :
    List DriverCall :=
  a.attempted (a.plan n sql params) ++ a.afterwards n (a.plan n sql params) ++ a.releasing n

/-- What one execution of a text with values gives, as the driver takes them. -/
def executionResult (a : Adapter) (n : Nat) (sql : String) (params : List Value) :
    Except Failure Execution :=
  a.attended n (a.engine.name ++ " statement failed: ") (a.plan n sql params) (a.releasing n)
    ((a.after (a.withCursor (.cursor n))).executed n sql params)

theorem mem_withCursor {c x : DriverCall} (h : x ∈ a.withCursor c) :
    x = c ∧ a.engine ≠ .duckdb := by
  unfold withCursor at h
  split at h
  · cases h
  · next hengine => exact ⟨List.mem_singleton.mp h, hengine⟩

theorem mem_ending {c x : DriverCall} (h : x ∈ a.ending c) : x = c := by
  unfold ending at h
  split at h
  · exact List.mem_singleton.mp h
  · cases h

theorem mem_working {sql : String} {params : List Value} {x : DriverCall}
    (h : x ∈ a.working n sql params) :
    x = handing n sql params ∨ x = .fetchAll n ∨ x = .commit n := by
  unfold working collecting fetching at h
  rcases List.mem_cons.mp h with hhand | hrest
  · exact .inl hhand
  · rcases List.mem_append.mp hrest with hfetch | hcommit
    · split at hfetch
      · cases hfetch
      · exact .inr (.inl (List.mem_singleton.mp hfetch))
    · exact .inr (.inr (mem_ending hcommit))

theorem mem_plan {sql : String} {params : List Value} {x : DriverCall}
    (h : x ∈ a.plan n sql params) :
    x = .cursor n ∨ x = handing n sql params ∨ x = .fetchAll n ∨ x = .commit n := by
  unfold plan at h
  rcases List.mem_append.mp h with hcursor | hwork
  · exact .inl (mem_withCursor hcursor).1
  · exact .inr (mem_working hwork)

theorem mem_releasing {x : DriverCall} (h : x ∈ a.releasing n) :
    x = .closeCursor n ∧ a.engine ≠ .duckdb := by
  unfold releasing at h
  split at h
  · cases h
  · exact mem_withCursor h

/-- A call of an execution is one of its plan, or a rollback after an error of the engine's own
driver, or the release of the cursor. -/
theorem mem_executionCalls {sql : String} {params : List Value} {x : DriverCall}
    (h : x ∈ a.executionCalls n sql params) :
    x ∈ a.attempted (a.plan n sql params) ∨
      (∃ f, a.raised (a.plan n sql params) = some f ∧ a.engine.owns f = true ∧ x = .rollback n) ∨
      x ∈ a.releasing n := by
  unfold executionCalls at h
  rcases List.mem_append.mp h with hfront | hrelease
  · rcases List.mem_append.mp hfront with hplan | hundo
    · exact .inl hplan
    · unfold afterwards at hundo
      split at hundo
      · next f hraised =>
        unfold undoing at hundo
        split at hundo
        · next howns => exact .inr (.inl ⟨f, hraised, howns, mem_ending hundo⟩)
        · cases hundo
      · cases hundo
  · exact .inr (.inr hrelease)

/-- When a call of the plan raises, what follows it is undone if the fault is the driver's own. -/
theorem executionCalls_of_raised {sql : String} {params : List Value} {f : Fault}
    (h : a.raised (a.plan n sql params) = some f) :
    a.executionCalls n sql params = a.attempted (a.plan n sql params) ++
      ((a.after (a.attempted (a.plan n sql params))).undoing n f ++ a.releasing n) := by
  unfold executionCalls afterwards
  rw [h, List.append_assoc]

theorem executionCalls_of_unraised {sql : String} {params : List Value}
    (h : a.raised (a.plan n sql params) = none) :
    a.executionCalls n sql params = a.plan n sql params ++ a.releasing n := by
  unfold executionCalls afterwards
  rw [h, attempted_of_raised_none h, List.append_nil]

/-- An execution that gives a result is one in which nothing raises. -/
theorem executionResult_ok {sql : String} {params : List Value} {x : Execution}
    (h : a.executionResult n sql params = .ok x) :
    a.raised (a.plan n sql params) = none ∧
      (a.after (a.plan n sql params)).raised (a.releasing n) = none := by
  unfold executionResult attended at h
  split at h
  · cases h
  · next hrelease =>
    cases hraised : a.raised (a.plan n sql params) with
    | none =>
      unfold afterwards at hrelease
      rw [hraised, attempted_of_raised_none hraised, List.append_nil] at hrelease
      exact ⟨rfl, hrelease⟩
    | some f =>
      rw [hraised] at h
      cases h

/-- **The course of an execution.** On a connected adapter it makes the calls of its plan up to the
first that raises, undoes the work if that is an error of the engine's own driver, and releases its
cursor if it got one. -/
theorem execute_course {sql : String} {params : Value} {values : List Value}
    (hconnected : a.connected = true) (h : a.connection = some n)
    (hvalues : boundValues params = .ok values) (records : List LogRecord) :
    ∃ more, (execute sql params).runFrom ⟨a, records⟩ =
      (a.executionResult n (a.engine.prepare sql values).1 (a.engine.prepare sql values).2,
        ⟨a.after (a.executionCalls n (a.engine.prepare sql values).1
          (a.engine.prepare sql values).2), records ++ more⟩) := by
  rw [execute_runFrom hconnected hvalues, takeCursor_carries h records, attempted_withCursor]
  generalize (a.engine.prepare sql values).1 = text
  generalize (a.engine.prepare sql values).2 = given
  unfold planned executionResult executionCalls attended afterwards releasing plan
  cases hcursor : a.raised (a.withCursor (.cursor n)) with
  | some f =>
    -- Without a cursor nothing is handed over or released, but the fault is recovered from.
    obtain ⟨more, hrecover⟩ := recover_runFrom (α := Execution)
      (a := a.after (a.withCursor (.cursor n))) h (a.engine.name ++ " statement failed: ") f records
    refine ⟨more, ?_⟩
    rw [raised_append, hcursor, attempted_append_of_some hcursor, attempted_withCursor]
    rw [after_after] at hrecover
    simp only [Option.some_or, List.append_nil, raised]
    exact hrecover
  | none =>
    obtain ⟨more, hattend⟩ := attend_course (a := a.after (a.withCursor (.cursor n))) h
      (a.engine.name ++ " statement failed: ") text given records
    refine ⟨more, ?_⟩
    rw [raised_append, hcursor, attempted_append_of_none hcursor]
    unfold attended afterwards at hattend
    simp only [after_after] at hattend
    simp only [Option.none_or, List.append_assoc] at hattend ⊢
    exact hattend

theorem execute_disconnected {sql : String} {params : Value} (h : a.connected = false)
    (records : List LogRecord) :
    (execute sql params).runFrom ⟨a, records⟩ =
      (.error (statementError a.engine.name ("Not connected to " ++ a.engine.name)),
        ⟨a, records⟩) := by
  unfold execute
  rw [Action.runFrom_bind_ok (Action.runFrom_current _)]
  simp only [h, Bool.not_false, if_true]
  rfl

/-- Values that cannot be listed are refused before any call. -/
theorem execute_unlisted {sql : String} {params : Value} {e : Failure} (h : a.connected = true)
    (hvalues : boundValues params = .error e) (records : List LogRecord) :
    (execute sql params).runFrom ⟨a, records⟩ = (.error e, ⟨a, records⟩) := by
  unfold execute
  rw [Action.runFrom_bind_ok (Action.runFrom_current _)]
  simp only [h, hvalues]
  rfl

/-! ## Scripts -/

/-- The call that hands over a script. -/
def scripting (a : Adapter) (n : Nat) (script : String) : DriverCall :=
  if a.engine = .duckdb then .execute n script none else .script n script

/-- What the caller gets to see of a fault that has stopped a script. -/
def scriptFailure (a : Adapter) (f : Fault) : Failure :=
  if a.engine.owns f then
    .statement ⟨(if a.engine = .duckdb then "duckdb" else "sqlite") ++ " script failed: " ++
      f.message, a.engine.name, some (.fault f)⟩
  else .fault f

theorem handScript_carries (h : a.connection = some n) (script : String) :
    Carries (do
      let m ← held "execute"
      call (if a.engine = .duckdb then .execute m script none else .script m script)) a
      [a.scripting n script] () := by
  refine Carries.bind (Carries.held h "execute") ?_
  rw [after_nil]
  exact .call (a.scripting n script)

/-- A script is handed over, and an error of the engine's own driver gets a name in front. -/
theorem attemptScript_runFrom (h : a.connection = some n) (known script : String)
    (records : List LogRecord) :
    (do
      match ← Action.attempt (do
        let m ← held "execute"
        call (if a.engine = .duckdb then .execute m script none else .script m script)) with
      | .ok () => return
      | .error e =>
        match a.engine.ownFault? e with
        | some f =>
          throw (.statement ⟨known ++ " script failed: " ++ f.message, a.engine.name,
            some (.fault f)⟩)
        | none => throw e : Action Adapter Unit).runFrom ⟨a, records⟩ =
      (match a.raised [a.scripting n script] with
        | some f => .error (if a.engine.owns f then
            .statement ⟨known ++ " script failed: " ++ f.message, a.engine.name, some (.fault f)⟩
          else .fault f)
        | none => .ok (), ⟨a.after [a.scripting n script], records⟩) := by
  have hcall := handScript_carries h script records
  rw [attempted_singleton] at hcall
  unfold planned at hcall
  rw [Action.runFrom_bind_ok (Action.runFrom_attempt _ _), hcall]
  cases a.raised [a.scripting n script] with
  | none => rfl
  | some f =>
    simp only [Engine.ownFault?]
    by_cases howns : a.engine.owns f = true
    · simp only [howns, if_true]
      rfl
    · simp only [howns]
      rfl

/-- **The course of a script.** It is handed over in one call; nothing is undone. -/
theorem executeScript_course (hconnected : a.connected = true) (h : a.connection = some n)
    (hscripts : a.engine.isSqlite = true ∨ a.engine = .duckdb) (script : String)
    (records : List LogRecord) :
    (executeScript script).runFrom ⟨a, records⟩ =
      (match a.raised [a.scripting n script] with
        | some f => .error (a.scriptFailure f)
        | none => .ok (), ⟨a.after [a.scripting n script], records⟩) := by
  unfold executeScript scriptFailure
  rw [Action.runFrom_bind_ok (Action.runFrom_current _)]
  -- The engines that run scripts differ in the call and in the name in front of the error alone.
  have hrun := fun known => attemptScript_runFrom h known script records
  cases hengine : a.engine with
  | postgres => simp [hengine, Engine.isSqlite] at hscripts
  | fake => simp [hengine, Engine.isSqlite] at hscripts
  | sqlite =>
    have := hrun "sqlite"
    simp only [hengine] at this
    simp only [hconnected]
    exact this
  | duckdb =>
    have := hrun "duckdb"
    simp only [hengine] at this
    simp only [hconnected]
    exact this
  | other =>
    have := hrun "sqlite"
    simp only [hengine] at this
    simp only [hconnected]
    exact this

/-- Without a connection, or where an engine runs no scripts, a script is refused before any
call. -/
theorem executeScript_refused
    (h : a.connected = false ∨ a.engine.isSqlite = false ∧ a.engine ≠ .duckdb) (script : String)
    (records : List LogRecord) :
    ∃ e, (executeScript script).runFrom ⟨a, records⟩ = (.error e, ⟨a, records⟩) := by
  unfold executeScript
  rw [Action.runFrom_bind_ok (Action.runFrom_current _)]
  rcases h with hdisconnected | ⟨hsqlite, hduckdb⟩
  · cases hengine : a.engine <;> simp only [hdisconnected] <;> exact ⟨_, rfl⟩
  · cases hengine : a.engine with
    | postgres => exact ⟨_, rfl⟩
    | fake => exact ⟨_, rfl⟩
    | sqlite => simp [hengine, Engine.isSqlite] at hsqlite
    | other => simp [hengine, Engine.isSqlite] at hsqlite
    | duckdb => exact absurd hengine hduckdb

/-- An adapter on an open connection of a driver that follows a script. -/
def scripted (engine : Engine) (s : Script) : Adapter where
  engine := engine
  options := .dict []
  driver := s.driver
  connection := some 0
  connected := true
  opened := 1

end Adapter

end FluentQuery
