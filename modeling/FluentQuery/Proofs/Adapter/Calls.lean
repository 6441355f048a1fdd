import FluentQuery.Adapter.Execute
import FluentQuery.Proofs.Action.Run

/-!
# Calls that an execution makes

All that an execution does to an adapter is to make calls to its driver. Of these calls one hands
over the statement; the others take and release the cursor, fetch rows and end the transaction.

* **`Adapter.Makes`** — an action makes calls and changes nothing else, and something is known of
  the calls;
* **`Adapter.Quiet`** — none of the calls hands over a statement;
* **`Adapter.execute_hands`** — on a connected adapter the statement is handed over once, as the
  engine prepares it, if a cursor can be taken, and else not at all.
-/

namespace FluentQuery

/-- Whether a call hands over a statement. -/
def DriverCall.handsStatement : DriverCall → Bool
  | .execute _ _ _ => true
  | _ => false

namespace Adapter

variable {α β : Type}

/-- The adapter after more calls. -/
def after (a : Adapter) (made : List DriverCall) : Adapter := { a with calls := a.calls ++ made }

@[simp]
theorem after_engine (a : Adapter) (made : List DriverCall) : (a.after made).engine = a.engine :=
  rfl

@[simp]
theorem after_driver (a : Adapter) (made : List DriverCall) : (a.after made).driver = a.driver :=
  rfl

@[simp]
theorem after_connection (a : Adapter) (made : List DriverCall) :
    (a.after made).connection = a.connection := rfl

@[simp]
theorem after_connected (a : Adapter) (made : List DriverCall) :
    (a.after made).connected = a.connected := rfl

@[simp]
theorem after_calls (a : Adapter) (made : List DriverCall) :
    (a.after made).calls = a.calls ++ made := rfl

@[simp]
theorem after_nil (a : Adapter) : a.after [] = a := by simp [after]

@[simp]
theorem after_after (a : Adapter) (made more : List DriverCall) :
    (a.after made).after more = a.after (made ++ more) := by simp [after]

/-- All that an action does to an adapter is to make calls, and these have to do with the adapter
before and with the result. -/
def Makes (act : Action Adapter α)
    (P : Adapter → Except Failure α → List DriverCall → Prop) : Prop :=
  ∀ j, ∃ made, (act.runFrom j).2.state = j.state.after made ∧ P j.state (act.runFrom j).1 made

theorem Makes.mono {act : Action Adapter α}
    {P Q : Adapter → Except Failure α → List DriverCall → Prop} (h : Makes act P)
    (hPQ : ∀ a r made, P a r made → Q a r made) : Makes act Q := by
  intro j
  obtain ⟨made, hstate, hmade⟩ := h j
  exact ⟨made, hstate, hPQ _ _ _ hmade⟩

/-- The calls of two actions one after the other: those of the first alone if it fails. -/
theorem Makes.bind {act : Action Adapter α} {f : α → Action Adapter β}
    {P : Adapter → Except Failure α → List DriverCall → Prop}
    {Q : α → Adapter → Except Failure β → List DriverCall → Prop} (h : Makes act P)
    (hf : ∀ x, Makes (f x) (Q x)) :
    Makes (act >>= f) fun a r made =>
      (∃ e, r = .error e ∧ P a (.error e) made) ∨
        ∃ x front back, made = front ++ back ∧ P a (.ok x) front ∧ Q x (a.after front) r back := by
  intro j
  obtain ⟨front, hstate, hfront⟩ := h j
  rw [Action.runFrom_bind]
  cases hrun : act.runFrom j with
  | mk r j' =>
    rw [hrun] at hstate hfront
    cases r with
    | error e => exact ⟨front, hstate, .inl ⟨e, rfl, hfront⟩⟩
    | ok x =>
      obtain ⟨back, hstate', hback⟩ := hf x j'
      rw [hstate] at hstate' hback
      refine ⟨front ++ back, ?_, .inr ⟨x, front, back, rfl, hfront, hback⟩⟩
      rw [← after_after]
      exact hstate'

/-- What a call comes to. -/
def outcome (a : Adapter) (c : DriverCall) : Except Failure Unit :=
  match a.driver.fault (a.calls ++ [c]) with
  | some f => .error (.fault f)
  | none => .ok ()

theorem call_runFrom (c : DriverCall) (j : Journaled Adapter) :
    (call c).runFrom j = (j.state.outcome c, { j with state := j.state.after [c] }) := by
  unfold call
  rw [Action.runFrom_bind_ok (Action.runFrom_update _ j),
    Action.runFrom_bind_ok (Action.runFrom_current _)]
  unfold outcome
  show ((match j.state.driver.fault (j.state.calls ++ [c]) with
    | some f => throw (.fault f)
    | none => pure () : Action Adapter Unit)).runFrom { j with state := j.state.after [c] } = _
  cases j.state.driver.fault (j.state.calls ++ [c]) <;> rfl

theorem held_runFrom (member : String) (j : Journaled Adapter) :
    (held member).runFrom j =
      (match j.state.connection with
        | some n => .ok n
        | none => .error (.misuse (.noMember "NoneType" member)), j) := by
  unfold held
  rw [Action.runFrom_bind_ok (Action.runFrom_current j)]
  cases j.state.connection <;> rfl

/-! ## Actions that hand over no statement -/

/-- An action makes calls of which none hands over a statement. -/
def Quiet (act : Action Adapter α) : Prop :=
  Makes act fun _ _ made => made.filter DriverCall.handsStatement = []

namespace Quiet

theorem of_unchanged {act : Action Adapter α} (h : Action.Keeps id act) : Quiet act :=
  fun j => ⟨[], by rw [after_nil]; exact h j, rfl⟩

theorem bind {act : Action Adapter α} {f : α → Action Adapter β} (h : Quiet act)
    (hf : ∀ x, Quiet (f x)) : Quiet (act >>= f) := by
  refine (Makes.bind h hf).mono ?_
  rintro a r made (⟨e, -, hmade⟩ | ⟨x, front, back, rfl, hfront, hback⟩)
  · exact hmade
  · rw [List.filter_append, hfront, hback, List.append_nil]

theorem attempt {act : Action Adapter α} (h : Quiet act) : Quiet act.attempt := h

theorem call {c : DriverCall} (h : c.handsStatement = false) : Quiet (Adapter.call c) := by
  intro j
  refine ⟨[c], by rw [call_runFrom], ?_⟩
  simp [h]

theorem held (member : String) : Quiet (Adapter.held member) :=
  of_unchanged fun j => by rw [held_runFrom]

/-- A call on the connection that an adapter holds. -/
theorem callHeld (member : String) {c : Nat → DriverCall}
    (h : ∀ n, (c n).handsStatement = false) :
    Quiet (do Adapter.call (c (← Adapter.held member))) :=
  (held member).bind fun n => call (h n)

end Quiet

theorem takeCursor_quiet : Quiet takeCursor := by
  refine Quiet.bind (.of_unchanged .current) fun a => ?_
  split
  · exact .of_unchanged (.pure _)
  · exact .callHeld "cursor" fun _ => rfl

theorem release_quiet : Quiet release := by
  refine Quiet.bind (.of_unchanged .current) fun a => ?_
  split
  · exact .of_unchanged (.pure _)
  · exact .callHeld "cursor" fun _ => rfl

theorem isInTransaction_quiet : Quiet isInTransaction :=
  .bind (.of_unchanged .current) fun _ => .of_unchanged (.pure _)

theorem commit_quiet : Quiet commit := by
  refine Quiet.bind (.of_unchanged .current) fun a => ?_
  have hopen : Quiet (do if ← isInTransaction then call (.commit (← held "commit"))) := by
    refine isInTransaction_quiet.bind fun b => ?_
    split
    · exact .callHeld "commit" fun _ => rfl
    · exact .of_unchanged (.pure _)
  cases a.engine with
  | sqlite => exact hopen
  | other => exact hopen
  | postgres => exact .callHeld "commit" fun _ => rfl
  | duckdb => exact .of_unchanged (.pure _)
  | fake => exact .of_unchanged (.pure _)

theorem rollback_quiet : Quiet rollback := by
  refine Quiet.bind (.of_unchanged .current) fun a => ?_
  have hopen : Quiet (do if ← isInTransaction then call (.rollback (← held "rollback"))) := by
    refine isInTransaction_quiet.bind fun b => ?_
    split
    · exact .callHeld "rollback" fun _ => rfl
    · exact .of_unchanged (.pure _)
  cases a.engine with
  | sqlite => exact hopen
  | other => exact hopen
  | postgres =>
    refine Quiet.bind (Quiet.attempt (.callHeld "rollback" fun _ => rfl)) fun r => ?_
    cases r with
    | ok u => exact .of_unchanged (.pure _)
    | error e =>
      show Quiet (match Engine.ownFault? _ e with
        | some f => Action.log .postgres .warning ("PostgreSQL rollback failed: " ++ f.message)
        | none => throw e)
      cases Engine.ownFault? _ e with
      | some f => exact .of_unchanged (.log _ _ _)
      | none => exact .of_unchanged (.throw _)
  | duckdb => exact .of_unchanged (.pure _)
  | fake => exact .of_unchanged (.pure _)

theorem recover_quiet (what : String) (e : Failure) : Quiet (recover what e : Action Adapter α) := by
  refine Quiet.bind (.of_unchanged .current) fun a => ?_
  cases a.engine.ownFault? e with
  | some f => exact rollback_quiet.bind fun _ => .of_unchanged (.throw _)
  | none => exact .of_unchanged (.throw _)

/-! ## The statement is handed over once -/

theorem boundValues_list (values : List Value) : boundValues (.list values) = .ok values := by
  unfold boundValues
  cases values <;> rfl

/-- The call that hands over a statement with its values; without values there is no list. -/
def handing (n : Nat) (sql : String) (params : List Value) : DriverCall :=
  .execute n sql (if params.isEmpty then none else some params)

/-- What is done once a statement is handed over. -/
def collect (n : Nat) (sql : String) : Action Adapter Execution := do
  let a ← Action.current
  let answer := a.driver.answer a.calls
  let columns := answer.columns.getD []
  if !columns.isEmpty then call (.fetchAll n)
  commit
  return {
    rows := if columns.isEmpty then [] else answer.rows.map (rowOf columns)
    columns
    rowsAffected := answer.rowCount.getD (.int (-1))
    sql }

theorem work_eq (sql : String) (params : List Value) :
    work sql params = (do
      let n ← held "execute"
      call (handing n sql params)
      collect n sql) := rfl

theorem collect_quiet (n : Nat) (sql : String) : Quiet (collect n sql) := by
  refine Quiet.bind (.of_unchanged .current) fun a => ?_
  have hend : Quiet (do
      commit
      return ({
        rows := if ((a.driver.answer a.calls).columns.getD []).isEmpty then []
          else (a.driver.answer a.calls).rows.map
            (rowOf ((a.driver.answer a.calls).columns.getD []))
        columns := (a.driver.answer a.calls).columns.getD []
        rowsAffected := (a.driver.answer a.calls).rowCount.getD (.int (-1))
        sql } : Execution)) :=
    commit_quiet.bind fun _ => .of_unchanged (.pure _)
  show Quiet (if (!((a.driver.answer a.calls).columns.getD []).isEmpty) = true then _ else _)
  split
  · exact Quiet.bind (.call rfl) fun _ => hend
  · exact hend

/-- Whatever comes of it, the statement is handed over once, on the connection that is held. -/
theorem work_hands (sql : String) (params : List Value) :
    Makes (work sql params) fun a _ made =>
      made.filter DriverCall.handsStatement =
        a.connection.toList.map fun n => handing n sql params := by
  intro j
  show ∃ made : List DriverCall, _ ∧ made.filter DriverCall.handsStatement =
    j.state.connection.toList.map fun n => handing n sql params
  rw [work_eq]
  have hheld := held_runFrom "execute" j
  cases hconnection : j.state.connection with
  | none =>
    rw [hconnection] at hheld
    rw [Action.runFrom_bind_error hheld]
    exact ⟨[], by rw [after_nil], rfl⟩
  | some n =>
    rw [hconnection] at hheld
    rw [Action.runFrom_bind_ok hheld]
    have hcall : Makes (call (handing n sql params)) fun _ _ made =>
        made = [handing n sql params] := fun j => ⟨_, by rw [call_runFrom], rfl⟩
    obtain ⟨made, hstate, hmade⟩ := hcall.bind (fun _ => collect_quiet n sql) j
    refine ⟨made, hstate, ?_⟩
    obtain ⟨e, -, rfl⟩ | ⟨x, front, back, rfl, rfl, hback⟩ := hmade
    · rfl
    · rw [List.filter_append, hback]
      rfl

/-- What is done once a cursor is taken: the statement, and in any case the release. -/
def attend (what sql : String) (params : List Value) : Action Adapter Execution := do
  let outcome ← Action.attempt (work sql params)
  let outcome ← match outcome with
    | .ok r => pure (.ok r)
    | .error e => Action.attempt (recover what e)
  release
  Action.ofExcept outcome

theorem attend_hands (what sql : String) (params : List Value) :
    Makes (attend what sql params) fun a _ made =>
      made.filter DriverCall.handsStatement =
        a.connection.toList.map fun n => handing n sql params := by
  have hwork : Makes (Action.attempt (work sql params)) fun a r made =>
      (∃ outcome, r = .ok outcome) ∧ made.filter DriverCall.handsStatement =
        a.connection.toList.map fun n => handing n sql params := by
    intro j
    obtain ⟨made, hstate, hmade⟩ := work_hands sql params j
    exact ⟨made, hstate, ⟨_, rfl⟩, hmade⟩
  have hrest : ∀ outcome : Except Failure Execution, Quiet (do
      let outcome ← match outcome with
        | .ok r => pure (.ok r)
        | .error e => Action.attempt (recover what e)
      release
      Action.ofExcept outcome) := by
    intro outcome
    have hend : ∀ r, Quiet (do release; Action.ofExcept r : Action Adapter Execution) :=
      fun r => release_quiet.bind fun _ => .of_unchanged (.ofExcept r)
    cases outcome with
    | ok r => exact Quiet.bind (.of_unchanged (.pure _)) hend
    | error e => exact Quiet.bind (Quiet.attempt (recover_quiet what e)) hend
  refine (hwork.bind hrest).mono ?_
  rintro a r made (⟨e, -, ⟨outcome, hok⟩, -⟩ | ⟨x, front, back, rfl, ⟨-, hfront⟩, hback⟩)
  · cases hok
  · rw [List.filter_append, hfront, hback, List.append_nil]

/-- An execution on a connected adapter, where its values can be listed. -/
theorem execute_runFrom {a : Adapter} {sql : String} {params : Value} {values : List Value}
    (hconnected : a.connected = true) (hvalues : boundValues params = .ok values)
    (records : List LogRecord) :
    (execute sql params).runFrom ⟨a, records⟩ =
      (match (takeCursor.runFrom ⟨a, records⟩).1 with
        | .error e => (recover (a.engine.name ++ " statement failed: ") e).runFrom
            (takeCursor.runFrom ⟨a, records⟩).2
        | .ok () => (attend (a.engine.name ++ " statement failed: ")
            (a.engine.prepare sql values).1 (a.engine.prepare sql values).2).runFrom
              (takeCursor.runFrom ⟨a, records⟩).2) := by
  unfold execute
  rw [Action.runFrom_bind_ok (Action.runFrom_current _)]
  simp only [hconnected, hvalues]
  show (takeCursor.attempt >>= fun r => match r with
    | .error e => recover (a.engine.name ++ " statement failed: ") e
    | .ok () => attend (a.engine.name ++ " statement failed: ")
        (a.engine.prepare sql values).1 (a.engine.prepare sql values).2).runFrom ⟨a, records⟩ = _
  rw [Action.runFrom_bind_ok (Action.runFrom_attempt _ _)]
  cases (takeCursor.runFrom ⟨a, records⟩).1 <;> rfl

/-- **One execution hands over one statement**, on the connection that is held and as the engine
prepares it, if a cursor can be taken, and else none. -/
theorem execute_hands {a : Adapter} {sql : String} {params : Value} {values : List Value}
    (hconnected : a.connected = true) (hvalues : boundValues params = .ok values)
    (records : List LogRecord) :
    ∃ made, ((execute sql params).runFrom ⟨a, records⟩).2.state = a.after made ∧
      made.filter DriverCall.handsStatement =
        (match (takeCursor.runFrom ⟨a, records⟩).1 with
          | .error _ => []
          | .ok () => a.connection.toList.map fun n =>
              handing n (a.engine.prepare sql values).1 (a.engine.prepare sql values).2) := by
  rw [execute_runFrom hconnected hvalues]
  obtain ⟨front, hfront, hquiet⟩ := takeCursor_quiet ⟨a, records⟩
  generalize a.engine.name ++ " statement failed: " = what
  cases (takeCursor.runFrom ⟨a, records⟩).1 with
  | error e =>
    obtain ⟨back, hback, hrest⟩ :=
      (recover_quiet what e : Quiet (recover what e : Action Adapter Execution))
        (takeCursor.runFrom ⟨a, records⟩).2
    rw [hfront, after_after] at hback
    exact ⟨front ++ back, hback, by rw [List.filter_append, hquiet, hrest, List.append_nil]⟩
  | ok u =>
    obtain ⟨back, hback, hrest⟩ :=
      attend_hands what (a.engine.prepare sql values).1 (a.engine.prepare sql values).2
        (takeCursor.runFrom ⟨a, records⟩).2
    rw [hfront] at hback hrest
    rw [after_after] at hback
    exact ⟨front ++ back, hback, by rw [List.filter_append, hquiet, hrest]; rfl⟩

end Adapter

end FluentQuery
