import FluentQuery.Proofs.Adapter.Failures
import FluentQuery.Session.Run

/-!
# Exchanges with an adapter

A terminal operation works with its adapter by handing it statements. An exchange is one statement
with what comes back for it.

* **`Exchanges`** — exchanges one after the other, from one state of an adapter to another;
* **`Exchanges.hands`**, **`Exchanges.calls`** — the driver is handed their statements only, at most
  one for each;
* **`AdapterCall.fails`** — no exchange fails as the builder does;
* **`Asks`** — an action does nothing to its adapter but to have exchanges with it, and these have
  to do with the result; closed under sequence.
-/

namespace FluentQuery

/-- The statement that an operation hands to an adapter, with its values. -/
def AdapterCall.statement? : AdapterCall → Option (String × Value)
  | .executeQuery sql params => some (sql, params)
  | .executeCount sql params => some (sql, params)
  | .executeUpdate sql params => some (sql, params)
  | _ => none

/-- An operation of an adapter and its reply. -/
structure Exchange where
  op : AdapterCall
  reply : Except Failure Reply

/-- Exchanges one after the other take an adapter from one state to another, whatever the log holds
when they start. -/
inductive Exchanges : Adapter → List Exchange → Adapter → Prop
  | nil {a : Adapter} : Exchanges a [] a
  | cons {a b : Adapter} {op : AdapterCall} {rest : List Exchange} (records : List LogRecord) :
      Exchanges ((Session.adapterCall op).runFrom ⟨a, records⟩).2.state rest b →
        Exchanges a (⟨op, ((Session.adapterCall op).runFrom ⟨a, records⟩).1⟩ :: rest) b

theorem Exchanges.append {a b c : Adapter} {front back : List Exchange}
    (h : Exchanges a front b) (hback : Exchanges b back c) : Exchanges a (front ++ back) c := by
  induction h with
  | nil => exact hback
  | cons records _ ih => exact .cons records (ih hback)

/-! ## One exchange -/

/-- The replies to a statement never fail as the builder does. -/
theorem AdapterCall.fails {op : AdapterCall} (h : op.statement?.isSome = true) :
    Action.FailsWith Failure.IsForeign (Session.adapterCall op) := by
  cases op with
  | executeQuery sql params => exact .bind (Adapter.executeQuery_fails sql params) fun _ => .pure _
  | executeCount sql params => exact .bind (Adapter.executeCount_fails sql params) fun _ => .pure _
  | executeUpdate sql params =>
    exact .bind (Adapter.executeUpdate_fails sql params) fun _ => .pure _
  | _ => cases h

/-- What an operation does with a statement is to execute it. -/
theorem AdapterCall.executes {op : AdapterCall} {sql : String} {params : Value}
    (h : op.statement? = some (sql, params)) (j : Journaled Adapter) :
    ((Session.adapterCall op).runFrom j).2.state =
      ((Adapter.execute sql params).runFrom j).2.state := by
  cases op with
  | executeQuery sql' params' =>
    cases h
    refine (Action.state_bind (fun _ => .pure _) j).trans ?_
    exact Action.state_bind (fun _ => .pure _) j
  | executeCount sql' params' =>
    cases h
    refine (Action.state_bind (fun _ => .pure _) j).trans ?_
    exact Action.state_bind (fun _ => .bind .current fun _ => .ofExcept _) j
  | executeUpdate sql' params' =>
    cases h
    refine (Action.state_bind (fun _ => .pure _) j).trans (Action.state_bind (fun result => ?_) j)
    refine .bind .current fun a => ?_
    split
    · exact .bind (.ofExcept _) fun _ => .pure _
    · exact .pure _
  | _ => cases h

/-- An execution makes calls, of which at most one hands over its statement. -/
theorem Adapter.execute_calls (a : Adapter) (sql : String) (values : List Value)
    (records : List LogRecord) :
    ∃ made, ((execute sql (.list values)).runFrom ⟨a, records⟩).2.state = a.after made ∧
      (made.filter DriverCall.handsStatement = [] ∨
        ∃ n, a.connection = some n ∧ made.filter DriverCall.handsStatement =
          [handing n (a.engine.prepare sql values).1 (a.engine.prepare sql values).2]) := by
  cases hconnected : a.connected with
  | false =>
    rw [execute_disconnected hconnected]
    exact ⟨[], (after_nil a).symm, .inl rfl⟩
  | true =>
    obtain ⟨made, hstate, hmade⟩ :=
      @execute_hands a sql (.list values) values hconnected (boundValues_list values) records
    refine ⟨made, hstate, ?_⟩
    rw [hmade]
    cases (takeCursor.runFrom ⟨a, records⟩).1 with
    | error e => exact .inl rfl
    | ok u =>
      cases hconnection : a.connection with
      | none => exact .inl rfl
      | some n => exact .inr ⟨n, rfl, rfl⟩

/-- An operation that hands over a statement with a list of values. -/
def Exchange.IsStatement (x : Exchange) : Prop :=
  ∃ sql values, x.op.statement? = some (sql, .list values)

/-- What the driver is handed of an operation: its statement as the engine prepares it, on the
connection that is held. -/
def Adapter.handed (a : Adapter) (op : AdapterCall) : List DriverCall :=
  match a.connection, op.statement? with
  | some n, some (sql, .list values) =>
    [handing n (a.engine.prepare sql values).1 (a.engine.prepare sql values).2]
  | _, _ => []

theorem Adapter.handed_length (a : Adapter) (op : AdapterCall) : (a.handed op).length ≤ 1 := by
  unfold handed
  split
  · exact Nat.le_refl 1
  · exact Nat.zero_le 1

theorem Adapter.length_flatMap_handed (a : Adapter) (xs : List Exchange) :
    (xs.flatMap fun x => a.handed x.op).length ≤ xs.length := by
  induction xs with
  | nil => exact Nat.le_refl 0
  | cons x rest ih =>
    have hone := a.handed_length x.op
    rw [List.flatMap_cons, List.length_append, List.length_cons]
    omega

/-- **The driver is handed no statements but those of the exchanges**, in their order, and there is
no call at all if there is no exchange. -/
theorem Exchanges.hands {a b : Adapter} {xs : List Exchange} (h : Exchanges a xs b)
    (hxs : ∀ x ∈ xs, x.IsStatement) :
    ∃ made, b = a.after made ∧ (xs = [] → made = []) ∧
      (made.filter DriverCall.handsStatement).Sublist (xs.flatMap fun x => a.handed x.op) := by
  induction h with
  | @nil a => exact ⟨[], (Adapter.after_nil a).symm, fun _ => rfl, .refl _⟩
  | @cons a b op rest records hrest ih =>
    -- What one exchange does to the adapter is one execution.
    obtain ⟨back, rfl, -, hback⟩ := ih fun x hx => hxs x (List.mem_cons_of_mem _ hx)
    obtain ⟨sql, values, hop⟩ := hxs _ (List.mem_cons_self ..)
    obtain ⟨front, hfront, hhands⟩ := Adapter.execute_calls a sql values records
    rw [AdapterCall.executes hop, hfront] at hback
    refine ⟨front ++ back, ?_, fun hnil => (nomatch hnil), ?_⟩
    · rw [AdapterCall.executes hop, hfront, Adapter.after_after]
    · rw [List.filter_append, List.flatMap_cons]
      refine List.Sublist.append ?_ hback
      rcases hhands with hnone | ⟨n, hn, hone⟩
      · rw [hnone]
        exact List.nil_sublist _
      · simp only [hone, Adapter.handed, hn, hop, List.Sublist.refl]

/-- **The driver gets to see at most one statement for each exchange**, and no call at all if there
is none. -/
theorem Exchanges.calls {a b : Adapter} {xs : List Exchange} (h : Exchanges a xs b)
    (hxs : ∀ x ∈ xs, x.IsStatement) :
    ∃ made, b = a.after made ∧ (xs = [] → made = []) ∧
      (made.filter DriverCall.handsStatement).length ≤ xs.length := by
  obtain ⟨made, hmade, hnone, hhands⟩ := h.hands hxs
  exact ⟨made, hmade, hnone, Nat.le_trans hhands.length_le (a.length_flatMap_handed xs)⟩

/-! ## Actions that work by exchanges -/

/-- All that an action does to its adapter is to have exchanges with it, and these have to do with
its result. -/
def Asks {α : Type} (act : Action Context α)
    (P : List Exchange → Except Failure α → Prop) : Prop :=
  ∀ j, ∃ xs, Exchanges j.state.adapter xs (act.runFrom j).2.state.adapter ∧ P xs (act.runFrom j).1

namespace Asks

variable {α β : Type} {P : List Exchange → Except Failure α → Prop}

theorem mono {act : Action Context α} {Q : List Exchange → Except Failure α → Prop}
    (h : Asks act P) (hPQ : ∀ xs r, P xs r → Q xs r) : Asks act Q := by
  intro j
  obtain ⟨xs, hxs, hP⟩ := h j
  exact ⟨xs, hxs, hPQ xs _ hP⟩

/-- Compiling has no exchange with the adapter. -/
theorem compile_bind {act : Action Configuration β} {f : β → Action Context α}
    (herror : ∀ e, P [] (.error e)) (hok : ∀ x j, (act.runFrom j).1 = .ok x → Asks (f x) P) :
    Asks (Context.compile act >>= f) P := by
  intro j
  unfold Context.compile
  rw [Action.runFrom_bind, Action.runFrom_zoom]
  cases hrun : (act.runFrom ⟨j.state.configuration, j.journal⟩).1 with
  | error e => exact ⟨[], .nil, herror e⟩
  | ok x =>
    exact hok x ⟨j.state.configuration, j.journal⟩ hrun ⟨{ j.state with
      configuration := (act.runFrom ⟨j.state.configuration, j.journal⟩).2.state },
      (act.runFrom ⟨j.state.configuration, j.journal⟩).2.journal⟩

/-- Handing a statement to the adapter is one exchange, and what fails there ends the action. -/
theorem execute_bind {act : Action Adapter β} {f : β → Action Context α} (op : AdapterCall)
    (g : β → Reply) (hop : Session.adapterCall op = act >>= fun x => pure (g x))
    (hstatement : op.statement?.isSome = true)
    (herror : ∀ e, e.IsForeign → P [⟨op, .error e⟩] (.error e))
    (hok : ∀ x, Asks (f x) fun xs r => P (⟨op, .ok (g x)⟩ :: xs) r) :
    Asks (Context.execute act >>= f) P := by
  intro j
  -- The operation of the adapter is the action with its result made a reply, so both do the same.
  have hrun := Action.runFrom_bind_pure act g ⟨j.state.adapter, j.journal⟩
  rw [← hop] at hrun
  have hone : Exchanges j.state.adapter
      [⟨op, ((Session.adapterCall op).runFrom ⟨j.state.adapter, j.journal⟩).1⟩]
      ((Session.adapterCall op).runFrom ⟨j.state.adapter, j.journal⟩).2.state :=
    .cons j.journal .nil
  rw [hrun] at hone
  unfold Context.execute
  rw [Action.runFrom_bind, Action.runFrom_zoom]
  cases hreply : (act.runFrom ⟨j.state.adapter, j.journal⟩).1 with
  | error e =>
    rw [hreply] at hone hrun
    exact ⟨_, hone, herror e (AdapterCall.fails hstatement _ e (congrArg Prod.fst hrun))⟩
  | ok x =>
    rw [hreply] at hone
    obtain ⟨xs, hxs, hP⟩ := hok x ⟨{ j.state with
      adapter := (act.runFrom ⟨j.state.adapter, j.journal⟩).2.state },
      (act.runFrom ⟨j.state.adapter, j.journal⟩).2.journal⟩
    exact ⟨_, hone.append hxs, hP⟩

/-- What leaves the adapter alone has no exchange with it. -/
theorem quiet {act : Action Context α} (hkeeps : Action.Keeps Context.adapter act)
    (h : ∀ j, P [] (act.runFrom j).1) : Asks act P := by
  intro j
  refine ⟨[], ?_, h j⟩
  rw [show (act.runFrom j).2.state.adapter = j.state.adapter from hkeeps j]
  exact .nil

end Asks

end FluentQuery
