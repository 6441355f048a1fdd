import FluentQuery.Adapter.Script
import FluentQuery.Proofs.Adapter.Course
import FluentQuery.Session.Run

/-!
# Connections and their owner

An adapter owns the connections that it opens: it holds the one that is open, gives it up before it
closes it, and makes no call on any other. What is open is read off the calls alone, without regard
to what the adapter holds.

* **`Driver.opens`**, **`Engine.closings`**, **`Driver.IsOpen`** — the connections that calls open
  and close, and those that are open after them;
* **`Adapter.Moves`** — all that one operation can do to an adapter;
* **`Adapter.Owns`** — the invariant, which every operation keeps;
* **`Adapter.connections_owned`** — what it says after any operations on a new adapter.
-/

namespace FluentQuery

/-! ## Connections, by the calls made on them -/

namespace DriverCall

/-- Whether a call is to open a connection. -/
def connects : DriverCall → Bool
  | .connect _ _ => true
  | _ => false

/-- The connection that a call closes. DuckDB's connection is its own cursor, so closing that would
close the connection. -/
def closes? (e : Engine) : DriverCall → Option Nat
  | .close n => some n
  | .closeCursor n => if e = .duckdb then some n else none
  | _ => none

end DriverCall

/-- The connections that calls close, in order. -/
def Engine.closings (e : Engine) (calls : List DriverCall) : List Nat :=
  calls.filterMap (DriverCall.closes? e)

namespace Driver

/-- The number of connections that a call opens behind others: one if it is to open one and does
not raise. -/
def opensAt (d : Driver) (before : List DriverCall) (c : DriverCall) : Nat :=
  if c.connects = true ∧ d.fault (before ++ [c]) = none then 1 else 0

/-- The number of connections that calls open behind others. -/
def opensFrom (d : Driver) (before : List DriverCall) : List DriverCall → Nat
  | [] => 0
  | c :: rest => d.opensAt before c + d.opensFrom (before ++ [c]) rest

/-- The number of connections that calls open. -/
def opens (d : Driver) (calls : List DriverCall) : Nat := d.opensFrom [] calls

theorem opensFrom_append (d : Driver) (before front back : List DriverCall) :
    d.opensFrom before (front ++ back) =
      d.opensFrom before front + d.opensFrom (before ++ front) back := by
  induction front generalizing before with
  | nil => simp [opensFrom]
  | cons c rest ih =>
    simp only [List.cons_append, opensFrom, ih, List.append_assoc, List.nil_append]
    omega

theorem opens_concat (d : Driver) (calls : List DriverCall) (c : DriverCall) :
    d.opens (calls ++ [c]) = d.opens calls + d.opensAt calls c := by
  simp [opens, opensFrom_append, opensFrom]

theorem opensAt_of_connection {c : DriverCall} {n : Nat} (h : c.connection? = some n) (d : Driver)
    (before : List DriverCall) : d.opensAt before c = 0 := by
  cases c with
  | connect positional keywords => cases h
  | _ => rfl

/-- A connection, by its number in the order of opening, is open after calls: one of them has opened
it and none has closed it. -/
def IsOpen (d : Driver) (e : Engine) (calls : List DriverCall) (n : Nat) : Prop :=
  n < d.opens calls ∧ n ∉ e.closings calls

end Driver

theorem Engine.closings_concat (e : Engine) (calls : List DriverCall) (c : DriverCall) :
    e.closings (calls ++ [c]) = e.closings calls ++ (c.closes? e).toList := by
  unfold closings
  rw [List.filterMap_append, List.filterMap_cons]
  cases c.closes? e <;> rfl

/-- Calls add up with the connection that is held, if any: it is open, and all other connections
that they opened are closed; no connection was closed twice, and none was used but while it was
open. -/
structure Driver.Ledger (d : Driver) (e : Engine) (calls : List DriverCall) (held : Option Nat) :
    Prop where
  open_of_held : ∀ n, held = some n → d.IsOpen e calls n
  balanced : d.opens calls = (e.closings calls).length + held.toList.length
  once : (e.closings calls).Nodup
  opened_of_closed : ∀ n ∈ e.closings calls, n < d.opens calls
  used : ∀ front c n, front ++ [c] <+: calls → c.connection? = some n → d.IsOpen e front n

namespace Driver.Ledger

variable {d : Driver} {e : Engine} {calls : List DriverCall} {held : Option Nat} {c : DriverCall}

theorem nil : d.Ledger e [] none where
  open_of_held n h := nomatch h
  balanced := rfl
  once := List.nodup_nil
  opened_of_closed n h := nomatch h
  used front c n h := by
    have := h.length_le
    simp at this

/-- One more call is made on no connection but the one that is held. -/
theorem used_concat (h : d.Ledger e calls held) (hc : ∀ n, c.connection? = some n → held = some n) :
    ∀ front x n, front ++ [x] <+: calls ++ [c] → x.connection? = some n → d.IsOpen e front n := by
  intro front x n hfront hx
  rcases List.prefix_concat_iff.mp hfront with hall | hbefore
  · obtain ⟨rfl, hlast⟩ := List.append_inj' hall rfl
    obtain rfl : x = c := by simpa using hlast
    exact h.open_of_held n (hc n hx)
  · exact h.used front x n hbefore hx

/-- A call that opens no connection and closes none. -/
theorem same (h : d.Ledger e calls held) (hopens : d.opensAt calls c = 0)
    (hclose : c.closes? e = none) (hc : ∀ n, c.connection? = some n → held = some n) :
    d.Ledger e (calls ++ [c]) held := by
  have hopened : d.opens (calls ++ [c]) = d.opens calls := by
    rw [opens_concat, hopens, Nat.add_zero]
  have hclosed : e.closings (calls ++ [c]) = e.closings calls := by
    rw [Engine.closings_concat, hclose, Option.toList_none, List.append_nil]
  refine ⟨?_, ?_, ?_, ?_, h.used_concat hc⟩
  · intro n hn
    unfold IsOpen
    rw [hopened, hclosed]
    exact h.open_of_held n hn
  · rw [hopened, hclosed]
    exact h.balanced
  · rw [hclosed]
    exact h.once
  · rw [hopened, hclosed]
    exact h.opened_of_closed

/-- A call that opens a connection, when none is held. -/
theorem opens (h : d.Ledger e calls none) (hopens : d.opensAt calls c = 1)
    (hclose : c.closes? e = none) (hc : c.connection? = none) :
    d.Ledger e (calls ++ [c]) (some (d.opens calls)) := by
  have hopened : d.opens (calls ++ [c]) = d.opens calls + 1 := by rw [opens_concat, hopens]
  have hclosed : e.closings (calls ++ [c]) = e.closings calls := by
    rw [Engine.closings_concat, hclose, Option.toList_none, List.append_nil]
  refine ⟨?_, ?_, ?_, ?_, h.used_concat fun n hn => ?_⟩
  · intro n hn
    obtain rfl : d.opens calls = n := Option.some.inj hn
    unfold IsOpen
    rw [hopened, hclosed]
    refine ⟨by omega, fun hmem => ?_⟩
    -- The connection has the next number, and whatever was closed has a lower one.
    exact Nat.lt_irrefl _ (h.opened_of_closed _ hmem)
  · have := h.balanced
    rw [hopened, hclosed]
    simp at this ⊢
    omega
  · rw [hclosed]
    exact h.once
  · intro n hn
    rw [hclosed] at hn
    have := h.opened_of_closed n hn
    omega
  · rw [hc] at hn
    cases hn

/-- The call that closes the connection that was held. -/
theorem closes {n : Nat} (h : d.Ledger e calls (some n)) :
    d.Ledger e (calls ++ [.close n]) none := by
  obtain ⟨hlt, hnot⟩ := h.open_of_held n rfl
  have hopened : d.opens (calls ++ [.close n]) = d.opens calls := opens_concat d calls (.close n)
  have hclosed : e.closings (calls ++ [.close n]) = e.closings calls ++ [n] :=
    Engine.closings_concat e calls (.close n)
  refine ⟨fun m hm => (nomatch hm), ?_, ?_, ?_, h.used_concat fun m hm => ?_⟩
  · have := h.balanced
    rw [hopened, hclosed]
    simp at this ⊢
    omega
  · rw [hclosed, List.nodup_append]
    refine ⟨h.once, List.pairwise_singleton _ n, ?_⟩
    rintro m hm k hk rfl
    rw [List.mem_singleton.mp hk] at hm
    exact hnot hm
  · intro m hm
    rw [hclosed] at hm
    rw [hopened]
    rcases List.mem_append.mp hm with hbefore | hlast
    · exact h.opened_of_closed m hbefore
    · rw [List.mem_singleton.mp hlast]
      exact hlt
  · exact hm

end Driver.Ledger

/-! ## What one operation does -/

/-- Whether an operation of an adapter is to disconnect it. -/
def AdapterCall.disconnects : AdapterCall → Bool
  | .disconnect | .leave => true
  | _ => false

namespace Adapter

variable {a b : Adapter} {n : Nat}

/-- Calls on the connection that an adapter holds, none of which closes it. -/
def OnHeld (a : Adapter) (made : List DriverCall) : Prop :=
  ∀ c ∈ made, ∃ n, a.connection = some n ∧ c.connection? = some n ∧ c.closes? a.engine = none

/-- All that one operation can do to an adapter. -/
inductive Moves (a : Adapter) (op : AdapterCall) : Adapter → Prop
  /-- Calls on the connection that is held, if any. -/
  | works {made : List DriverCall} : a.OnHeld made → Moves a op (a.after made)
  /-- The driver opens no connection. -/
  | refused {positional : List Value} {keywords : List (String × Value)} {f : Fault} :
      a.connected = false → a.driver.fault (a.calls ++ [.connect positional keywords]) = some f →
      Moves a op (a.after [.connect positional keywords])
  /-- The driver opens a connection, which is held from then on. -/
  | opens {positional : List Value} {keywords : List (String × Value)} :
      a.connected = false → a.driver.fault (a.calls ++ [.connect positional keywords]) = none →
      Moves a op { a.after [.connect positional keywords] with
        connection := some a.opened, opened := a.opened + 1, connected := true }
  /-- The connection that is held is given up and closed. -/
  | closes {n : Nat} : op.disconnects = true → a.connection = some n →
      Moves a op { a.after [.close n] with connection := none, connected := false }
  /-- There is no connection to give up. -/
  | rests : op.disconnects = true → a.connection = none →
      Moves a op { a with connection := none, connected := false }

theorem Moves.unchanged {op : AdapterCall} : Moves a op a := by
  have h : Moves a op (a.after []) := .works fun c hc => nomatch hc
  rwa [after_nil] at h

theorem Moves.of_keeps {α : Type} {op : AdapterCall} {act : Action Adapter α}
    (h : Action.Keeps id act) (records : List LogRecord) :
    Moves a op (act.runFrom ⟨a, records⟩).2.state := by
  have hstate : (act.runFrom ⟨a, records⟩).2.state = a := h ⟨a, records⟩
  rw [hstate]
  exact .unchanged

section Connecting

variable {op : AdapterCall} (records : List LogRecord)

theorem openConnection_runFrom :
    openConnection.runFrom ⟨a, records⟩ =
      match a.target with
      | .error e => (.error e, ⟨a, records⟩)
      | .ok (positional, keywords) =>
        match a.driver.fault (a.calls ++ [.connect positional keywords]) with
        | some f => (.error (.fault f), ⟨a.after [.connect positional keywords], records⟩)
        | none => (.ok (), ⟨{ a.after [.connect positional keywords] with
            connection := some a.opened, opened := a.opened + 1 }, records⟩) := by
  unfold openConnection
  rw [Action.runFrom_bind_ok (Action.runFrom_current _), Action.runFrom_bind,
    Action.runFrom_ofExcept]
  cases a.target with
  | error e => rfl
  | ok found =>
    obtain ⟨positional, keywords⟩ := found
    simp only
    rw [Action.runFrom_bind, call_runFrom]
    unfold outcome
    cases a.driver.fault (a.calls ++ [.connect positional keywords]) <;> rfl

theorem connect_moves : Moves a op (connect.runFrom ⟨a, records⟩).2.state := by
  unfold connect
  rw [Action.runFrom_bind_ok (Action.runFrom_current _)]
  cases hconnected : a.connected with
  | true => exact .unchanged
  | false =>
    simp only
    rw [if_neg (by decide), Action.runFrom_bind_ok (Action.runFrom_attempt _ _),
      openConnection_runFrom]
    cases a.target with
    | error e =>
      simp only
      cases a.engine.ownFault? e <;> exact .unchanged
    | ok found =>
      obtain ⟨positional, keywords⟩ := found
      simp only
      cases hfault : a.driver.fault (a.calls ++ [.connect positional keywords]) with
      | some f =>
        simp only
        cases a.engine.ownFault? (.fault f) <;> exact .refused hconnected hfault
      | none =>
        simp only
        -- Whatever describing the target comes to, the adapter counts as connected by then.
        rw [Action.runFrom_bind_ok (Action.runFrom_update _ _),
          Action.state_bind fun _ => .log _ _ _]
        exact .opens hconnected hfault

theorem disconnect_moves (hop : op.disconnects = true) :
    Moves a op (disconnect.runFrom ⟨a, records⟩).2.state := by
  unfold disconnect
  rw [Action.runFrom_bind_ok (Action.runFrom_current _),
    Action.runFrom_bind_ok (Action.runFrom_update _ _)]
  cases hconnection : a.connection with
  | none => exact .rests hop hconnection
  | some n =>
    simp only
    rw [Action.runFrom_bind_ok (Action.runFrom_attempt _ _), call_runFrom]
    -- An error of the driver while closing is logged at most, the connection is gone in any case.
    cases outcome { a with connection := none, connected := false } (.close n) with
    | ok u => exact .closes hop hconnection
    | error e =>
      simp only
      cases a.engine.ownFault? e <;> exact .closes hop hconnection

end Connecting

/-! ## Executions -/

section Executing

variable {op : AdapterCall}

/-- Calls on the connection that is held, where closing a cursor does not close it. -/
theorem onHeld_of_forall {made : List DriverCall} (h : a.connection = some n)
    (hmade : ∀ c ∈ made, c.connection? = some n ∧ c.closes? a.engine = none) : a.OnHeld made :=
  fun c hc => ⟨n, h, hmade c hc⟩

theorem executionCalls_onHeld (h : a.connection = some n) (sql : String) (params : List Value) :
    a.OnHeld (a.executionCalls n sql params) := by
  refine onHeld_of_forall h fun x hx => ?_
  rcases mem_executionCalls hx with hplan | hundo | hrelease
  · rcases mem_plan (attempted_subset _ hplan) with rfl | rfl | rfl | rfl <;> exact ⟨rfl, rfl⟩
  · obtain ⟨f, -, -, rfl⟩ := hundo
    exact ⟨rfl, rfl⟩
  · obtain ⟨rfl, hengine⟩ := mem_releasing hrelease
    exact ⟨rfl, if_neg hengine⟩

/-- An execution works on the connection that is held, if the adapter counts as connected, and does
nothing else. -/
theorem execute_moves (hholds : a.connected = true → a.connection.isSome = true) (sql : String)
    (params : Value) (records : List LogRecord) :
    Moves a op ((execute sql params).runFrom ⟨a, records⟩).2.state := by
  cases hconnected : a.connected with
  | false =>
    rw [execute_disconnected hconnected]
    exact .unchanged
  | true =>
    cases hvalues : boundValues params with
    | error e =>
      rw [execute_unlisted hconnected hvalues]
      exact .unchanged
    | ok values =>
      obtain ⟨n, hconnection⟩ := Option.isSome_iff_exists.mp (hholds hconnected)
      obtain ⟨more, hrun⟩ := execute_course hconnected hconnection hvalues records
      rw [hrun]
      exact .works (executionCalls_onHeld hconnection _ _)

theorem executeScript_moves (hholds : a.connected = true → a.connection.isSome = true)
    (script : String) (records : List LogRecord) :
    Moves a op ((executeScript script).runFrom ⟨a, records⟩).2.state := by
  by_cases hready : a.connected = true ∧ (a.engine.isSqlite = true ∨ a.engine = .duckdb)
  · obtain ⟨n, hconnection⟩ := Option.isSome_iff_exists.mp (hholds hready.1)
    rw [executeScript_course hready.1 hconnection hready.2]
    refine .works (onHeld_of_forall hconnection fun x hx => ?_)
    rw [List.mem_singleton.mp hx]
    unfold scripting
    split <;> exact ⟨rfl, rfl⟩
  · have hrefused : a.connected = false ∨ a.engine.isSqlite = false ∧ a.engine ≠ .duckdb := by
      cases hconnected : a.connected with
      | false => exact .inl rfl
      | true =>
        simp only [hconnected, true_and, not_or, Bool.not_eq_true] at hready
        exact .inr hready
    obtain ⟨e, hrun⟩ := executeScript_refused hrefused script records
    rw [hrun]
    exact .unchanged

end Executing

/-- What follows without touching the adapter is left out of account. -/
theorem Moves.behind {α β : Type} {op : AdapterCall} {act : Action Adapter α}
    {f : α → Action Adapter β} {j : Journaled Adapter} (hf : ∀ x, Action.Keeps id (f x))
    (h : Moves a op (act.runFrom j).2.state) : Moves a op ((act >>= f).runFrom j).2.state := by
  rw [Action.state_bind hf]
  exact h

/-- One operation of an adapter that holds a connection whenever it counts as connected. -/
theorem adapterCall_moves (hholds : a.connected = true → a.connection.isSome = true)
    (op : AdapterCall) (records : List LogRecord) :
    Moves a op ((Session.adapterCall op).runFrom ⟨a, records⟩).2.state := by
  cases op with
  | connect => exact .behind (fun _ => .pure _) (connect_moves records)
  | disconnect => exact .behind (fun _ => .pure _) (disconnect_moves records rfl)
  | describe =>
    exact .of_keeps (.bind .current fun _ => .bind (.ofExcept _) fun _ => .pure _) records
  | isConnected => exact .of_keeps (.bind .current fun _ => .pure _) records
  | healthCheck =>
    refine .behind (fun _ => .pure _) ?_
    unfold healthCheck
    rw [Action.runFrom_bind_ok (Action.runFrom_current _)]
    split
    · exact .unchanged
    · have hmoves : Moves a .healthCheck
          ((Action.attempt (execute "SELECT 1")).runFrom ⟨a, records⟩).2.state :=
        execute_moves hholds "SELECT 1" .null records
      refine .behind (fun outcome => ?_) hmoves
      split
      · exact .pure _
      · exact .pure _
      · exact .pure _
      · exact .throw _
  | execute sql params =>
    show Moves a _ (Action.runFrom (do return Reply.execution a.engine (← execute sql params))
      ⟨a, records⟩).2.state
    exact .behind (fun _ => .pure _) (execute_moves hholds sql params records)
  | executeQuery sql params =>
    exact .behind (fun _ => .pure _)
      (.behind (fun _ => .pure _) (execute_moves hholds sql params records))
  | executeCount sql params =>
    exact .behind (fun _ => .pure _)
      (.behind (fun _ => .bind .current fun _ => .ofExcept _)
        (execute_moves hholds sql params records))
  | executeUpdate sql params =>
    refine .behind (fun _ => .pure _)
      (.behind (fun result => .bind .current fun b => ?_) (execute_moves hholds sql params records))
    split
    · exact .bind (.ofExcept _) fun _ => .pure _
    · exact .pure _
  | prepare sql params =>
    exact .of_keeps (.bind (.ofExcept _) fun _ => .bind .current fun _ => .pure _) records
  | executeScript script =>
    exact .behind (fun _ => .pure _) (executeScript_moves hholds script records)
  | enter => exact .behind (fun _ => .pure _) (connect_moves records)
  | leave => exact .behind (fun _ => .pure _) (disconnect_moves records rfl)

/-! ## The invariant -/

/-- An adapter counts as connected when it holds a connection, numbers its connections in the order
of opening, and its calls add up with what it holds. -/
structure Owns (a : Adapter) : Prop where
  connected_iff : a.connected = true ↔ a.connection.isSome = true
  counted : a.opened = a.driver.opens a.calls
  ledger : a.driver.Ledger a.engine a.calls a.connection

theorem Owns.connection_of_disconnected (h : a.Owns) (hdisconnected : a.connected = false) :
    a.connection = none := by
  cases hconnection : a.connection with
  | none => rfl
  | some n =>
    have hconnected := h.connected_iff.mpr (by rw [hconnection]; rfl)
    rw [hdisconnected] at hconnected
    cases hconnected

theorem Owns.held_count (h : a.Owns) :
    a.connection.toList.length = if a.connected then 1 else 0 := by
  cases hconnected : a.connected with
  | false =>
    rw [h.connection_of_disconnected hconnected]
    rfl
  | true =>
    obtain ⟨n, hconnection⟩ := Option.isSome_iff_exists.mp (h.connected_iff.mp hconnected)
    rw [hconnection]
    rfl

/-- Whether the driver can be loaded has no part in it. -/
theorem Owns.installed (h : a.Owns) (installed : Bool) : ({ a with installed } : Adapter).Owns :=
  ⟨h.connected_iff, h.counted, h.ledger⟩

/-- Making an adapter checks its options and nothing else. -/
theorem make_eq {engine : Engine} {options : Value} {driver : Driver} {files : Path.Files}
    (h : make engine options driver files = .ok a) :
    ∃ options, a = { engine, options, files, driver } := by
  have hchecked : ∀ {α : Type} (check : Except Failure α) (options : Value),
      (do
        let _ ← check
        return ({ engine, options, files, driver } : Adapter)) = .ok a →
      a = { engine, options, files, driver } := by
    intro α check options hcheck
    cases check with
    | error e => cases hcheck
    | ok x =>
      cases hcheck
      rfl
  unfold make at h
  cases engine with
  | fake =>
    cases h
    exact ⟨options, rfl⟩
  | sqlite => exact ⟨_, hchecked _ _ h⟩
  | other => exact ⟨_, hchecked _ _ h⟩
  | postgres => exact ⟨_, hchecked _ _ h⟩
  | duckdb => exact ⟨_, hchecked _ _ h⟩

theorem owns_of_make {engine : Engine} {options : Value} {driver : Driver} {files : Path.Files}
    (h : make engine options driver files = .ok a) : a.Owns := by
  obtain ⟨options, rfl⟩ := make_eq h
  exact ⟨⟨fun hc => (nomatch hc), fun hc => (nomatch hc)⟩, rfl, .nil⟩

/-- Calls on the connection that is held leave everything as it is. -/
theorem Owns.works {made : List DriverCall} (h : a.Owns) (hmade : a.OnHeld made) :
    (a.after made).Owns := by
  -- One call changes nothing that is held, so the calls behind it are on the same connection.
  induction made generalizing a with
  | nil => rwa [after_nil]
  | cons c rest ih =>
    obtain ⟨n, hheld, hc, hclose⟩ := hmade c (List.mem_cons_self ..)
    have hopens : a.driver.opensAt a.calls c = 0 := Driver.opensAt_of_connection hc _ _
    have hstep : (a.after [c]).Owns := by
      refine ⟨h.connected_iff, ?_, h.ledger.same hopens hclose fun m hm => ?_⟩
      · show a.opened = a.driver.opens (a.calls ++ [c])
        rw [Driver.opens_concat, hopens, h.counted, Nat.add_zero]
      · rw [hheld, ← hc, hm]
    have hrest : (a.after [c]).OnHeld rest := fun x hx => hmade x (List.mem_cons_of_mem c hx)
    have hall := ih hstep hrest
    rwa [after_after] at hall

/-- Every operation keeps the invariant. -/
theorem Owns.moves {op : AdapterCall} (h : a.Owns) (hmoves : Moves a op b) : b.Owns := by
  cases hmoves with
  | works hmade => exact h.works hmade
  | @refused positional keywords f hconnected hfault =>
    have hopens : a.driver.opensAt a.calls (.connect positional keywords) = 0 := by
      simp [Driver.opensAt, hfault]
    refine ⟨h.connected_iff, ?_, h.ledger.same hopens rfl fun m hm => nomatch hm⟩
    show a.opened = a.driver.opens (a.calls ++ [.connect positional keywords])
    rw [Driver.opens_concat, hopens, h.counted, Nat.add_zero]
  | @opens positional keywords hconnected hfault =>
    have hopens : a.driver.opensAt a.calls (.connect positional keywords) = 1 := by
      simp [Driver.opensAt, hfault, DriverCall.connects]
    have hledger := h.ledger
    rw [h.connection_of_disconnected hconnected] at hledger
    refine ⟨⟨fun _ => rfl, fun _ => rfl⟩, ?_, ?_⟩
    · show a.opened + 1 = a.driver.opens (a.calls ++ [.connect positional keywords])
      rw [Driver.opens_concat, hopens, h.counted]
    · show a.driver.Ledger a.engine (a.calls ++ [.connect positional keywords]) (some a.opened)
      rw [h.counted]
      exact hledger.opens hopens rfl rfl
  | @closes n hop hconnection =>
    have hledger := h.ledger
    rw [hconnection] at hledger
    refine ⟨⟨fun hc => (nomatch hc), fun hc => (nomatch hc)⟩, ?_, hledger.closes⟩
    show a.opened = a.driver.opens (a.calls ++ [.close n])
    rw [Driver.opens_concat, h.counted]
    rfl
  | rests hop hconnection =>
    have hledger := h.ledger
    rw [hconnection] at hledger
    exact ⟨⟨fun hc => (nomatch hc), fun hc => (nomatch hc)⟩, h.counted, hledger⟩

/-! ## Runs -/

/-- The adapter after an operation. -/
def step (a : Adapter) (op : AdapterCall) : Adapter := ((Session.adapterCall op).start a).2.state

/-- The adapter after operations, for each of which its driver is there to be loaded or not. -/
def steps (a : Adapter) (ops : List (AdapterCall × Bool)) : Adapter :=
  ops.foldl (fun a op => ({ a with installed := op.2 } : Adapter).step op.1) a

theorem Owns.step_moves (h : a.Owns) (op : AdapterCall) : Moves a op (a.step op) :=
  adapterCall_moves h.connected_iff.mp op []

theorem Owns.steps (h : a.Owns) (ops : List (AdapterCall × Bool)) : (a.steps ops).Owns := by
  induction ops generalizing a with
  | nil => exact h
  | cons op rest ih =>
    have hready := h.installed op.2
    exact ih (hready.moves (hready.step_moves op.1))

theorem Moves.same_driver {op : AdapterCall} (h : Moves a op b) :
    b.engine = a.engine ∧ b.driver = a.driver := by
  cases h <;> exact ⟨rfl, rfl⟩

theorem Moves.same_options {op : AdapterCall} (h : Moves a op b) : b.options = a.options := by
  cases h <;> rfl

/-- What no operation changes is the same after any operations. -/
theorem Owns.steps_part {γ : Type} {part : Adapter → γ}
    (hmoves : ∀ {a b : Adapter} {op : AdapterCall}, Moves a op b → part b = part a)
    (hinstalled : ∀ (a : Adapter) (installed : Bool),
      part ({ a with installed } : Adapter) = part a)
    (h : a.Owns) (ops : List (AdapterCall × Bool)) : part (a.steps ops) = part a := by
  induction ops generalizing a with
  | nil => rfl
  | cons op rest ih =>
    have hready := h.installed op.2
    have hstep := hready.step_moves op.1
    exact (ih (hready.moves hstep)).trans ((hmoves hstep).trans (hinstalled a op.2))

theorem Owns.steps_driver (h : a.Owns) (ops : List (AdapterCall × Bool)) :
    (a.steps ops).engine = a.engine ∧ (a.steps ops).driver = a.driver :=
  ⟨h.steps_part (fun hmoves => hmoves.same_driver.1) (fun _ _ => rfl) ops,
    h.steps_part (fun hmoves => hmoves.same_driver.2) (fun _ _ => rfl) ops⟩

/-- The calls of one operation: on a connection only while one is held, and closing it only to
disconnect. -/
theorem Moves.calls {op : AdapterCall} (h : Moves a op b) :
    ∃ made, b.calls = a.calls ++ made ∧
      (∀ c ∈ made, ∀ n, c.connection? = some n → a.connection = some n) ∧
      ∀ c ∈ made, ∀ n, c.closes? a.engine = some n → op.disconnects = true := by
  cases h with
  | @works made hmade =>
    refine ⟨made, rfl, fun c hc m hm => ?_, fun c hc m hm => ?_⟩
    · obtain ⟨n, hheld, hconnection, -⟩ := hmade c hc
      rw [hheld, ← hconnection, hm]
    · obtain ⟨n, -, -, hclose⟩ := hmade c hc
      rw [hclose] at hm
      cases hm
  | refused hconnected hfault =>
    refine ⟨_, rfl, fun c hc m hm => ?_, fun c hc m hm => ?_⟩ <;>
      · rw [List.mem_singleton.mp hc] at hm
        cases hm
  | opens hconnected hfault =>
    refine ⟨_, rfl, fun c hc m hm => ?_, fun c hc m hm => ?_⟩ <;>
      · rw [List.mem_singleton.mp hc] at hm
        cases hm
  | closes hop hconnection =>
    refine ⟨_, rfl, fun c hc m hm => ?_, fun _ _ _ _ => hop⟩
    rw [List.mem_singleton.mp hc] at hm
    cases hm
    exact hconnection
  | rests hop hconnection =>
    exact ⟨[], (List.append_nil _).symm, fun c hc => (nomatch hc), fun c hc => (nomatch hc)⟩

/-- **An adapter owns the connections that it opens.** After any operations on a new adapter,
whatever its driver does, it counts as connected exactly when it holds a connection; of the
connections opened all but that one are closed, each once; and each call on a connection was made
while that was open. The next operation makes calls on the connection that is held alone, none if
there is none, and closes it only to disconnect. -/
theorem connections_owned {engine : Engine} {options : Value} {driver : Driver}
    {files : Path.Files} (hmade : make engine options driver files = .ok a)
    {ops : List (AdapterCall × Bool)} (hrun : a.steps ops = b) (op : AdapterCall × Bool) :
    (b.connected = true ↔ b.connection.isSome = true) ∧
    driver.opens b.calls =
      (engine.closings b.calls).length + (if b.connected then 1 else 0) ∧
    (engine.closings b.calls).Nodup ∧
    (∀ n, b.connection = some n → driver.IsOpen engine b.calls n) ∧
    (∀ front c n, front ++ [c] <+: b.calls → c.connection? = some n →
      driver.IsOpen engine front n) ∧
    ∃ made, (b.steps [op]).calls = b.calls ++ made ∧
      (b.connected = false → ∀ c ∈ made, c.connection? = none) ∧
      (∀ c ∈ made, ∀ n, c.connection? = some n → b.connection = some n) ∧
      ∀ c ∈ made, ∀ n, c.closes? engine = some n → op.1.disconnects = true := by
  have howns := owns_of_make hmade
  obtain ⟨options, rfl⟩ := make_eq hmade
  obtain ⟨hengine, hdriver⟩ := howns.steps_driver ops
  have hb := howns.steps ops
  rw [hrun] at hengine hdriver hb
  have hledger := hb.ledger
  simp only at hengine hdriver
  rw [hengine, hdriver] at hledger
  obtain ⟨made, hcalls, hheld, hcloses⟩ := ((hb.installed op.2).step_moves op.1).calls
  refine ⟨hb.connected_iff, ?_, hledger.once, hledger.open_of_held, hledger.used, made, hcalls, ?_,
    hheld, ?_⟩
  · rw [← hb.held_count]
    exact hledger.balanced
  · intro hdisconnected c hc
    cases hconnection : c.connection? with
    | none => rfl
    | some n =>
      have hholds : b.connection = some n := hheld c hc n hconnection
      rw [hb.connection_of_disconnected hdisconnected] at hholds
      cases hholds
  · simp only [hengine] at hcloses
    exact hcloses

/-- A driver that cannot fetch rows and raises whenever a connection is closed. -/
def unsteady : Driver :=
  Script.driver {
    results := [{
      answer := { columns := some ["id"] }
      fetchFault := some (.foreign .value "bad") }]
    closeFault := some (.driver .duckdb "gone") }

/-- Two rounds on a DuckDB adapter, the second in a block of its own. -/
def rounds : List (AdapterCall × Bool) :=
  [(.connect, true), (.execute "SELECT 1" .null, true), (.disconnect, true), (.enter, true),
    (.executeScript "SELECT 2; SELECT 3", true), (.leave, true)]

theorem connections_owned_reopened :
    ∃ a b, make .duckdb .null unsteady {} = .ok a ∧ a.steps rounds = b ∧
      unsteady.opens b.calls = (Engine.duckdb.closings b.calls).length + 0 ∧
      Engine.duckdb.closings b.calls = [0, 1] ∧ (Engine.duckdb.closings b.calls).Nodup ∧
      ∃ made, (b.steps [(.healthCheck, true)]).calls = b.calls ++ made ∧
        ∀ c ∈ made, c.connection? = none := by
  have hmade : make .duckdb .null unsteady {} =
      .ok { engine := .duckdb, options := .dict [], driver := unsteady } := rfl
  obtain ⟨-, hbalanced, honce, -, -, made, hcalls, hnone, -⟩ :=
    connections_owned hmade (rfl : steps _ rounds = _) (.healthCheck, true)
  exact ⟨_, _, hmade, rfl, hbalanced, rfl, honce, made, hcalls, hnone rfl⟩

end Adapter

end FluentQuery
