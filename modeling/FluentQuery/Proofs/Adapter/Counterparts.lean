import FluentQuery.Proofs.Adapter.Answered
import FluentQuery.Proofs.Placeholder.Formatted
import FluentQuery.Proofs.Terminal.Beside

/-!
# Adapters of different engines

For one and the same statement, adapters of different engines make different calls: not every
engine has cursors or commits after a statement, and not every driver takes question marks. What
they have in common is what their drivers are asked: which statements with which values, in which
order. Where no call fails and the drivers answer the same to the same questions, rows and counts
come out alike.

* **`Engine.asked`** — the statements that calls ask for, as the driver of an engine reads them;
* **`Adapter.Counterparts`** — connected adapters that are answered the same;
* **`Adapter.Counterparts.reads`** — they come out alike of statements that read rows, up to the
  name of the engine in a failure;
* **`Adapter.counterparts_of_script`** — connected adapters whose drivers follow the same script.
-/

namespace FluentQuery

open FluentQuery.Action

/-- A failure without the name of the engine in it. -/
def Failure.withoutEngine : Failure → Failure
  | .connection e => .connection { e with engine := "" }
  | .statement e => .statement { e with engine := "" }
  | e => e

namespace Engine

/-- The statement that a driver runs when it is handed a text: one that formats reads the text piece
by piece, and any other takes it as it is. -/
def understood (e : Engine) (text : String) (args : Option (List Value)) : Option String :=
  if e = .postgres then
    (Placeholder.received text args).map fun pieces =>
      String.ofList (pieces.map Placeholder.Piece.written)
  else some text

/-- What a call asks the driver of an engine: a statement, with the values bound. -/
def question? (e : Engine) : DriverCall → Option (Option String × List Value)
  | .execute _ text args => some (e.understood text args, args.getD [])
  | _ => none

/-- All that calls ask, in order. -/
def asked (e : Engine) (calls : List DriverCall) : List (Option String × List Value) :=
  calls.filterMap e.question?

/-- The call by which an engine hands over a statement. -/
def hands (e : Engine) (n : Nat) (sql : String) (params : List Value) : DriverCall :=
  Adapter.handing n (e.prepare sql params).1 (e.prepare sql params).2

theorem asked_append (e : Engine) (front back : List DriverCall) :
    e.asked (front ++ back) = e.asked front ++ e.asked back := List.filterMap_append

theorem asked_of_quiet {e : Engine} {calls : List DriverCall}
    (h : ∀ c ∈ calls, c.handsStatement = false) : e.asked calls = [] := by
  refine List.filterMap_eq_nil_iff.mpr fun c hc => ?_
  have hquiet := h c hc
  cases c with
  | execute n text args => cases hquiet
  | _ => rfl

/-- Whatever the engine, its driver is asked for the statement that was to be handed over. -/
theorem question?_hands (e : Engine) (n : Nat) (sql : String) (params : List Value) :
    e.question? (e.hands n sql params) = some (some sql, params) := by
  cases params with
  | nil =>
    have hsame : e.prepare sql [] = (sql, []) := if_neg fun h => h.2 rfl
    have hunderstood : e.understood sql none = some sql := by
      unfold understood Placeholder.received
      split
      · simp [Function.comp_def, Placeholder.Piece.written]
      · rfl
    unfold hands
    rw [hsame]
    exact congrArg (fun s => some (s, [])) hunderstood
  | cons v values =>
    by_cases hformats : e = .postgres
    · subst hformats
      have hunderstood : understood .postgres (Placeholder.format sql) (some (v :: values)) =
          some sql := by
        unfold understood Placeholder.received
        rw [if_pos rfl, Placeholder.read_format]
        exact congrArg some (Placeholder.written_ofChars sql)
      exact congrArg (fun s => some (s, v :: values)) hunderstood
    · have hsame : e.prepare sql (v :: values) = (sql, v :: values) := if_neg fun h => hformats h.1
      have hunderstood : e.understood sql (some (v :: values)) = some sql := if_neg hformats
      unfold hands
      rw [hsame]
      exact congrArg (fun s => some (s, v :: values)) hunderstood

end Engine

namespace Adapter

variable {a b x y : Adapter}

/-- An adapter is connected, and no call fails from now on. -/
structure Ready (a : Adapter) : Prop where
  connected : a.connected = true
  holds : ∃ n, a.connection = some n
  undisturbed : a.Undisturbed

theorem Ready.after (h : a.Ready) (made : List DriverCall) : (a.after made).Ready :=
  ⟨h.connected, h.holds, h.undisturbed.after made⟩

/-- Adapters that are ready, and are answered the same when they are handed the same statement after
the same questions. -/
structure Counterparts (a b : Adapter) : Prop where
  left : a.Ready
  right : b.Ready
  answer : ∀ made made' n n' sql params, a.engine.asked made = b.engine.asked made' →
    a.driver.answer (a.calls ++ made ++ [a.engine.hands n sql params]) =
      b.driver.answer (b.calls ++ made' ++ [b.engine.hands n' sql params])

/-- States that two adapters come to by calls that ask the same. -/
def Abreast (a b x y : Adapter) : Prop :=
  ∃ made made', a.engine.asked made = b.engine.asked made' ∧ x = a.after made ∧ y = b.after made'

theorem Abreast.start : Abreast a b a b :=
  ⟨[], [], rfl, (after_nil a).symm, (after_nil b).symm⟩

theorem Abreast.after (h : Abreast a b x y) {more more' : List DriverCall}
    (hmore : x.engine.asked more = y.engine.asked more') :
    Abreast a b (x.after more) (y.after more') := by
  obtain ⟨made, made', hmade, rfl, rfl⟩ := h
  refine ⟨made ++ more, made' ++ more', ?_, after_after a made more, after_after b made' more'⟩
  rw [Engine.asked_append, Engine.asked_append, hmade]
  exact congrArg _ hmore

theorem Counterparts.of_abreast (h : Counterparts a b) (hxy : Abreast a b x y) :
    Counterparts x y := by
  obtain ⟨made, made', hmade, rfl, rfl⟩ := hxy
  refine ⟨h.left.after made, h.right.after made', fun more more' n n' sql params hmore => ?_⟩
  have hanswer := h.answer (made ++ more) (made' ++ more') n n' sql params (by
    rw [Engine.asked_append, Engine.asked_append, hmade]
    exact congrArg _ hmore)
  rwa [← List.append_assoc, ← List.append_assoc] at hanswer

theorem asked_withCursor (a : Adapter) {c : DriverCall} (hc : c.handsStatement = false) :
    a.engine.asked (a.withCursor c) = [] := by
  refine Engine.asked_of_quiet fun c' hmem => ?_
  rw [(mem_withCursor hmem).1]
  exact hc

/-- An execution asks for its statement alone, and gives the rows of the answer. -/
theorem Ready.execute_runFrom (h : a.Ready) (sql : String) (params : List Value)
    (records : List LogRecord) :
    ∃ n front made execution,
      (execute sql (.list params)).runFrom ⟨a, records⟩ = (.ok execution, ⟨a.after made, records⟩) ∧
        a.engine.asked front = [] ∧ a.engine.asked made = [(some sql, params)] ∧
        execution.rows = ((a.driver.answer
          (a.calls ++ front ++ [a.engine.hands n sql params])).execution sql).rows := by
  obtain ⟨n, hn⟩ := h.holds
  have hfront := asked_withCursor a (c := .cursor n) rfl
  have hback : ∀ x : Adapter, a.engine.asked (x.collecting n) = [] := by
    intro x
    refine Engine.asked_of_quiet fun c hc => ?_
    unfold collecting fetching at hc
    rcases List.mem_append.mp hc with hfetch | hcommit
    · split at hfetch
      · cases hfetch
      · rw [List.mem_singleton.mp hfetch]
        rfl
    · rw [mem_ending hcommit]
      rfl
  have hclose := asked_withCursor a (c := .closeCursor n) rfl
  refine ⟨n, a.withCursor (.cursor n), _, _,
    execute_undisturbed h.undisturbed h.connected hn sql params records, hfront, ?_, rfl⟩
  unfold plan working
  rw [Engine.asked_append, Engine.asked_append, hfront, hclose, List.append_nil, List.nil_append]
  show a.engine.asked ([a.engine.hands n sql params] ++
    ((a.after (a.withCursor (.cursor n))).after [a.engine.hands n sql params]).collecting n) = _
  rw [Engine.asked_append, hback, List.append_nil]
  exact congrArg Option.toList (Engine.question?_hands a.engine n sql params)

namespace Counterparts

variable (h : Counterparts a b)

include h

theorem execute_agree (sql : String) (params : List Value) :
    Agree (Abreast a b) (fun e e' => e.rows = e'.rows) (execute sql (.list params))
      (execute sql (.list params)) := by
  intro x y records hxy
  obtain ⟨hleft, hright, hanswer⟩ := h.of_abreast hxy
  obtain ⟨n, front, made, execution, hrun, hfront, hmade, hrows⟩ :=
    hleft.execute_runFrom sql params records
  obtain ⟨n', front', made', execution', hrun', hfront', hmade', hrows'⟩ :=
    hright.execute_runFrom sql params records
  rw [hrun, hrun']
  refine ⟨.ok ?_, hxy.after (hmade.trans hmade'.symm), rfl⟩
  rw [hrows, hrows', hanswer front front' n n' sql params (hfront.trans hfront'.symm)]

theorem executeQuery_agree (sql : String) (params : List Value) :
    Agree (Abreast a b) Eq (executeQuery sql (.list params)) (executeQuery sql (.list params)) :=
  .bind (h.execute_agree sql params) fun _ _ hrows => .pure hrows

/-- The failure of a count that is no integer names the engine, and is the same otherwise. -/
theorem executeCount_agree (sql : String) (params : List Value) :
    AgreeUpTo Failure.withoutEngine (Abreast a b) Eq (executeCount sql (.list params))
      (executeCount sql (.list params)) := by
  refine .bind (.of_agree (h.execute_agree sql params)) fun e e' hrows => ?_
  refine .bind (.of_agree .current) fun x y hxy => ?_
  rw [hrows]
  refine Agree.ofExcept ?_
  have hcount : (countOf x.engine e'.rows).mapError Failure.withoutEngine =
      (countOf y.engine e'.rows).mapError Failure.withoutEngine := by
    unfold countOf
    split
    · rfl
    · rfl
    · split
      · rfl
      · rfl
      · unfold notCounted
        split <;> rfl
  show Alike Eq ((countOf x.engine e'.rows).mapError Failure.withoutEngine)
    ((countOf y.engine e'.rows).mapError Failure.withoutEngine)
  rw [hcount]
  exact .refl _

/-- Counterparts come out alike of statements that read rows. -/
theorem reads (params : List Value) :
    Reads Failure.withoutEngine (Abreast a b) params params where
  query sql := .of_agree (h.executeQuery_agree sql params)
  count sql := h.executeCount_agree sql params

end Counterparts

end Adapter

/-! ## Scripted drivers -/

/-- No call fails by a script. -/
structure Script.NeverFails (s : Script) : Prop where
  results : ∀ r ∈ s.results, r.fault = none ∧ r.fetchFault = none
  connect : s.connectFault = none
  cursor : s.cursorFault = none
  commit : s.commitFault = none
  rollback : s.rollbackFault = none
  script : s.scriptFault = none
  close : s.closeFault = none

theorem Script.NeverFails.lastResult {s : Script} (h : s.NeverFails) (calls : List DriverCall) :
    (s.lastResult calls).fault = none ∧ (s.lastResult calls).fetchFault = none := by
  unfold Script.lastResult
  cases hfound : s.results[Script.statementCount calls - 1]? with
  | none => exact ⟨rfl, rfl⟩
  | some r => exact h.results r (List.mem_of_getElem? hfound)

theorem Script.NeverFails.fault {s : Script} (h : s.NeverFails) (calls : List DriverCall) :
    s.driver.fault calls = none := by
  have hlast := h.lastResult calls
  unfold Script.driver
  simp only
  cases calls.getLast? with
  | none => rfl
  | some c =>
    cases c with
    | connect positional keywords => exact h.connect
    | cursor n => exact h.cursor
    | execute n sql params => exact hlast.1
    | fetchAll n => exact hlast.2
    | closeCursor n => rfl
    | commit n => exact h.commit
    | rollback n => exact h.rollback
    | script n text => exact h.script
    | close n => exact h.close

/-- A script counts the statements, of which every question is one. -/
theorem Engine.statementCount_eq (e : Engine) (calls : List DriverCall) :
    Script.statementCount calls = (e.asked calls).length := by
  unfold Script.statementCount Engine.asked
  rw [List.length_filterMap_eq_countP]
  refine List.countP_congr fun c _ => ?_
  cases c <;> rfl

namespace Adapter

variable {a b : Adapter}

/-- A connected adapter whose driver follows a script. -/
structure Follows (a : Adapter) (s : Script) : Prop where
  driver : a.driver = s.driver
  connected : a.connected = true
  holds : ∃ n, a.connection = some n

theorem Follows.ready {s : Script} (h : a.Follows s) (hnever : s.NeverFails) : a.Ready := by
  refine ⟨h.connected, h.holds, fun made => ?_⟩
  rw [h.driver]
  exact hnever.fault _

theorem scripted_follows (e : Engine) (s : Script) : (scripted e s).Follows s := ⟨rfl, rfl, 0, rfl⟩

/-- Connected adapters whose drivers follow the same script are counterparts, whatever their
engines, if no call fails by it and as many statements were executed on either side. -/
theorem counterparts_of_script {s : Script} (hnever : s.NeverFails) (hleft : a.Follows s)
    (hright : b.Follows s)
    (hcount : Script.statementCount a.calls = Script.statementCount b.calls) :
    Counterparts a b := by
  have hcounts : ∀ made made' n n' sql params, a.engine.asked made = b.engine.asked made' →
      Script.statementCount (a.calls ++ made ++ [a.engine.hands n sql params]) =
        Script.statementCount (b.calls ++ made' ++ [b.engine.hands n' sql params]) := by
    intro made made' n n' sql params hmade
    have happend : ∀ front back, Script.statementCount (front ++ back) =
        Script.statementCount front + Script.statementCount back :=
      fun _ _ => List.countP_append
    rw [happend, happend, happend, happend, hcount, Engine.statementCount_eq a.engine made,
      Engine.statementCount_eq b.engine made', hmade]
    rfl
  refine ⟨hleft.ready hnever, hright.ready hnever, fun made made' n n' sql params hmade => ?_⟩
  rw [hleft.driver, hright.driver]
  show (s.lastResult _).answer = (s.lastResult _).answer
  unfold Script.lastResult
  rw [hcounts made made' n n' sql params hmade]

end Adapter

end FluentQuery
