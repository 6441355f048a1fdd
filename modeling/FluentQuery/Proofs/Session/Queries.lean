import FluentQuery.Proofs.Action.Run
import FluentQuery.Session.Run

/-!
# The queries of a session

Three kinds of operations change the queries that a session holds: one that starts a query, a call
of a query and a copy. What such an operation does to the queries is a function of the queries
before it and of the dialect that a new query gets; all other operations keep them.

* **`Session.lookup_put_self`**, **`Session.lookup_put_of_ne`** — a name after it was given
  something, and any other name;
* **`Session.Apart`** — a part of a session apart from its settings, its logging and its adapters,
  kept by all operations that put nothing into it themselves (`Apart.perform`);
* **`Session.changed`** — the queries after a change;
* **`Session.run_queries`** — the queries after an operation;
* **`Session.exists_call_result_iff`**, **`Session.exists_new_result_iff`** — when a call or a new
  query succeeds.
-/

namespace FluentQuery.Session

open FluentQuery.Action

/-! ## Names -/

section Names

variable {α : Type} {name other : String} {a : α} {entries : List (String × α)}

theorem lookup_put_self : (put name a entries).lookup name = some a := by
  induction entries with
  | nil => simp [put]
  | cons e rest ih =>
    obtain ⟨n, b⟩ := e
    by_cases hn : n = name
    · simp [put, hn]
    · have hne : (name == n) = false := by simpa using Ne.symm hn
      simp [put, hn, List.lookup_cons, hne, ih]

theorem lookup_put_of_ne (h : other ≠ name) :
    (put name a entries).lookup other = entries.lookup other := by
  have hother : (other == name) = false := by simpa using h
  induction entries with
  | nil => simp [put, List.lookup_cons, hother]
  | cons e rest ih =>
    obtain ⟨n, b⟩ := e
    by_cases hn : n = name
    · simp [put, hn, List.lookup_cons, hother]
    · simp only [put, hn, if_false, List.lookup_cons, ih]

theorem lookup_erase_self : (erase name entries).lookup name = none := by
  rw [List.lookup_eq_none_iff]
  intro e he
  exact bne_iff_ne.mpr (Ne.symm (bne_iff_ne.mp (List.mem_filter.mp he).2))

theorem erase_put : erase name (put name a entries) = erase name entries := by
  induction entries with
  | nil => simp [put, erase]
  | cons e rest ih =>
    obtain ⟨n, b⟩ := e
    unfold erase at ih ⊢
    by_cases hn : n = name
    · simp [put, hn]
    · simp [put, hn, ih]

theorem erase_erase : erase name (erase name entries) = erase name entries := by
  unfold erase
  rw [List.filter_filter]
  simp

end Names

/-! ## Actions that keep a part of a session -/

/-- A part of a session that has nothing to do with its settings, its logging and its adapters. -/
structure Apart {γ : Type} (part : Session → γ) : Prop where
  configuration : ∀ c s, part { s with configuration := c } = part s
  logging : ∀ l s, part { s with logging := l } = part s
  adapters : ∀ entries s, part { s with adapters := entries } = part s

theorem queries_apart : Apart queries := ⟨fun _ _ => rfl, fun _ _ => rfl, fun _ _ => rfl⟩

theorem findQuery_keeps {γ : Type} {part : Session → γ} (name : String) :
    Keeps part (findQuery name) := by
  refine .bind .current fun s => ?_
  split
  · exact .pure _
  · exact .throw _

theorem findAdapter_keeps {γ : Type} {part : Session → γ} (name : String) :
    Keeps part (findAdapter name) := by
  refine .bind .current fun s => ?_
  split
  · exact .pure _
  · exact .throw _

theorem logReport_keeps {γ : Type} {part : Session → γ} (r : Report) (method : String) :
    Keeps part (logReport r method) := by
  refine .bind (.ofExcept _) fun text => ?_
  split
  · exact .bind (.log _ _ _) fun _ => .pure _
  · exact .throw _

namespace Apart

variable {γ : Type} {part : Session → γ} (h : Apart part)

include h

theorem configured {α : Type} (act : Action Configuration α) : Keeps part (configured act) :=
  .zoom h.configuration

theorem onAdapter {α : Type} (name : String) (act : Action Adapter α) :
    Keeps part (onAdapter name act) :=
  .bind (findAdapter_keeps name) fun _ => .zoom fun _ _ => h.adapters _ _

theorem onContext {α : Type} (name : String) (act : Action Context α) :
    Keeps part (onContext name act) :=
  .bind (findAdapter_keeps name) fun _ =>
    .zoom fun c s => (h.adapters _ { s with configuration := c.configuration }).trans
      (h.configuration _ s)

theorem configureLogging (level : Value) : Keeps part (configureLogging level) := by
  refine .bind (h.configured _) fun level => .bind .current fun s => ?_
  refine .bind (.update fun _ => h.logging _ _) fun _ => ?_
  split
  · exact .pure _
  · exact .throw _

/-- Making an adapter changes no more than the adapters. -/
theorem makingAdapter (name : String) (source : AdapterSource) (options : Value) (connect : Bool)
    (driver : Driver) (files : Path.Files) :
    Keeps part (perform (.adapter name source options connect driver files)) := by
  refine .bind (.update fun _ => h.adapters _ _) fun _ => .bind .current fun s => ?_
  refine .bind (.ofExcept _) fun a => .bind (.update fun _ => h.adapters _ _) fun _ => ?_
  have hdone : Keeps part (do return Reply.adapter (← findAdapter name)) :=
    .bind (findAdapter_keeps name) fun _ => .pure _
  cases connect with
  | true => exact .bind (h.onAdapter name _) fun _ => hdone
  | false => exact hdone

/-- What an operation does to such a part its action does: an adapter that failed is dropped
without regard to it. -/
theorem run (op : Operation) (s : Session) :
    part (s.run op).2 = part ((perform op).runFrom ⟨s, []⟩).2.state := by
  show part (dropFailed op ((perform op).runFrom ⟨s, []⟩).1
    ((perform op).runFrom ⟨s, []⟩).2.state) = _
  unfold dropFailed
  split
  · exact h.adapters _ _
  · rfl

end Apart

/-! ## Operations -/

/-- What an operation is to do to the queries of a session. -/
inductive QueryChange where
  | start (name : String) (start : QueryStart)
  | call (name : String) (c : ClauseCall)
  | copy (name target : String)

/-- The change of the queries that an operation is for, if it is for one. -/
def change? : Operation → Option QueryChange
  | .new name start => some (.start name start)
  | .build name start _ => start.map (.start name)
  | .compile name start _ _ _ => start.map (.start name)
  | .call name c => some (.call name c)
  | .copy name target => some (.copy name target)
  | _ => none

/-- **The operations that keep a part of a session**, where it has nothing to do with what all
other operations change. -/
theorem Apart.perform {γ : Type} {part : Session → γ} (h : Apart part) {op : Operation}
    (hqueries : change? op ≠ none → ∀ entries s, part { s with queries := entries } = part s)
    (hregistry : ∀ name engine, op = .register name engine →
      ∀ r s, part { s with registry := r } = part s) : Keeps part (perform op) := by
  have hkeep : change? op ≠ none → ∀ name q, Keeps part (keepQuery name q) :=
    fun hop name q => .update fun _ => hqueries hop _ _
  have hstart : change? op ≠ none → ∀ name q, Keeps part (start name q) := by
    intro hop name q
    refine .bind (h.configured _) fun dialect => .bind (hkeep hop _ _) fun _ => ?_
    split
    · exact .pure _
    · exact .throw _
  have hfind : ∀ name q, (q ≠ none → change? op ≠ none) → Keeps part (startOrFind name q) := by
    intro name q hq
    cases q with
    | none => exact findQuery_keeps name
    | some q => exact hstart (hq (by simp)) name q
  cases op with
  | new name q => exact .bind (hstart (by simp [change?]) name q) fun _ => .pure _
  | call name c =>
    exact .bind (findQuery_keeps name) fun _ => .bind (.ofExcept _) fun _ =>
      .bind (hkeep (by simp [change?]) _ _) fun _ => .pure _
  | copy name target =>
    exact .bind (findQuery_keeps name) fun _ => .bind (hkeep (by simp [change?]) _ _) fun _ =>
      .pure _
  | clauses name => exact .bind (findQuery_keeps name) fun _ => .pure _
  | quoted name =>
    exact .bind (findQuery_keeps name) fun _ => .bind (.ofExcept _) fun _ => .pure _
  | build name q table =>
    exact .bind (hfind name q fun hq => by simpa [change?] using hq) fun _ =>
      .bind (h.configured _) fun _ => .pure _
  | compile name q dialect kind table =>
    exact .bind (hfind name q fun hq => by simpa [change?] using hq) fun _ =>
      .bind (h.configured _) fun _ => .bind (h.configured _) fun _ => .pure _
  | terminal query adapter c =>
    exact .bind (findQuery_keeps query) fun _ => h.onContext adapter _
  | adapter name source options connect driver files =>
    exact h.makingAdapter name source options connect driver files
  | adapterCall name c installed => exact h.onAdapter name _
  | register name engine =>
    exact .bind (.update fun _ => hregistry name engine rfl _ _) fun _ => .bind (.log _ _ _)
      fun _ => .bind .current fun _ => .pure _
  | engines => exact .bind .current fun _ => .pure _
  | logReport r method => exact logReport_keeps r method
  | environment changes file reset => exact .bind (h.configured _) fun _ => .pure _
  | settings => exact .bind (h.configured _) fun _ => .pure _
  | configureLogging level => exact h.configureLogging level

theorem perform_keeps {op : Operation} (h : change? op = none) : Keeps queries (perform op) :=
  queries_apart.perform (fun hop => absurd h hop) fun _ _ _ _ _ => rfl

/-! ## What changes do -/

variable {s : Session} {name : String}

/-- The dialect that a new query gets for the one that is given. -/
def dialect? (s : Session) (given : Value) : Option Value :=
  ((Compile.dialect given).start s.configuration).1.toOption

/-- The queries after a change. A new query is kept with the calls before the first that it
rejects; a rejected call leaves its query as it is. -/
def changed (s : Session) : QueryChange → List (String × Query)
  | .start name start =>
    match s.dialect? start.dialect with
    | some dialect => put name (({ dialect } : Query).chain start.chain).1 s.queries
    | none => s.queries
  | .call name c =>
    match s.queries.lookup name with
    | some q =>
      match q.call c with
      | .ok q' => put name q' s.queries
      | .error _ => s.queries
    | none => s.queries
  | .copy name target =>
    match s.queries.lookup name with
    | some q => put target q s.queries
    | none => s.queries

theorem runFrom_findQuery_some {q : Query} (h : s.queries.lookup name = some q) :
    (findQuery name).runFrom ⟨s, []⟩ = (.ok q, ⟨s, []⟩) := by
  unfold findQuery
  rw [runFrom_bind_ok (runFrom_current _)]
  simp only [h]
  exact runFrom_pure q _

theorem runFrom_findQuery_none (h : s.queries.lookup name = none) :
    (findQuery name).runFrom ⟨s, []⟩ = (.error (.missing "wrapper" name), ⟨s, []⟩) := by
  unfold findQuery
  rw [runFrom_bind_ok (runFrom_current _)]
  simp only [h]
  exact runFrom_throw _ _

theorem runFrom_findAdapter_some {a : Adapter} {j : Journaled Session}
    (h : j.state.adapters.lookup name = some a) : (findAdapter name).runFrom j = (.ok a, j) := by
  unfold findAdapter
  rw [runFrom_bind_ok (runFrom_current _)]
  simp only [h]
  exact runFrom_pure a _

theorem runFrom_keepQuery (name : String) (q : Query) (j : Journaled Session) :
    (keepQuery name q).runFrom j =
      (.ok (), { j with state := { j.state with queries := put name q j.state.queries } }) := rfl

theorem runFrom_configured_dialect (s : Session) (given : Value) :
    ∃ j, j.state.queries = s.queries ∧
      (configured (Compile.dialect given)).runFrom ⟨s, []⟩ =
        (((Compile.dialect given).start s.configuration).1, j) :=
  ⟨_, rfl, rfl⟩

/-- What making a new query gives: the query, or why its chain of calls was rejected. -/
def startOutcome (q : QueryStart) (dialect : Value) : Except Failure Query :=
  match (({ dialect } : Query).chain q.chain).2 with
  | none => .ok (({ dialect } : Query).chain q.chain).1
  | some e => .error e

theorem runFrom_start (s : Session) (name : String) (q : QueryStart) :
    ∃ j, j.state.queries = s.changed (.start name q) ∧
      (start name q).runFrom ⟨s, []⟩ =
        (((Compile.dialect q.dialect).start s.configuration).1 >>= startOutcome q, j) := by
  obtain ⟨j, hj, hrun⟩ := runFrom_configured_dialect s q.dialect
  cases hd : ((Compile.dialect q.dialect).start s.configuration).1 with
  | error e =>
    rw [hd] at hrun
    refine ⟨j, ?_, runFrom_bind_error hrun⟩
    simp only [changed, dialect?, hd, Except.toOption, hj]
  | ok dialect =>
    rw [hd] at hrun
    refine ⟨{ j with state := { j.state with
      queries := put name (({ dialect } : Query).chain q.chain).1 j.state.queries } }, ?_, ?_⟩
    · simp only [changed, dialect?, hd, Except.toOption, hj]
    · refine (runFrom_bind_ok hrun).trans ((runFrom_bind_ok (runFrom_keepQuery name _ j)).trans ?_)
      show _ = (startOutcome q dialect, _)
      unfold startOutcome
      cases (({ dialect } : Query).chain q.chain).2 <;> rfl

theorem runFrom_call (s : Session) (name : String) (c : ClauseCall) :
    ((perform (.call name c)).runFrom ⟨s, []⟩).2.state.queries = s.changed (.call name c) := by
  cases hq : s.queries.lookup name with
  | none =>
    have hrun : (perform (.call name c)).runFrom ⟨s, []⟩ = _ :=
      runFrom_bind_error (runFrom_findQuery_none hq)
    simp only [hrun, changed, hq]
  | some q =>
    have hrun : (perform (.call name c)).runFrom ⟨s, []⟩ = _ :=
      runFrom_bind_ok (runFrom_findQuery_some hq)
    rw [hrun, runFrom_bind, runFrom_ofExcept]
    cases hc : q.call c with
    | ok q' =>
      simp only [changed, hq, hc]
      rfl
    | error e => simp only [changed, hq, hc]

theorem runFrom_copy (s : Session) (name target : String) :
    ((perform (.copy name target)).runFrom ⟨s, []⟩).2.state.queries =
      s.changed (.copy name target) := by
  cases hq : s.queries.lookup name with
  | none =>
    have hrun : (perform (.copy name target)).runFrom ⟨s, []⟩ = _ :=
      runFrom_bind_error (runFrom_findQuery_none hq)
    simp only [hrun, changed, hq]
  | some q =>
    have hrun : (perform (.copy name target)).runFrom ⟨s, []⟩ = _ :=
      runFrom_bind_ok (runFrom_findQuery_some hq)
    rw [hrun]
    simp only [changed, hq]
    rfl

theorem runFrom_start_bind {f : Query → Action Session Reply} (hf : ∀ q, Keeps queries (f q))
    (s : Session) (name : String) (start : QueryStart) :
    ((Session.start name start >>= f).runFrom ⟨s, []⟩).2.state.queries =
      s.changed (.start name start) := by
  obtain ⟨j, hj, hrun⟩ := runFrom_start s name start
  rw [Keeps.behind hf, hrun, hj]

/-- What an operation does to the queries. -/
theorem run_queries (op : Operation) (s : Session) :
    (s.run op).2.queries = match change? op with
      | some change => s.changed change
      | none => s.queries := by
  rw [queries_apart.run]
  cases op with
  | new name start => exact runFrom_start_bind (fun _ => .pure _) s name start
  | call name c => exact runFrom_call s name c
  | copy name target => exact runFrom_copy s name target
  | build name start table =>
    cases start with
    | none => exact perform_keeps rfl ⟨s, []⟩
    | some start =>
      exact runFrom_start_bind (fun _ => .bind (queries_apart.configured _) fun _ => .pure _)
        s name start
  | compile name start dialect kind table =>
    cases start with
    | none => exact perform_keeps rfl ⟨s, []⟩
    | some start =>
      exact runFrom_start_bind (fun _ => .bind (queries_apart.configured _) fun _ =>
        .bind (queries_apart.configured _) fun _ => .pure _) s name start
  | _ => exact perform_keeps rfl ⟨s, []⟩

end FluentQuery.Session
