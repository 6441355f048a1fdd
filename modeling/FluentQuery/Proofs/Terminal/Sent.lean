import FluentQuery.Proofs.Session.Lineage
import FluentQuery.Proofs.Statement.Bounds
import FluentQuery.Proofs.Terminal.Validation

/-!
# Statements that terminal operations send

A terminal operation that reads rows gives bounds for its statement. A caller could as well copy
the query, set the bounds of the copy by its calls, and build the statement of the copy. The
operation sends the statement that this gives.

* **`AsksFrom`** — the exchanges of an action from one context;
* **`Query.Reads`**, **`Query.ReadsPage`** — exchanges that send what was built;
* **`Session.builtFromCopy`** — what building gives after calls of a copy;
* **`Session.terminal_sends_built`** — the operations send it.
-/

namespace FluentQuery

/-! ## From one context -/

/-- From a context, all that an action does to its adapter is to have exchanges with it, and these
have to do with its result. -/
def AsksFrom {α : Type} (j : Journaled Context) (act : Action Context α)
    (P : List Exchange → Except Failure α → Prop) : Prop :=
  ∃ xs, Exchanges j.state.adapter xs (act.runFrom j).2.state.adapter ∧ P xs (act.runFrom j).1

namespace AsksFrom

variable {α β : Type} {P : List Exchange → Except Failure α → Prop} {j : Journaled Context}
  {act : Action Configuration β} {f : β → Action Context α}

theorem compile_bind_error {e : Failure}
    (hrun : (act.runFrom ⟨j.state.configuration, j.journal⟩).1 = .error e) (h : P [] (.error e)) :
    AsksFrom j (Context.compile act >>= f) P := by
  unfold AsksFrom Context.compile
  rw [Action.runFrom_bind, Action.runFrom_zoom, hrun]
  exact ⟨[], .nil, h⟩

theorem compile_bind_ok {x : β}
    (hrun : (act.runFrom ⟨j.state.configuration, j.journal⟩).1 = .ok x)
    (h : ∀ records, AsksFrom ⟨{ j.state with
      configuration := (act.runFrom ⟨j.state.configuration, j.journal⟩).2.state }, records⟩
        (f x) P) :
    AsksFrom j (Context.compile act >>= f) P := by
  unfold AsksFrom Context.compile
  rw [Action.runFrom_bind, Action.runFrom_zoom, hrun]
  exact h (act.runFrom ⟨j.state.configuration, j.journal⟩).2.journal

end AsksFrom

namespace Query

open FluentQuery.Action

/-! ## Reading -/

/-- The statement that was built is sent, if there is one. -/
inductive Reads (built : Except Failure Reply) : List Exchange → Except Failure Reply → Prop
  /-- Nothing was built, and it is known why. -/
  | unbuilt {e : Failure} : built = .error e → Reads built [] (.error e)
  /-- The statement is sent; what fails there is what the caller gets to see. -/
  | sent {st : Statement} {reply r : Except Failure Reply} : built = .ok (.statement st) →
      (∀ e, reply = .error e → r = .error e) →
      Reads built [⟨.executeQuery st.sql (.list st.params), reply⟩] r

/-- If both statements were built, rows are counted, and if there are some the second is sent. -/
inductive ReadsPage (counting : Except Failure Statement) (built : Except Failure Reply) :
    List Exchange → Except Failure Reply → Prop
  /-- There is no statement to count rows with. -/
  | uncountable {e : Failure} : counting = .error e → ReadsPage counting built [] (.error e)
  /-- There is no statement to read rows with. -/
  | unbuilt {c : Statement} {e : Failure} : counting = .ok c → built = .error e →
      ReadsPage counting built [] (.error e)
  /-- The rows cannot be counted. -/
  | uncounted {c st : Statement} {e : Failure} : counting = .ok c → built = .ok (.statement st) →
      ReadsPage counting built [⟨.executeCount c.sql (.list c.params), .error e⟩] (.error e)
  /-- There are no rows. -/
  | empty {c st : Statement} {r : Except Failure Reply} : counting = .ok c →
      built = .ok (.statement st) →
      ReadsPage counting built [⟨.executeCount c.sql (.list c.params), .ok (.value (.int 0))⟩] r
  /-- There are rows, and the statement is sent. -/
  | sent {c st : Statement} {total : Int} {reply r : Except Failure Reply} : counting = .ok c →
      built = .ok (.statement st) → total ≠ 0 → (∀ e, reply = .error e → r = .error e) →
      ReadsPage counting built
        [⟨.executeCount c.sql (.list c.params), .ok (.value (.int total))⟩,
          ⟨.executeQuery st.sql (.list st.params), reply⟩] r

theorem Reads.statements {built : Except Failure Reply} {xs : List Exchange}
    {r : Except Failure Reply} (h : Reads built xs r) : ∀ x ∈ xs, x.IsStatement := by
  intro x hx
  cases h with
  | unbuilt => cases hx
  | sent =>
    rw [List.mem_singleton.mp hx]
    exact ⟨_, _, rfl⟩

theorem ReadsPage.statements {counting : Except Failure Statement} {built : Except Failure Reply}
    {xs : List Exchange} {r : Except Failure Reply} (h : ReadsPage counting built xs r) :
    ∀ x ∈ xs, x.IsStatement := by
  intro x hx
  cases h with
  | uncountable => cases hx
  | unbuilt => cases hx
  | uncounted =>
    rw [List.mem_singleton.mp hx]
    exact ⟨_, _, rfl⟩
  | empty =>
    rw [List.mem_singleton.mp hx]
    exact ⟨_, _, rfl⟩
  | sent =>
    rcases List.mem_cons.mp hx with rfl | hx
    · exact ⟨_, _, rfl⟩
    · rw [List.mem_singleton.mp hx]
      exact ⟨_, _, rfl⟩

variable {q : Query} {table : Value}

/-- What building gives where settings can or cannot be read. -/
def built (q : Query) (c : Configuration) (table : Value) : Except Failure Reply :=
  (Compile.underSettings c (q.statement table (.select {}))).map .statement

/-- A statement with given bounds is the one of the query with these bounds. -/
theorem statement_bounded {o : Overrides} {limit offset : Option Nat} (h : o.Sets limit offset)
    (horder : o.withOrder = true) :
    q.statement table (.select o) = (q.bounded limit offset).statement table (.select {}) := by
  have hover := Clauses.selectOver_bounded h (s := q.clauses)
  rw [horder] at hover
  show q.clauses.selectBy _ table o = (q.clauses.bounded limit offset).selectBy _ table {}
  unfold Clauses.selectBy Clauses.selectFrom
  simp only [hover]
  rfl

/-- Compiling a statement and sending it, before anything that leaves the adapter alone. -/
theorem reads {o : Overrides} {limit offset : Option Nat} (h : o.Sets limit offset)
    (horder : o.withOrder = true) {rest : List Row → Action Context Reply}
    (hkeeps : ∀ rows, Keeps Context.adapter (rest rows)) (j : Journaled Context) :
    AsksFrom j (Context.compile (Compile.select q.dialect q.clauses table o) >>= fun st =>
        Context.execute (Adapter.executeQuery st.sql (.list st.params)) >>= rest)
      (Reads ((q.bounded limit offset).built j.state.configuration table)) := by
  have hrun := (Compile.select_runFrom q.dialect q.clauses table o
    ⟨j.state.configuration, j.journal⟩).1
  have hbuilt : (q.bounded limit offset).built j.state.configuration table =
      (((Compile.select q.dialect q.clauses table o).runFrom
        ⟨j.state.configuration, j.journal⟩).1).map .statement := by
    rw [hrun]
    exact congrArg (fun r => (Compile.underSettings _ r).map Reply.statement)
      (statement_bounded h horder).symm
  rw [hbuilt]
  cases hcompiled : ((Compile.select q.dialect q.clauses table o).runFrom
      ⟨j.state.configuration, j.journal⟩).1 with
  | error e => exact .compile_bind_error hcompiled (.unbuilt rfl)
  | ok st =>
    refine .compile_bind_ok hcompiled fun records => ?_
    refine Asks.execute_bind (.executeQuery st.sql (.list st.params))
      (fun rows => .value (.list (rows.map .dict))) rfl rfl (fun e _ => .sent rfl fun _ h => h)
      (fun rows => ?_) _
    exact .quiet (hkeeps rows) fun j => .sent rfl fun e he => (nomatch he)

theorem fetchAll_reads (type : Option Schema) (j : Journaled Context) :
    AsksFrom j (Session.terminal q (.fetchAll table type))
      (Reads (q.built j.state.configuration table)) := by
  unfold Session.terminal fetchAll
  simp only [bind_assoc]
  have hnone : ({} : Overrides).Sets none none := ⟨.null, .null⟩
  refine reads hnone rfl (fun rows => ?_) j
  exact .bind (.ofExcept _) fun _ => .bind (.log _ _ _) fun _ => .bind (.ofExcept _) fun _ =>
    .pure _

theorem fetchOne_reads (type : Option Schema) (j : Journaled Context) :
    AsksFrom j (Session.terminal q (.fetchOne table type))
      (Reads ((q.bounded (some 1) none).built j.state.configuration table)) := by
  unfold Session.terminal fetchOne
  simp only [bind_assoc]
  refine reads ⟨.int 1, .null⟩ rfl (fun rows => ?_) j
  cases rows with
  | nil =>
    exact .bind (.bind (.ofExcept _) fun _ => .bind (.log _ _ _) fun _ => .pure _) fun _ => .pure _
  | cons row more => exact .bind (.bind (.ofExcept _) fun _ => .pure _) fun _ => .pure _

/-- A page, where the settings allow its number and size: the statement that counts rows is sent
first. -/
theorem fetchPage_reads {settings : Settings} {number size : Nat} (type : Option Schema)
    {j : Journaled Context} (hsettings : j.state.configuration.settings.1 = .ok settings)
    (hadmits : Admits settings (.int number) (.int size)) :
    AsksFrom j (Session.terminal q (.fetchPage table (.int number) (.int size) type))
      (ReadsPage (q.statement table .count)
        ((q.bounded (some size) (some ((number - 1) * size))).built j.state.configuration
          table)) := by
  obtain ⟨number', size', hnumber, hsize, hone, hone', hmost⟩ := hadmits
  obtain rfl := Int.ofNat.inj (Value.int.inj hnumber)
  obtain rfl := Int.ofNat.inj (Value.int.inj hsize)
  unfold Session.terminal fetchPage
  simp only [bind_assoc]
  -- The check of the numbers and both statements come before anything is asked.
  have hchecked : (checkPage (.int number) (.int size)).runFrom
      ⟨j.state.configuration, j.journal⟩ = _ := checkPage_runFrom hone hone' hsettings hmost
  refine .compile_bind_ok (congrArg Prod.fst hchecked) fun records => ?_
  rw [hchecked]
  have hkept := (Configuration.settings_settings j.state.configuration).trans hsettings
  have hcount := Compile.count_runFrom q.dialect q.clauses table
    ⟨j.state.configuration.settings.2, records⟩
  rw [Compile.underSettings_of_ok hkept] at hcount
  cases hcounting : q.statement table .count with
  | error e => exact .compile_bind_error (hcount.trans hcounting) (.uncountable rfl)
  | ok counting =>
    refine .compile_bind_ok (hcount.trans hcounting) fun records' => ?_
    generalize hc : ((Compile.count q.dialect q.clauses table).runFrom
      ⟨j.state.configuration.settings.2, records⟩).2.state = c
    have hkept' : c.settings.1 = .ok settings := by
      rw [← hc]
      exact (Compile.count_keeps q.dialect q.clauses table _).trans hkept
    have hselect := (Compile.select_runFrom q.dialect q.clauses table
      { limit := .int size, offset := .int ((number - 1) * size : Nat) } ⟨c, records'⟩).1
    rw [Compile.underSettings_of_ok hkept'] at hselect
    have hbuilt : (q.bounded (some size) (some ((number - 1) * size))).built
        j.state.configuration table = (q.statement table (.select
          { limit := .int size, offset := .int ((number - 1) * size : Nat) })).map .statement := by
      rw [built, Compile.underSettings_of_ok hsettings]
      exact congrArg (Except.map Reply.statement)
        (statement_bounded ⟨.int size, .int ((number - 1) * size)⟩ rfl).symm
    cases hreading : q.statement table (.select
        { limit := .int size, offset := .int ((number - 1) * size : Nat) }) with
    | error e =>
      rw [hreading] at hbuilt
      exact .compile_bind_error (hselect.trans hreading) (.unbuilt rfl hbuilt)
    | ok reading =>
      rw [hreading] at hbuilt
      refine .compile_bind_ok (hselect.trans hreading) fun records'' => ?_
      refine Asks.execute_bind (.executeCount counting.sql (.list counting.params))
        (fun n => .value (.int n)) rfl rfl (fun e _ => .uncounted rfl hbuilt) (fun total => ?_) _
      split
      · next hnone =>
        subst hnone
        exact .quiet (.bind (.bind (.ofExcept _) fun _ => .bind (.log _ _ _) fun _ =>
          .ofExcept _) fun _ => .pure _) fun j' => .empty rfl hbuilt
      · next hrows =>
        simp only [bind_assoc]
        refine .execute_bind (.executeQuery reading.sql (.list reading.params))
          (fun rows => .value (.list (rows.map .dict))) rfl rfl
          (fun e _ => .sent rfl hbuilt hrows fun _ h => h) fun rows => .quiet ?_ fun j' =>
            .sent rfl hbuilt hrows fun e he => (nomatch he)
        exact .bind (.ofExcept _) fun _ => .bind (.ofExcept _) fun _ => .bind (.log _ _ _) fun _ =>
          .bind (.ofExcept _) fun _ => .pure _

end Query

namespace Session

open FluentQuery.Action

variable {s : Session} {name target adapter : String} {q : Query} {a : Adapter}

/-! ## Building -/

/-- What building the query under a name gives. -/
def built (s : Session) (name : String) (table : Value) : Except Failure Reply :=
  (s.run (.build name none table)).1.result

/-- What building gives once the query under a name is copied and calls of the copy are made. -/
def builtFromCopy (s : Session) (name target : String) (calls : List ClauseCall) (table : Value) :
    Except Failure Reply :=
  (s.after (.copy name target :: calls.map (.call target))).built target table

theorem built_eq (hq : s.queries.lookup name = some q) (table : Value) :
    s.built name table = q.built s.configuration table := by
  have hrun : (perform (.build name none table)).runFrom ⟨s, []⟩ = _ :=
    runFrom_bind_ok (runFrom_findQuery_some hq)
  show ((perform (.build name none table)).runFrom ⟨s, []⟩).1 = _
  rw [hrun, runFrom_bind_pure]
  exact congrArg (Except.map Reply.statement)
    (Compile.select_runFrom q.dialect q.clauses table {} ⟨s.configuration, []⟩).1

/-- A call that the query under a name accepts changes that query alone. -/
theorem run_call {c : ClauseCall} {q' : Query} (hq : s.queries.lookup name = some q)
    (hc : q.call c = .ok q') :
    (s.run (.call name c)).2 = { s with queries := put name q' s.queries } := by
  have hrun : (perform (.call name c)).runFrom ⟨s, []⟩ = _ :=
    runFrom_bind_ok (runFrom_findQuery_some hq)
  show ((perform (.call name c)).runFrom ⟨s, []⟩).2.state = _
  rw [hrun, runFrom_bind, runFrom_ofExcept, hc]
  rfl

/-- A copy is put under its name, and nothing else changes. -/
theorem run_copy (hq : s.queries.lookup name = some q) (target : String) :
    (s.run (.copy name target)).2 = { s with queries := put target q s.queries } := by
  have hrun : (perform (.copy name target)).runFrom ⟨s, []⟩ = _ :=
    runFrom_bind_ok (runFrom_findQuery_some hq)
  show ((perform (.copy name target)).runFrom ⟨s, []⟩).2.state = _
  rw [hrun]
  rfl

/-- Calls that a query accepts make of it what its chain of calls does. -/
theorem after_calls {calls : List ClauseCall} {q' : Query} (hq : s.queries.lookup name = some q)
    (hchain : q.chain calls = (q', none)) :
    (s.after (calls.map (.call name))).queries.lookup name = some q' ∧
      (s.after (calls.map (.call name))).configuration = s.configuration := by
  induction calls generalizing s q with
  | nil =>
    cases hchain
    exact ⟨hq, rfl⟩
  | cons c rest ih =>
    rw [Query.chain] at hchain
    cases hc : q.call c with
    | error e =>
      rw [hc] at hchain
      cases hchain
    | ok next =>
      rw [hc] at hchain
      show ((s.run (.call name c)).2.after _).queries.lookup name = some q' ∧
        ((s.run (.call name c)).2.after _).configuration = s.configuration
      rw [run_call hq hc]
      exact ih lookup_put_self hchain

theorem builtFromCopy_eq {calls : List ClauseCall} {q' : Query}
    (hq : s.queries.lookup name = some q) (hchain : q.chain calls = (q', none)) (table : Value) :
    s.builtFromCopy name target calls table = q'.built s.configuration table := by
  show ((s.run (.copy name target)).2.after (calls.map (.call target))).built target table = _
  rw [run_copy hq]
  have hcopy : ({ s with queries := put target q s.queries } : Session).queries.lookup target =
      some q := lookup_put_self
  obtain ⟨hlast, hkept⟩ := after_calls hcopy hchain
  rw [built_eq hlast, hkept]

/-! ## Terminal operations -/

/-- A terminal operation works by exchanges that have to do with its result, and the driver is
handed the statements of these and no others. -/
def Works (s : Session) (name adapter : String) (c : TerminalCall)
    (P : List Exchange → Except Failure Reply → Prop) : Prop :=
  ∃ a xs made, s.adapters.lookup adapter = some a ∧
    (s.run (.terminal name adapter c)).2.adapters.lookup adapter = some (a.after made) ∧
    Exchanges a xs (a.after made) ∧
    (made.filter DriverCall.handsStatement).Sublist (xs.flatMap fun x => a.handed x.op) ∧
    P xs (s.run (.terminal name adapter c)).1.result

theorem works {c : TerminalCall} {P : List Exchange → Except Failure Reply → Prop}
    (hq : s.queries.lookup name = some q) (ha : s.adapters.lookup adapter = some a)
    (hasks : AsksFrom ⟨⟨s.configuration, a⟩, []⟩ (terminal q c) P)
    (hstatements : ∀ xs r, P xs r → ∀ x ∈ xs, x.IsStatement) : s.Works name adapter c P := by
  obtain ⟨hresult, hadapter⟩ := run_terminal hq ha c
  obtain ⟨xs, hxs, hP⟩ := hasks
  obtain ⟨made, hmade, -, hhands⟩ := hxs.hands (hstatements xs _ hP)
  rw [hmade] at hadapter hxs
  exact ⟨a, xs, made, ha, hadapter, hxs, hhands, by rw [hresult]; exact hP⟩

/-- **Terminal operations send what building gives.** Reading all rows sends the statement of the
query; reading one row sends that of a copy whose limit is set to one; and a page that the settings
allow sends, once rows are counted, that of a copy with the limit and the offset of the page. This
holds whatever the query has bounds for itself, over custom SQL as over a table, and if nothing can
be built nothing is sent. In general, compiling with given bounds is compiling clauses that have
these bounds in the place of their own, and bounds in that place do not matter then. -/
theorem terminal_sends_built (hq : s.queries.lookup name = some q)
    (ha : s.adapters.lookup adapter = some a) (target : String) (table : Value)
    (type : Option Schema) :
    s.Works name adapter (.fetchAll table type) (Query.Reads (s.built name table)) ∧
    s.Works name adapter (.fetchOne table type)
      (Query.Reads (s.builtFromCopy name target [.limit (.int 1)] table)) ∧
    (∀ (settings : Settings) (number size : Nat), s.configuration.settings.1 = .ok settings →
      Query.Admits settings (.int number) (.int size) →
      s.Works name adapter (.fetchPage table (.int number) (.int size) type)
        (Query.ReadsPage (q.statement table .count) (s.builtFromCopy name target
          [.limit (.int size), .offset (.int ((number - 1) * size : Nat))] table))) ∧
    (∀ (d : Value) (o : Overrides) (limit offset : Option Nat), o.Sets limit offset →
      Compile.select d q.clauses table o =
        Compile.select d (q.clauses.bounded limit offset) table { withOrder := o.withOrder }) ∧
    ∀ (d : Value) (o : Overrides) (limit offset : Option Nat),
      (o.limit = .null → limit = q.clauses.limit) →
      (o.offset = .null → offset = q.clauses.offset) →
      Compile.select d { q.clauses with limit, offset } table o =
        Compile.select d q.clauses table o := by
  refine ⟨?_, ?_, fun settings number size hsettings hadmits => ?_,
    fun d o limit offset h => Compile.select_bounded h d q.clauses table,
    fun d o limit offset hlimit hoffset => Compile.select_rebounded hlimit hoffset d table⟩
  · rw [built_eq hq]
    exact works hq ha (Query.fetchAll_reads type _) fun _ _ h => h.statements
  · have hchain : q.chain [.limit (.int 1)] = (q.bounded (some 1) none, none) := by
      rw [Query.chain, show q.call (.limit (.int 1)) = _ from q.call_limit 1]
      rfl
    rw [builtFromCopy_eq hq hchain]
    exact works hq ha (Query.fetchOne_reads type _) fun _ _ h => h.statements
  · rw [builtFromCopy_eq hq (q.chain_bounds size ((number - 1) * size))]
    exact works hq ha (Query.fetchPage_reads type hsettings hadmits) fun _ _ h => h.statements

/-- A session with a query over a table and one over custom SQL, both with bounds of their own, and
an adapter. -/
def bounding : Session where
  configuration := { kept := some {} }
  queries := [
    ("table", { clauses := { order := [⟨"id", true⟩], limit := some 5, offset := some 3 } }),
    ("custom", { clauses := { customSql := .text "SELECT a FROM t", limit := some 5 } })]
  adapters := [("a", {
    engine := .sqlite, options := .dict [], connection := some 0, connected := true, opened := 1 })]

/-- The text of a statement that is answered with. -/
def sentText? : Except Failure Reply → Option String
  | .ok (.statement st) => some st.sql
  | _ => none

theorem exists_of_sentText {r : Except Failure Reply} {sql : String}
    (h : sentText? r = some sql) : ∃ st : Statement, r = .ok (.statement st) ∧ st.sql = sql := by
  unfold sentText? at h
  split at h
  · exact ⟨_, rfl, Option.some.inj h⟩
  · cases h

theorem terminal_sends_built_bounding :
    ∃ q q' a st, bounding.queries.lookup "table" = some q ∧
      bounding.queries.lookup "custom" = some q' ∧ bounding.adapters.lookup "a" = some a ∧
      bounding.Works "table" "a" (.fetchOne (.text "t") none)
        (Query.Reads (.ok (.statement ⟨"SELECT * FROM t ORDER BY id ASC LIMIT 1 OFFSET 3", []⟩))) ∧
      bounding.Works "table" "a" (.fetchPage (.text "t") (.int 1) (.int 10) none)
        (Query.ReadsPage (q.statement (.text "t") .count)
          (.ok (.statement ⟨"SELECT * FROM t ORDER BY id ASC LIMIT 10 OFFSET 0", []⟩))) ∧
      st.sql = "SELECT a FROM t LIMIT 1" ∧
      bounding.Works "custom" "a" (.fetchOne .null none) (Query.Reads (.ok (.statement st))) := by
  obtain ⟨-, hone, hpage, -⟩ :=
    @terminal_sends_built bounding "table" "a" _ _ rfl rfl "copy" (.text "t") none
  obtain ⟨-, hcustom, -⟩ :=
    @terminal_sends_built bounding "custom" "a" _ _ rfl rfl "copy" .null none
  have htext : sentText? (bounding.builtFromCopy "custom" "copy" [.limit (.int 1)] .null) =
      some "SELECT a FROM t LIMIT 1" := by
    decide +kernel
  obtain ⟨st, hst, hsql⟩ := exists_of_sentText htext
  rw [hst] at hcustom
  exact ⟨_, _, _, st, rfl, rfl, rfl, hone, hpage {} 1 10 rfl
    ⟨1, 10, rfl, rfl, by decide, by decide, fun most h => by cases h⟩, hsql, hcustom⟩

end Session

end FluentQuery
