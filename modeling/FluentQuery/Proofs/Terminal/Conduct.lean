import FluentQuery.Proofs.Paging.Built
import FluentQuery.Proofs.Query.Replay
import FluentQuery.Proofs.Row.Decoded
import FluentQuery.Proofs.Statement.Compiled
import FluentQuery.Proofs.Terminal.Exchange
import FluentQuery.Proofs.Terminal.Line

/-!
# How terminal operations go

A terminal operation checks its arguments and compiles its statements before it turns to the
adapter. It then has one exchange with it, or two for a page with rows, and what fails there is what
the caller gets to see.

* **`Query.Conducts`** — all ways in which a terminal operation can go: its exchanges and its
  result;
* **`Query.Pages`** — those of fetching a page, with the total of the page that comes out;
* **`Query.terminal_conducts`** — it goes in one of them.
-/

namespace FluentQuery

namespace TerminalCall

/-- The table of a terminal operation. -/
def table : TerminalCall → Value
  | .fetchAll table _ => table
  | .fetchOne table _ => table
  | .count table => table
  | .fetchPage table _ _ _ => table
  | .delete table _ => table

/-- The kind of the statement that comes first. -/
def kind : TerminalCall → StatementKind
  | .fetchAll _ _ => .select {}
  | .fetchOne _ _ => .select { limit := .int 1 }
  | .count _ => .count
  | .fetchPage _ _ _ _ => .count
  | .delete _ _ => .delete

/-- The operation of the adapter that takes the statement. -/
def asks (c : TerminalCall) (st : Statement) : AdapterCall :=
  match c with
  | .fetchAll _ _ => .executeQuery st.sql (.list st.params)
  | .fetchOne _ _ => .executeQuery st.sql (.list st.params)
  | .count _ => .executeCount st.sql (.list st.params)
  | .fetchPage _ _ _ _ => .executeCount st.sql (.list st.params)
  | .delete _ _ => .executeUpdate st.sql (.list st.params)

/-- The number and the size of the page that a terminal operation is for, if it is for one. -/
def page? : TerminalCall → Option (Value × Value)
  | .fetchPage _ pageNo pageSize _ => some (pageNo, pageSize)
  | _ => none

theorem statement?_asks (c : TerminalCall) (st : Statement) :
    (c.asks st).statement?.isSome = true := by
  cases c <;> rfl

end TerminalCall

namespace Query

/-- The statement of a kind that a query compiles to. -/
def statement (q : Query) (table : Value) (kind : StatementKind) : Except Failure Statement :=
  q.clauses.statementBy (Compile.inspector q.dialect) table kind

/-- All ways in which a terminal operation can go. -/
inductive Conducts (q : Query) (c : TerminalCall) :
    List Exchange → Except Failure Reply → Prop
  /-- It fails before the adapter is used. -/
  | refused {e : Failure} : Conducts q c [] (.error e)
  /-- The adapter fails with the first statement. -/
  | failed {st : Statement} {e : Failure} : q.statement c.table c.kind = .ok st → e.IsForeign →
      Conducts q c [⟨c.asks st, .error e⟩] (.error e)
  /-- The first statement is the only one. -/
  | answered {st : Statement} {x : Reply} {r : Except Failure Reply} : c.page? = none →
      q.statement c.table c.kind = .ok st → (∀ e, r = .error e → e.IsForeign) →
      Conducts q c [⟨c.asks st, .ok x⟩] r
  /-- There are no rows for a page, which is empty if the line about it can be written. -/
  | empty {st : Statement} {pageNo pageSize : Value} {number size : Nat} :
      c.page? = some (pageNo, pageSize) → positive? pageNo = some number →
      positive? pageSize = some size → q.statement c.table c.kind = .ok st →
      Conducts q c [⟨c.asks st, .ok (.value (.int 0))⟩]
        ((pageLine number c.table none).map fun _ => .page (Page.ofRecords [] 0 number size))
  /-- The rows of a page are read once they are counted. -/
  | paged {st reading : Statement} {pageNo pageSize : Value} {number size : Nat} {total : Int}
      {reply r : Except Failure Reply} :
      c.page? = some (pageNo, pageSize) → positive? pageNo = some number →
      positive? pageSize = some size → q.statement c.table c.kind = .ok st →
      q.statement c.table
        (.select { limit := .int size, offset := .int ((number - 1) * size : Nat) }) =
          .ok reading →
      total ≠ 0 → (∀ e, reply = .error e → r = .error e) → (∀ e, r = .error e → e.IsForeign) →
      Conducts q c [⟨c.asks st, .ok (.value (.int total))⟩,
        ⟨.executeQuery reading.sql (.list reading.params), reply⟩] r

end Query

/-- What cannot be written does not fail as the builder does. -/
theorem WrittenIf.isForeign {α : Type} {p : Prop} {r : Except Failure α} {e : Failure}
    (h : WrittenIf p r) (he : r = .error e) : e.IsForeign := by
  rw [h.of_error he]
  exact trivial

namespace Row

variable {fit : Fit} {type : Option Schema} {e : Failure}

theorem decode_fails {index : Int} {row : Row} (h : decode fit type index row = .error e) :
    e.IsForeign := by
  obtain ⟨_, _, -, rfl⟩ := decode_eq_error h
  exact trivial

theorem decodeFrom_fails {index : Nat} {rows : List Row}
    (h : decodeFrom fit type index rows = .error e) : e.IsForeign := by
  induction rows generalizing index e with
  | nil => cases h
  | cons row rest ih =>
    rw [decodeFrom] at h
    refine Failure.of_bind (fun _ => decode_fails) (fun v _ hv => ?_) h
    exact Failure.of_bind_pure (fun _ => ih) hv

end Row

namespace Page

theorem compute_fails {α : Type} {r : Except Misuse α} {e : Failure} (h : compute r = .error e) :
    e.IsForeign := by
  unfold compute at h
  split at h
  · cases h
  · cases h
    exact trivial

theorem build_fails {of : Option Schema} {records total pageNo pageSize : Value} {e : Failure}
    (h : build of records total pageNo pageSize = .error e) : e.IsForeign := by
  refine Failure.of_bind (fun _ => compute_fails) (fun pages _ hpages => ?_) h
  refine Failure.of_bind (fun _ => compute_fails) (fun items _ hitems => ?_) hpages
  refine Failure.of_bind (fun _ => compute_fails) (fun hasNext e he => ?_) hitems
  split at he
  · cases he
  · cases he
    exact trivial
  · cases he
    exact trivial

end Page

namespace Query

open FluentQuery.Action

variable {q : Query} {table : Value}

/-- What compiling gives is the statement of the query. -/
theorem statement_of_compiled {k : StatementKind} {j : Journaled Configuration}
    {st : Statement}
    (h : ((Compile.statement q.dialect q.clauses table k).runFrom j).1 = .ok st) :
    q.statement table k = .ok st := by
  rw [Compile.statement_outcome] at h
  exact (Compile.underSettings_eq_ok h).1

/-! ## One statement -/

section Once

variable {α : Type} {c : TerminalCall} {act : Statement → Action Adapter α} {f : α → Reply}
  {rest : Statement → α → Action Context Reply}

/-- A statement is compiled and handed to the adapter, and what follows leaves the adapter alone. -/
theorem once_conducts (hpage : c.page? = none)
    (hop : ∀ st, Session.adapterCall (c.asks st) = act st >>= fun x => pure (f x))
    (hkeeps : ∀ st x, Keeps Context.adapter (rest st x))
    (hfails : ∀ st x, FailsWith Failure.IsForeign (rest st x)) :
    Asks (Context.compile (Compile.statement q.dialect q.clauses c.table c.kind) >>= fun st =>
      Context.execute (act st) >>= rest st) (Conducts q c) := by
  refine .compile_bind (fun e => .refused) fun st j hst => ?_
  refine .execute_bind (c.asks st) f (hop st) (c.statement?_asks st)
    (fun e he => .failed (statement_of_compiled hst) he) fun x => ?_
  exact .quiet (hkeeps st x) fun j' =>
    .answered hpage (statement_of_compiled hst) fun e he => hfails st x j' e he

end Once

theorem fetchAll_conducts (type : Option Schema) :
    Asks (Session.terminal q (.fetchAll table type)) (Conducts q (.fetchAll table type)) := by
  unfold Session.terminal fetchAll
  simp only [bind_assoc]
  refine once_conducts (c := .fetchAll table type) rfl (fun _ => rfl) (fun st rows => ?_)
    fun st rows => ?_
  · exact .bind (.ofExcept _) fun _ => .bind (.log _ _ _) fun _ => .bind (.ofExcept _)
      fun _ => .pure _
  · exact .bind (.ofExcept fun e he => (rowsLine_written _ _).isForeign he) fun _ =>
      .bind (.log _ _ _) fun _ => .bind (.ofExcept fun e he => Row.decodeFrom_fails he)
      fun _ => .pure _

theorem fetchOne_conducts (type : Option Schema) :
    Asks (Session.terminal q (.fetchOne table type)) (Conducts q (.fetchOne table type)) := by
  unfold Session.terminal fetchOne
  simp only [bind_assoc]
  refine once_conducts (c := .fetchOne table type) rfl (fun _ => rfl) (fun st rows => ?_)
    fun st rows => ?_
  · cases rows with
    | nil =>
      exact .bind (.bind (.ofExcept _) fun _ => .bind (.log _ _ _) fun _ => .pure _) fun _ =>
        .pure _
    | cons row more => exact .bind (.bind (.ofExcept _) fun _ => .pure _) fun _ => .pure _
  · cases rows with
    | nil =>
      exact .bind (.bind (.ofExcept fun e he => (noRowLine_written _).isForeign he) fun _ =>
        .bind (.log _ _ _) fun _ => .pure _) fun _ => .pure _
    | cons row more =>
      exact .bind (.bind (.ofExcept fun e he => Row.decode_fails he) fun _ => .pure _)
        fun _ => .pure _

theorem count_conducts : Asks (Session.terminal q (.count table)) (Conducts q (.count table)) := by
  unfold Session.terminal count
  simp only [bind_assoc]
  exact once_conducts (c := .count table) rfl (fun _ => rfl) (fun _ _ => .pure _) fun _ _ => .pure _

/-- A refused deletion does nothing else. -/
theorem delete_refused {allowFullTable : Bool} {reason : String}
    (h : deleteRefusal? q.clauses allowFullTable = some reason) (j : Journaled Context) :
    (Session.terminal q (.delete table allowFullTable)).runFrom j =
      (.error (.builder (.unsafeDelete reason)), j) := by
  unfold Session.terminal delete
  simp only [h]
  rfl

/-- A deletion that is not refused compiles its statement and has it executed. -/
theorem delete_allowed {allowFullTable : Bool}
    (h : deleteRefusal? q.clauses allowFullTable = none) :
    Session.terminal q (.delete table allowFullTable) = (do
      let statement ← Context.compile (Compile.delete q.clauses table)
      let affected ← Context.execute (Adapter.executeUpdate statement.sql (.list statement.params))
      Action.log .query .info (← Action.ofExcept (deletionLine affected table))
      return .value affected) := by
  unfold Session.terminal delete
  simp only [h, bind_assoc, pure_bind]

theorem delete_conducts (allowFullTable : Bool) :
    Asks (Session.terminal q (.delete table allowFullTable))
      (Conducts q (.delete table allowFullTable)) := by
  cases hrefusal : deleteRefusal? q.clauses allowFullTable with
  | some reason =>
    intro j
    rw [delete_refused hrefusal]
    exact ⟨[], .nil, .refused⟩
  | none =>
    rw [delete_allowed hrefusal]
    refine once_conducts (c := .delete table allowFullTable) rfl (fun _ => rfl) (fun st x => ?_)
      fun st x => ?_
    · exact .bind (.ofExcept _) fun _ => .bind (.log _ _ _) fun _ => .pure _
    · exact .bind (.ofExcept fun e he => (deletionLine_written _ _).isForeign he) fun _ =>
        .bind (.log _ _ _) fun _ => .pure _

/-! ## Two statements -/

theorem positive?_eq_some_iff {v : Value} {n : Nat} :
    positive? v = some n ↔ v = .int n ∧ 1 ≤ n := by
  unfold positive?
  rw [Option.filter_eq_some_iff, Value.count?_eq_some_iff, decide_eq_true_iff]

/-- The numbers of a page that pass are positive. -/
theorem checkPage_ok {pageNo pageSize : Value} {number size : Nat} {j : Journaled Configuration}
    (h : ((checkPage pageNo pageSize).runFrom j).1 = .ok (number, size)) :
    positive? pageNo = some number ∧ positive? pageSize = some size := by
  unfold checkPage at h
  split at h
  · next number' size' hnumber hsize =>
    have hsame : (number', size') = (number, size) := by
      rw [Action.runFrom_bind, Action.runFrom_settings] at h
      cases hsettings : j.state.settings.1 with
      | error e =>
        rw [hsettings] at h
        cases h
      | ok settings =>
        rw [hsettings] at h
        simp only [Except.mapError] at h
        split at h
        · split at h
          · cases h
          · exact Except.ok.inj h
        · exact Except.ok.inj h
    cases hsame
    exact ⟨hnumber, hsize⟩
  · cases h

/-- All ways in which a page can be fetched. A page that comes out has the total that was counted. -/
inductive Pages (q : Query) (table pageNo pageSize : Value) :
    List Exchange → Except Failure Reply → Prop
  /-- It fails before anything is asked. -/
  | refused {e : Failure} : Pages q table pageNo pageSize [] (.error e)
  /-- The rows cannot be counted. -/
  | failed {counting : Statement} {e : Failure} : q.statement table .count = .ok counting →
      e.IsForeign →
      Pages q table pageNo pageSize
        [⟨.executeCount counting.sql (.list counting.params), .error e⟩] (.error e)
  /-- There are no rows. -/
  | empty {counting : Statement} {number size : Nat} : positive? pageNo = some number →
      positive? pageSize = some size → q.statement table .count = .ok counting →
      Pages q table pageNo pageSize
        [⟨.executeCount counting.sql (.list counting.params), .ok (.value (.int 0))⟩]
        ((pageLine number table none).map fun _ => .page (Page.ofRecords [] 0 number size))
  /-- The rows are counted and then read. -/
  | paged {counting reading : Statement} {number size : Nat} {total : Int}
      {reply r : Except Failure Reply} : positive? pageNo = some number →
      positive? pageSize = some size → q.statement table .count = .ok counting →
      q.statement table
        (.select { limit := .int size, offset := .int ((number - 1) * size : Nat) }) =
          .ok reading →
      total ≠ 0 → (∀ e, reply = .error e → r = .error e) → (∀ e, r = .error e → e.IsForeign) →
      (∀ (n : Nat) (page : Page), total = n → r = .ok (.page page) → page.total = n) →
      Pages q table pageNo pageSize
        [⟨.executeCount counting.sql (.list counting.params), .ok (.value (.int total))⟩,
          ⟨.executeQuery reading.sql (.list reading.params), reply⟩] r

theorem Pages.conducts {pageNo pageSize : Value} {type : Option Schema} {xs : List Exchange}
    {r : Except Failure Reply} (h : Pages q table pageNo pageSize xs r) :
    Conducts q (.fetchPage table pageNo pageSize type) xs r := by
  cases h with
  | refused => exact .refused
  | failed hcounted he => exact .failed (c := .fetchPage table pageNo pageSize type) hcounted he
  | empty hnumber hsize hcounted =>
    exact .empty (c := .fetchPage table pageNo pageSize type) rfl hnumber hsize hcounted
  | paged hnumber hsize hcounted hread hrows hreply hfails _ =>
    exact .paged (c := .fetchPage table pageNo pageSize type) rfl hnumber hsize hcounted hread hrows
      hreply hfails

theorem fetchPage_pages (pageNo pageSize : Value) (type : Option Schema) :
    Asks (Session.terminal q (.fetchPage table pageNo pageSize type))
      (Pages q table pageNo pageSize) := by
  unfold Session.terminal fetchPage
  simp only [bind_assoc]
  -- The check of the numbers and both statements come before anything is asked.
  refine .compile_bind (fun e => .refused) fun numbers j hnumbers => ?_
  obtain ⟨number, size⟩ := numbers
  obtain ⟨hnumber, hsize⟩ := checkPage_ok hnumbers
  refine .compile_bind (fun e => .refused) fun counting j hcounting => ?_
  refine .compile_bind (fun e => .refused) fun reading j hreading => ?_
  have hcounted : q.statement table .count = .ok counting := statement_of_compiled hcounting
  have hread : q.statement table
      (.select { limit := .int size, offset := .int ((number - 1) * size : Nat) }) = .ok reading :=
    statement_of_compiled hreading
  have hbuild : ∀ (records : List Value) (total : Nat),
      Page.build none (.list records) (.int total) (.int number) (.int size) =
        .ok (Page.ofRecords records total number size) := fun records total =>
    Page.build_eq records total (positive?_eq_some_iff.mp hnumber).2
      (positive?_eq_some_iff.mp hsize).2
  refine .execute_bind (.executeCount counting.sql (.list counting.params))
    (fun n => .value (.int n)) rfl rfl (fun e he => .failed hcounted he) fun total => ?_
  split
  · next hnone =>
    have hempty : Page.empty none (.int number) (.int size) =
        .ok (Page.ofRecords [] 0 number size) := hbuild [] 0
    rw [hnone, hempty]
    refine .quiet ?_ fun j' => ?_
    · exact .bind (.bind (.ofExcept _) fun _ => .bind (.log _ _ _) fun _ => .ofExcept _)
        fun _ => .pure _
    · have hpage := Pages.empty hnumber hsize hcounted
      rw [runFrom_bind_pure, outcome_told]
      cases hline : pageLine number table none <;> rwa [hline] at hpage
  · next hrows =>
    simp only [bind_assoc]
    refine .execute_bind (.executeQuery reading.sql (.list reading.params))
      (fun rows => .value (.list (rows.map .dict))) rfl rfl (fun e he => ?_) fun rows => ?_
    · refine .paged hnumber hsize hcounted hread hrows (fun e' he' => he') (fun e' he' => ?_)
        fun n page _ hpage => (nomatch hpage)
      cases he'
      exact he
    · refine .quiet ?_ fun j' => .paged hnumber hsize hcounted hread hrows
        (fun e he => (nomatch he)) ?_ fun n page htotal hpage => ?_
      · exact .bind (.ofExcept _) fun _ => .bind (.ofExcept _) fun _ => .bind (.log _ _ _) fun _ =>
          .bind (.ofExcept _) fun _ => .pure _
      · exact FailsWith.bind (.ofExcept fun e he => Row.decodeFrom_fails he) (fun _ =>
          .bind (.ofExcept fun e he => (pageLine_written _ _ _).isForeign he) fun _ =>
          .bind (.log _ _ _) fun _ => .bind (.ofExcept fun e he => Page.build_fails he)
            fun _ => .pure _) j'
      · -- Building a page of any records passes the total on.
        subst htotal
        cases hdecoded : Row.decodeAll Row.lenient type rows with
        | error e =>
          rw [hdecoded] at hpage
          cases hpage
        | ok records =>
          rw [hdecoded, runFrom_bind_ok (runFrom_ofExcept _ _)] at hpage
          cases hline : pageLine number table (some (records.length, (n : Int))) with
          | error e =>
            rw [hline] at hpage
            cases hpage
          | ok line =>
            rw [hline, hbuild] at hpage
            cases hpage
            rfl

theorem fetchPage_conducts (pageNo pageSize : Value) (type : Option Schema) :
    Asks (Session.terminal q (.fetchPage table pageNo pageSize type))
      (Conducts q (.fetchPage table pageNo pageSize type)) :=
  (fetchPage_pages pageNo pageSize type).mono fun _ _ h => h.conducts

/-- **A terminal operation goes in one of these ways**, whatever the adapter does. -/
theorem terminal_conducts (q : Query) (c : TerminalCall) :
    Asks (Session.terminal q c) (Conducts q c) := by
  cases c with
  | fetchAll table type => exact fetchAll_conducts type
  | fetchOne table type => exact fetchOne_conducts type
  | count table => exact count_conducts
  | fetchPage table pageNo pageSize type => exact fetchPage_conducts pageNo pageSize type
  | delete table allowFullTable => exact delete_conducts allowFullTable

end Query

end FluentQuery
