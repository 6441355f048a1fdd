import FluentQuery.Proofs.Adapter.Counterparts

/-!
# Terminal operations on different engines

The same query gives the same answer whatever the engine: on connected adapters whose drivers
answer the same statements the same, every operation that reads gives the same result, or fails in
the same way but for the name of the engine. It hands the same statements with the same values over
on either side, read back from the placeholders that the driver takes.

* **`Query.SameOn`** — an operation comes to the same on two adapters;
* **`Query.same_on_every_engine`** — all operations that read do.
-/

namespace FluentQuery.Query

open FluentQuery.Action

variable {α : Type} {a b : Adapter}

/-- On two adapters an operation gives the same result, or the same failure but for the name of the
engine; it leaves the same configuration, writes the same records and asks the same of the
drivers. -/
def SameOn (a b : Adapter) (act : Action Context α) : Prop :=
  ∀ configuration records, ∃ r r' left made made' more,
    act.runFrom ⟨⟨configuration, a⟩, records⟩ = (r, ⟨⟨left, a.after made⟩, more⟩) ∧
      act.runFrom ⟨⟨configuration, b⟩, records⟩ = (r', ⟨⟨left, b.after made'⟩, more⟩) ∧
      r.mapError Failure.withoutEngine = r'.mapError Failure.withoutEngine ∧
      a.engine.asked made = b.engine.asked made'

theorem SameOn.of_agree {act : Action Context α}
    (h : AgreeUpTo Failure.withoutEngine (Context.Beside (Adapter.Abreast a b)) Eq act act) :
    SameOn a b act := by
  intro configuration records
  obtain ⟨houtcome, ⟨hleft, made, made', hmade, ha, hb⟩, hjournal⟩ :=
    h ⟨configuration, a⟩ ⟨configuration, b⟩ records ⟨rfl, .start⟩
  rw [runFrom_adapt] at houtcome hleft ha hjournal
  rw [runFrom_adapt] at houtcome hleft hb hjournal
  generalize act.runFrom ⟨⟨configuration, a⟩, records⟩ = run at *
  generalize act.runFrom ⟨⟨configuration, b⟩, records⟩ = run' at *
  obtain ⟨r, ⟨left, x⟩, more⟩ := run
  obtain ⟨r', ⟨left', y⟩, more'⟩ := run'
  cases hleft
  cases hjournal
  cases ha
  cases hb
  exact ⟨r, r', left, made, made', more, rfl, rfl, houtcome.eq, hmade⟩

/-- **A query gives the same answer on every engine.** On connected adapters that are answered the
same, with no call that fails, the rows of a query, its first row, its count and each of its pages
come out the same, or fail in the same way but for the name of the engine; and the drivers are asked
for the same statements with the same values. -/
theorem same_on_every_engine (h : Adapter.Counterparts a b) (q : Query) (table : Value)
    (type : Option Schema) (fit : Row.Fit) :
    SameOn a b (q.fetchAll table type fit) ∧ SameOn a b (q.fetchOne table type fit) ∧
      SameOn a b (q.count table) ∧
      ∀ pageNo pageSize, SameOn a b (q.fetchPage table pageNo pageSize type fit) := by
  have hreads := h.reads q.clauses.params
  exact ⟨.of_agree (fetchAll_agree hreads rfl table type fit),
    .of_agree (fetchOne_agree hreads rfl table type fit), .of_agree (count_agree hreads rfl table),
    fun pageNo pageSize => .of_agree (fetchPage_agree hreads rfl table pageNo pageSize type fit)⟩

/-- A script for a page: three rows are counted, and two of them are on the page. -/
def pageScript : Script where
  results := [{ answer := { columns := some ["count"], rows := [[.int 3]] } },
    { answer := { columns := some ["id", "name"], rows := [[.int 1, .text "ann"],
      [.int 2, .text "bob"]] } }]

/-- A query with a condition. -/
def adults : Query where
  clauses := { conditions := [⟨"age", .gt, .int 17⟩] }

theorem same_on_every_engine_paged :
    Adapter.Counterparts (.scripted .duckdb pageScript) (.scripted .postgres pageScript) ∧
      ∃ r r' left made made' more,
        (adults.fetchPage (.text "t") (.int 1) (.int 2) none).runFrom
            ⟨⟨{}, .scripted .duckdb pageScript⟩, []⟩ =
          (r, ⟨⟨left, (Adapter.scripted .duckdb pageScript).after made⟩, more⟩) ∧
        (adults.fetchPage (.text "t") (.int 1) (.int 2) none).runFrom
            ⟨⟨{}, .scripted .postgres pageScript⟩, []⟩ =
          (r', ⟨⟨left, (Adapter.scripted .postgres pageScript).after made'⟩, more⟩) ∧
        r.mapError Failure.withoutEngine = r'.mapError Failure.withoutEngine ∧
        Engine.duckdb.asked made = Engine.postgres.asked made' ∧
        made' = [.cursor 0, .execute 0 "SELECT COUNT(*) FROM t WHERE age > %s" (some [.int 17]),
          .fetchAll 0, .commit 0, .closeCursor 0, .cursor 0,
          .execute 0 "SELECT * FROM t WHERE age > %s LIMIT 2 OFFSET 0" (some [.int 17]),
          .fetchAll 0, .commit 0, .closeCursor 0] := by
  have hnever : pageScript.NeverFails := by
    refine ⟨fun r hr => ?_, rfl, rfl, rfl, rfl, rfl, rfl⟩
    simp only [pageScript, List.mem_cons, List.not_mem_nil, or_false] at hr
    rcases hr with rfl | rfl <;> exact ⟨rfl, rfl⟩
  have hcounterparts := Adapter.counterparts_of_script hnever
    (Adapter.scripted_follows .duckdb pageScript) (Adapter.scripted_follows .postgres pageScript)
    rfl
  obtain ⟨r, r', left, made, made', more, hrun, hrun', hsame, hasked⟩ :=
    (same_on_every_engine hcounterparts adults (.text "t") none Row.lenient).2.2.2 (.int 1)
      (.int 2) {} []
  have hcalls := congrArg (fun run => run.2.state.adapter.calls) hrun'
  exact ⟨hcounterparts, r, r', left, made, made', more, hrun, hrun', hsame, hasked, hcalls.symm⟩

end FluentQuery.Query
