import FluentQuery.Proofs.Adapter.Answered
import FluentQuery.Proofs.Adapter.Counted
import FluentQuery.Proofs.Row.Decoded
import FluentQuery.Proofs.Row.Folded
import FluentQuery.Proofs.Terminal.Line

/-!
# Records that are read

A terminal operation that reads rows sends a statement, makes dictionaries of the rows that the
driver answers with, and decodes them. What it gives depends on the answer alone.

* **`Answer.records`** — the rows of an answer as dictionaries;
* **`Adapter.Delivers`**, **`Query.Fetches`** — a statement is executed and answered;
* **`Query.fetchAll_result`**, **`Query.fetchOne_result`** — what is given then, where the table can be
  named;
* **`Query.fetchAll_decodes`** — the records are the rows one by one, or the first row that does not
  fit is told of.
-/

namespace FluentQuery

/-- The rows of an answer as dictionaries. Without columns no rows are fetched. -/
def Answer.records (answer : Answer) : List Row :=
  if (answer.columns.getD []).isEmpty then []
  else answer.rows.map (Adapter.rowOf (answer.columns.getD []))

theorem Answer.records_of_columns {answer : Answer} {columns : List String}
    (h : answer.columns = some columns) (hne : columns ≠ []) :
    answer.records = answer.rows.map (Adapter.rowOf columns) := by
  unfold records
  rw [h, Option.getD_some, if_neg (by simpa using hne)]

namespace Adapter

variable {a : Adapter} {st : Statement} {answer : Answer}

/-- A connected adapter executes a statement, and the driver answers it. -/
structure Delivers (a : Adapter) (st : Statement) (answer : Answer) : Prop where
  connected : a.connected = true
  answered : ∃ n, a.connection = some n ∧ a.answered n st.sql st.params = answer
  executed : ∃ x, ((execute st.sql (.list st.params)).runFrom ⟨a, []⟩).1 = .ok x

/-- The rows that are read are those of the answer, whatever was logged before. -/
theorem Delivers.executeQuery (h : a.Delivers st answer) (records : List LogRecord) :
    ((executeQuery st.sql (.list st.params)).runFrom ⟨a, records⟩).1 = .ok answer.records := by
  obtain ⟨n, hconnection, hanswer⟩ := h.answered
  obtain ⟨x, hx⟩ := h.executed
  have hvalues := boundValues_list st.params
  obtain ⟨more, hquiet⟩ := execute_course h.connected hconnection hvalues []
  obtain ⟨more', hcourse⟩ := execute_course h.connected hconnection hvalues records
  have hrun : ((execute st.sql (.list st.params)).runFrom ⟨a, records⟩).1 = .ok x := by
    rw [hcourse, ← hx, hquiet]
  obtain ⟨hrows, j, hj, -⟩ := execute_answered h.connected hconnection hvalues hrun
  unfold Adapter.executeQuery
  rw [Action.runFrom_bind_ok hj, Action.runFrom_pure, hrows, hanswer]
  rfl

end Adapter

namespace Query

variable {q : Query} {table : Value} {o : Overrides} {j : Journaled Context} {answer : Answer}
  {fit : Row.Fit}

/-- In a context the statement of a query is compiled and executed, and the driver answers it. -/
def Fetches (q : Query) (table : Value) (o : Overrides) (j : Journaled Context)
    (answer : Answer) : Prop :=
  ∃ st, ((Compile.select q.dialect q.clauses table o).runFrom
      ⟨j.state.configuration, j.journal⟩).1 = .ok st ∧ j.state.adapter.Delivers st answer

/-- What is done with the rows of a statement is done with those of the answer. -/
theorem Fetches.runFrom {α : Type} (h : q.Fetches table o j answer)
    (f : List Row → Action Context α) : ∃ j',
    (do
      let statement ← Context.compile (Compile.select q.dialect q.clauses table o)
      let rows ← Context.execute (Adapter.executeQuery statement.sql (.list statement.params))
      f rows).runFrom j = (f answer.records).runFrom j' := by
  obtain ⟨st, hcompiled, hdelivers⟩ := h
  generalize hcompiles : (Compile.select q.dialect q.clauses table o).runFrom
    ⟨j.state.configuration, j.journal⟩ = compiled at hcompiled
  obtain ⟨r, j₁⟩ := compiled
  obtain rfl : r = .ok st := hcompiled
  have hcompile : (Context.compile (Compile.select q.dialect q.clauses table o)).runFrom j =
      (.ok st, ⟨{ j.state with configuration := j₁.state }, j₁.journal⟩) := by
    unfold Context.compile
    rw [Action.runFrom_zoom, hcompiles]
  have hrows := hdelivers.executeQuery j₁.journal
  generalize hexecutes : (Adapter.executeQuery st.sql (.list st.params)).runFrom
    ⟨j.state.adapter, j₁.journal⟩ = executed at hrows
  obtain ⟨r, j₂⟩ := executed
  obtain rfl : r = .ok answer.records := hrows
  have hexecute : (Context.execute (Adapter.executeQuery st.sql (.list st.params))).runFrom
      ⟨{ j.state with configuration := j₁.state }, j₁.journal⟩ =
        (.ok answer.records,
          ⟨{ j.state with configuration := j₁.state, adapter := j₂.state }, j₂.journal⟩) := by
    unfold Context.execute
    rw [Action.runFrom_zoom, hexecutes]
  exact ⟨_, by rw [Action.runFrom_bind_ok hcompile, Action.runFrom_bind_ok hexecute]⟩

/-- Behind the line about them all rows are decoded. -/
theorem fetchAll_told (h : q.Fetches table {} j answer) (type : Option Schema) :
    ((q.fetchAll table type fit).runFrom j).1 =
      rowsLine table answer.records.length >>= fun _ => Row.decodeAll fit type answer.records := by
  obtain ⟨j', hrun⟩ := h.runFrom fun rows => do
    Action.log .query .debug (← Action.ofExcept (rowsLine table rows.length))
    Action.ofExcept (Row.decodeAll fit type rows)
  unfold fetchAll build
  rw [hrun]
  exact Action.outcome_told _ _ _ _ j'

theorem fetchAll_result (h : q.Fetches table {} j answer) (htable : Nameable table)
    (type : Option Schema) :
    ((q.fetchAll table type fit).runFrom j).1 = Row.decodeAll fit type answer.records := by
  obtain ⟨line, hline⟩ := (rowsLine_written table answer.records.length).1 htable
  rw [fetchAll_told h, hline, ok_bind]

/-- Where the table cannot be named, no rows are given. -/
theorem fetchAll_unwritable (h : q.Fetches table {} j answer) (htable : ¬Nameable table)
    (type : Option Schema) :
    ((q.fetchAll table type fit).runFrom j).1 = .error .unwritable := by
  rw [fetchAll_told h, (rowsLine_written table answer.records.length).2 htable]
  rfl

/-- The first row is decoded if there is one; a line tells that there is none. -/
theorem fetchOne_result (h : q.Fetches table { limit := .int 1 } j answer) (type : Option Schema) :
    ((q.fetchOne table type fit).runFrom j).1 =
      match answer.records with
      | [] => (noRowLine table).map fun _ => none
      | row :: _ => (Row.decode fit type 0 row).map some := by
  obtain ⟨j', hrun⟩ := h.runFrom fun rows => match rows with
    | [] => do
      Action.log .query .debug (← Action.ofExcept (noRowLine table))
      return none
    | row :: _ => return some (← Action.ofExcept (Row.decode fit type 0 row))
  refine (congrArg Prod.fst hrun).trans ?_
  cases answer.records with
  | nil => exact Action.outcome_told _ _ (noRowLine table) (.ok none) j'
  | cons row rest =>
    exact congrArg Prod.fst (Action.runFrom_bind_pure (Action.ofExcept (Row.decode fit type 0 row))
      some j')

/-- **Rows are decoded one by one, and the first that does not fit is told of.** A statement is
executed on a connected adapter of any engine, with any driver, and answered; values are made to fit
types in any way that explains what does not.

* The dictionary of a row has the names of the columns where they first come, each with the value
  that comes last under it; no column is lost where the names differ.
* If all dictionaries fit the type, there are as many records, each what its dictionary is decoded
  as.
* Else the error has the index of the first that does not fit, and why it does not; it is the same
  whatever the rows behind it are.
* All this is behind a line that names the table. One with an integer that is too long to be
  written, which a query over custom SQL does not look at, ends in that. -/
theorem fetchAll_decodes (hfit : Row.Explains fit) (h : q.Fetches table {} j answer)
    (type : Option Schema) :
    (∀ columns, answer.columns = some columns → columns ≠ [] →
      answer.records = answer.rows.map (Adapter.rowOf columns) ∧
        ∀ values ∈ answer.rows, values.length = columns.length →
          Entries.Named columns.eraseDups (Adapter.rowOf columns values) ∧
          (∀ name, Entries.get? (.text name) (Adapter.rowOf columns values) =
            (columns.zip values).reverse.lookup name) ∧
          (columns.Nodup → Adapter.rowOf columns values = Row.named (columns.zip values))) ∧
    (Nameable table → (∀ row ∈ answer.records, Row.Fits fit type row) →
      ∃ vs, ((q.fetchAll table type fit).runFrom j).1 = .ok vs ∧
        List.Forall₂ (Row.Decodes fit type) answer.records vs) ∧
    (Nameable table → (¬∀ row ∈ answer.records, Row.Fits fit type row) →
      ∃ taken row later schema reason, answer.records = taken ++ row :: later ∧
        (∀ r ∈ taken, Row.Fits fit type r) ∧ ¬Row.Fits fit type row ∧
        type = some schema ∧ Row.Misfits fit schema row reason ∧
        (∀ index, Row.decode fit type index row =
          .error (.decoding ⟨schema.name, index, reason⟩)) ∧
        ((q.fetchAll table type fit).runFrom j).1 =
          .error (.decoding ⟨schema.name, taken.length, reason⟩) ∧
        ∀ (q' : Query) (table' : Value) (j' : Journaled Context) (answer' : Answer)
          (others : List Row), q'.Fetches table' {} j' answer' → Nameable table' →
            answer'.records = taken ++ row :: others →
              ((q'.fetchAll table' type fit).runFrom j').1 =
                ((q.fetchAll table type fit).runFrom j).1) ∧
    (¬Nameable table → ((q.fetchAll table type fit).runFrom j).1 = .error .unwritable) := by
  refine ⟨fun columns hcolumns hne => ⟨Answer.records_of_columns hcolumns hne,
    fun values _ hlength => ?_⟩, fun htable hall => ?_, fun htable hsome => ?_,
    fun htable => fetchAll_unwritable h htable type⟩
  · have hfolds := Adapter.rowOf_folds columns values
    have hnames := hfolds.names
    rw [List.map_fst_zip (Nat.le_of_eq hlength.symm)] at hnames
    exact ⟨hnames, hfolds.value, Adapter.rowOf_of_nodup hlength⟩
  · obtain ⟨vs, hvs⟩ := Row.exists_decodes hall
    rw [fetchAll_result h htable]
    exact ⟨vs, Row.decodeAll_eq_ok_iff.mpr hvs, hvs⟩
  · obtain ⟨taken, row, later, hrecords, htaken, hrow⟩ := Row.exists_first_misfit hsome
    obtain ⟨schema, reason, rfl, hreason, herror⟩ := Row.exists_misfits hfit hrow
    -- The rows that fit and the one that does not are all that matters.
    have hdecoded : ∀ others, Row.decodeAll fit (some schema) (taken ++ row :: others) =
        .error (.decoding ⟨schema.name, taken.length, reason⟩) := fun others => by
      refine Row.decodeFrom_of_misfit htaken ?_
      rw [Nat.zero_add]
      exact herror taken.length
    have hresult : ((q.fetchAll table (some schema) fit).runFrom j).1 = _ :=
      fetchAll_result h htable (some schema)
    rw [hrecords, hdecoded] at hresult
    refine ⟨taken, row, later, schema, reason, hrecords, htaken, hrow, rfl, hreason, herror,
      hresult, fun q' table' j' answer' others h' htable' hrecords' => ?_⟩
    rw [fetchAll_result h' htable', hrecords', hdecoded, hresult]

/-- A context with an adapter on an open connection whose driver gives one answer. -/
def answered (engine : Engine) (answer : Answer) : Journaled Context :=
  ⟨{ configuration := { kept := some {} }
     adapter := Adapter.scripted engine { results := [{ answer }] } }, []⟩

theorem answered_undisturbed (engine : Engine) (answer : Answer) :
    (answered engine answer).state.adapter.Undisturbed := by
  intro made
  generalize (answered engine answer).state.adapter.calls ++ made = calls
  have hresult : ({ results := [{ answer }] } : Script).lastResult calls = { answer } ∨
      ({ results := [{ answer }] } : Script).lastResult calls = {} := by
    unfold Script.lastResult
    cases Script.statementCount calls - 1 with
    | zero => exact .inl rfl
    | succ n => exact .inr rfl
  show ({ results := [{ answer }] } : Script).driver.fault calls = none
  unfold Script.driver
  dsimp only
  split <;> first | rfl | (rcases hresult with h | h <;> rw [h])

/-- The rows of a table are fetched as that answer, with any bounds. -/
theorem answered_fetches (engine : Engine) (answer : Answer) (limit : Value)
    (hlimit : limit = .null ∨ limit = .int 1) :
    ({} : Query).Fetches (.text "t") { limit } (answered engine answer) answer := by
  have hdelivers : ∀ sql, (answered engine answer).state.adapter.Delivers ⟨sql, []⟩ answer :=
    fun sql => ⟨rfl, ⟨0, rfl, by cases engine <;> rfl⟩, _, congrArg Prod.fst
      (Adapter.execute_undisturbed (answered_undisturbed engine answer) rfl rfl sql [] [])⟩
  rcases hlimit with rfl | rfl
  · exact ⟨_, rfl, hdelivers "SELECT * FROM t"⟩
  · exact ⟨_, rfl, hdelivers "SELECT * FROM t LIMIT 1"⟩

theorem fetchAll_decodes_numbers :
    ((({} : Query).fetchAll (.text "t") (some .int) Row.lenient).runFrom (answered .duckdb
        { columns := some ["n"], rows := [[.int 7], [.text "8"]] })).1 = .ok [.int 7, .int 8] ∧
      ∃ row reason, Row.Misfits Row.lenient .int row reason ∧
        ((({} : Query).fetchAll (.text "t") (some .int) Row.lenient).runFrom (answered .sqlite
          { columns := some ["n"], rows := [[.int 7], [.text "x"], [.null]] })).1 =
            .error (.decoding ⟨"int", 1, reason⟩) := by
  constructor
  · have hfetches := answered_fetches .duckdb
      { columns := some ["n"], rows := [[.int 7], [.text "8"]] } .null (.inl rfl)
    have hrecords : Answer.records { columns := some ["n"], rows := [[.int 7], [.text "8"]] } =
        [[(.text "n", .int 7)], [(.text "n", .text "8")]] := rfl
    obtain ⟨-, hall, -⟩ := fetchAll_decodes Row.lenient_explains hfetches (some .int)
    rw [hrecords] at hall
    obtain ⟨vs, hvs, hdecoded⟩ := hall (nameable_text "t") fun row hrow => by
      rcases List.mem_pair.mp hrow with rfl | rfl
      · exact ⟨.int 7, fun _ => rfl⟩
      · exact ⟨.int 8, fun _ => rfl⟩
    exact hvs.trans (Row.decodeAll_eq_ok_iff.mpr hdecoded).symm
  · have hfetches := answered_fetches .sqlite
      { columns := some ["n"], rows := [[.int 7], [.text "x"], [.null]] } .null (.inl rfl)
    obtain ⟨-, -, hsome, -⟩ := fetchAll_decodes Row.lenient_explains hfetches (some .int)
    obtain ⟨taken, row, later, schema, reason, -, -, -, htype, hreason, -, hresult, -⟩ :=
      hsome (nameable_text "t") fun hall => by
        obtain ⟨v, hv⟩ := hall [(.text "n", .text "x")] (List.mem_cons_of_mem _ List.mem_cons_self)
        cases hv 0
    cases htype
    refine ⟨row, reason, hreason, ?_⟩
    have hgiven : Except.error (Failure.decoding ⟨"int", 1, _⟩) = _ :=
      (fetchAll_result hfetches (nameable_text "t") (some .int)).symm.trans hresult
    have hindex := congrArg DecodingError.rowIndex (Failure.decoding.inj (Except.error.inj hgiven))
    rw [hresult, ← show (1 : Int) = taken.length from hindex]
    rfl

end Query

end FluentQuery
