import FluentQuery.Proofs.Adapter.Answered
import FluentQuery.Proofs.Paging.Built
import FluentQuery.Proofs.Row.Decoded
import FluentQuery.Proofs.Statement.Compiled
import FluentQuery.Proofs.Terminal.Line

/-!
# Pages that are fetched

Behind an adapter stands a list of rows: the statement that counts is answered with its length, and
the statement that reads with a limit and an offset is answered with that slice of it. Then a page
can be fetched unless something about it cannot be written, and it has the slice of the decoded rows
that its number stands for.

* **`Query.Serves`** — what stands behind a query, and that nothing is in the way of reading it;
* **`Query.PageFits`** — all that is written about a page can be;
* **`Query.fetchPage_gives`** — the page with a number, from every such state and back into one.
-/

namespace FluentQuery

namespace Clauses

variable {s : Clauses} {inspector : Inspector} {table : Value}

/-- A query whose rows can be counted has a head to read them with. -/
theorem exists_head_of_countBy {counting : Statement}
    (h : s.countBy inspector table = .ok counting) :
    ∃ head, ∀ o, s.selectBy inspector table o = s.selectOver head o := by
  unfold countBy at h
  unfold selectBy
  by_cases hcustom : s.isCustom = true
  · rw [if_pos hcustom] at h
    simp only [if_pos hcustom]
    unfold selectBy at h
    rw [if_pos (show s.withoutPaging.isCustom = true from hcustom)] at h
    cases hsql : customText s.customSql with
    | error e =>
      rw [show customText s.withoutPaging.customSql = .error e from hsql] at h
      cases h
    | ok sql => exact ⟨_, fun o => rfl⟩
  · rw [if_neg hcustom] at h
    simp only [if_neg hcustom]
    unfold countFrom at h
    unfold selectFrom
    cases htable : tableText table with
    | error e => rw [htable] at h; cases h
    | ok t => exact ⟨_, fun o => rfl⟩

/-- A query whose rows can be counted can be read with the bounds that can be written. -/
theorem selectBy_written {counting : Statement} (h : s.countBy inspector table = .ok counting)
    (limit offset : Int) :
    WrittenIf (fitsNumeral limit = true ∧ fitsNumeral offset = true)
      (s.selectBy inspector table { limit := .int limit, offset := .int offset }) := by
  obtain ⟨head, hhead⟩ := exists_head_of_countBy h
  rw [hhead]
  exact selectOver_int_written s head limit offset

end Clauses

namespace Context

variable {α : Type} {I : Context → Prop}

theorem compile_gives {act : Action Configuration α} {r : Except Failure α}
    (h : ∀ c records, I c → (act.runFrom ⟨c.configuration, records⟩).1 = r ∧
      I { c with configuration := (act.runFrom ⟨c.configuration, records⟩).2.state }) :
    Action.Gives I (compile act) r := by
  intro j hj
  obtain ⟨hresult, hkept⟩ := h j.state j.journal hj
  unfold compile
  rw [Action.runFrom_zoom, hresult]
  exact ⟨_, rfl, hkept⟩

theorem execute_gives {act : Action Adapter α} {x : α}
    (h : ∀ c, I c → Adapter.Succeeds act c.adapter x)
    (hafter : ∀ c made, I c → I { c with adapter := c.adapter.after made }) :
    Action.Gives I (execute act) (.ok x) := by
  intro j hj
  obtain ⟨made, hrun⟩ := h j.state hj j.journal
  unfold execute
  rw [Action.runFrom_zoom, hrun]
  exact ⟨_, rfl, hafter j.state made hj⟩

end Context

namespace Query

/-- Behind the adapter of a context stand rows that a query reads: the counting statement is
answered with their number, and the reading statement with the slice that its bounds ask for. The
settings can be read and allow pages of the size, the adapter is connected and nothing fails. -/
structure Serves (q : Query) (table : Value) (size : Nat) (settings : Settings)
    (column : String) (columns : List String) (rows : List (List Value)) (c : Context) : Prop where
  settings : c.configuration.settings.1 = .ok settings
  connected : c.adapter.connected = true
  connection : ∃ n, c.adapter.connection = some n
  undisturbed : c.adapter.Undisturbed
  counting : ∀ st, q.clauses.countBy (Compile.inspector q.dialect) table = .ok st →
    c.adapter.Answers st.sql st.params
      { columns := some [column], rows := [[.int rows.length]] }
  reading : ∀ (first : Nat) (st : Statement),
    q.clauses.selectBy (Compile.inspector q.dialect) table
        { limit := .int size, offset := .int first } = .ok st →
      c.adapter.Answers st.sql st.params
        { columns := some columns, rows := (rows.drop first).take size }

variable {q : Query} {table : Value} {size : Nat} {settings : Settings} {column : String}
  {columns : List String} {rows : List (List Value)}

theorem Serves.reconfigured {c : Context} (h : Serves q table size settings column columns rows c)
    {configuration : Configuration}
    (hkept : configuration.settings.1 = c.configuration.settings.1) :
    Serves q table size settings column columns rows { c with configuration } :=
  { h with settings := hkept.trans h.settings }

theorem Serves.after {c : Context} (h : Serves q table size settings column columns rows c)
    (made : List DriverCall) :
    Serves q table size settings column columns rows
      { c with adapter := c.adapter.after made } where
  settings := h.settings
  connected := h.connected
  connection := h.connection
  undisturbed := h.undisturbed.after made
  counting st hst := (h.counting st hst).after made
  reading first st hst := (h.reading first st hst).after made

theorem positive?_int {n : Nat} (h : 1 ≤ n) : positive? (.int n) = some n := by
  unfold positive? Value.count?
  simp only
  rw [if_neg (by omega), Int.toNat_natCast, Option.filter_some, if_pos (by simpa using h)]

/-- The numbers of a page pass where the settings allow its size. -/
theorem checkPage_runFrom {number : Nat} {j : Journaled Configuration} (hnumber : 1 ≤ number)
    (hsize : 1 ≤ size) (hsettings : j.state.settings.1 = .ok settings)
    (hmost : ∀ most ∈ settings.maxPageSize, (size : Int) ≤ most) :
    (checkPage (.int number) (.int size)).runFrom j =
      (.ok (number, size), { j with state := j.state.settings.2 }) := by
  unfold checkPage
  rw [positive?_int hnumber, positive?_int hsize]
  have hrun := Action.runFrom_settings j
  rw [hsettings] at hrun
  simp only
  rw [Action.runFrom_bind_ok hrun]
  cases hlimit : settings.maxPageSize with
  | none => rfl
  | some most =>
    simp only
    rw [if_neg (Int.not_lt.mpr (hmost most hlimit))]
    rfl

/-- All that is written about a page can be: its size and its offset in the statement, and in the log
its number, the table and how many rows there are. -/
structure PageFits (table : Value) (size rows number : Nat) : Prop where
  sized : fitsNumeral size = true
  offset : fitsNumeral ((number - 1) * size : Nat) = true
  numbered : fitsNumeral number = true
  nameable : Nameable table
  counted : fitsNumeral rows = true

/-- What fetching a page comes to where some records are all there is to read: the page, if the
statement that reads and the line about the page come about. -/
def pageOutcome (q : Query) (table : Value) (size number : Nat) (records : List Value) :
    Except Failure Page := do
  let slice := (records.drop ((number - 1) * size)).take size
  let _ ← q.clauses.selectBy (Compile.inspector q.dialect) table
    { limit := .int size, offset := .int ((number - 1) * size : Nat) }
  let _ ← pageLine number table
    (if records = [] then none else some (slice.length, (records.length : Int)))
  return Page.ofRecords slice records.length number size

section Outcome

variable {counting : Statement} {number : Nat} {records : List Value}

theorem pageOutcome_written
    (h : q.clauses.countBy (Compile.inspector q.dialect) table = .ok counting) :
    WrittenIf (PageFits table size records.length number)
      (q.pageOutcome table size number records) := by
  refine ((Clauses.selectBy_written h _ _).bind fun _ =>
    (pageLine_written number table _).map _).congr ⟨?_, ?_⟩
  · rintro ⟨⟨hsize, hoffset⟩, hnumber, htable, hrows⟩
    refine ⟨hsize, hoffset, hnumber, htable, ?_⟩
    -- The line about no rows does not show how many there are, but none can be written.
    by_cases hnone : records = []
    · rw [hnone]
      rfl
    · rw [if_neg hnone] at hrows
      exact hrows _ rfl
  · rintro ⟨hsize, hoffset, hnumber, htable, hrows⟩
    refine ⟨⟨hsize, hoffset⟩, hnumber, htable, fun x hx => ?_⟩
    split at hx <;> cases hx
    exact hrows

/-- A page that comes about is the slice of the records that its number stands for. -/
theorem pageOutcome_eq_ok {page : Page} (h : q.pageOutcome table size number records = .ok page) :
    page = Page.ofRecords ((records.drop ((number - 1) * size)).take size) records.length number
      size := by
  obtain ⟨_, -, h⟩ := ok_of_bind h
  obtain ⟨_, -, h⟩ := ok_of_bind h
  exact (Except.ok.inj h).symm

end Outcome

/-- **A page is fetched as the slice that its number stands for**, if all about it can be written. -/
theorem fetchPage_gives {fit : Row.Fit} {type : Option Schema} {decoded : List Value}
    {counting : Statement} (hcompiles : q.clauses.countBy (Compile.inspector q.dialect) table =
      .ok counting) (hsize : 1 ≤ size)
    (hmost : ∀ most ∈ settings.maxPageSize, (size : Int) ≤ most) (hcolumns : columns ≠ [])
    (hdecoded : Row.decodeAll fit type (rows.map (Adapter.rowOf columns)) = .ok decoded)
    {number : Nat} (hnumber : 1 ≤ number) :
    Action.Gives (Serves q table size settings column columns rows)
      (q.fetchPage table (.int number) (.int size) type fit)
      (q.pageOutcome table size number decoded) := by
  have hlength : decoded.length = rows.length := by
    rw [Row.decodeAll_eq_ok_iff] at hdecoded
    rw [← hdecoded.length_eq, List.length_map]
  unfold fetchPage
  -- The numbers are checked and both statements compiled.
  refine Action.Gives.bind_ok (Context.compile_gives fun c records hc => ?_)
    (x := (number, size)) ?_
  · rw [checkPage_runFrom hnumber hsize hc.settings hmost]
    exact ⟨rfl, hc.reconfigured (Configuration.settings_settings _)⟩
  refine Action.Gives.bind_ok (Context.compile_gives fun c records hc => ?_) (x := counting) ?_
  · rw [Compile.count_runFrom, hcompiles]
    exact ⟨Compile.underSettings_of_ok hc.settings _, hc.reconfigured (Compile.count_keeps _ _ _ _)⟩
  refine Action.Gives.bind (Context.compile_gives fun c records hc => ?_) fun reading hreading => ?_
  · obtain ⟨hresult, hkept⟩ := Compile.select_runFrom q.dialect q.clauses table
      { limit := .int size, offset := .int ((number - 1) * size : Nat) } ⟨c.configuration, records⟩
    exact ⟨hresult.trans (Compile.underSettings_of_ok hc.settings _), hc.reconfigured hkept⟩
  -- The rows are counted, and read if there are any.
  refine Action.Gives.bind_ok (Context.execute_gives (fun c hc => ?_) fun c made hc =>
    hc.after made) (x := (rows.length : Int)) ?_
  · obtain ⟨n, hconnection⟩ := hc.connection
    exact Adapter.executeCount_succeeds hc.undisturbed hc.connected hconnection
      (hc.counting counting hcompiles)
  split
  · next hnone =>
    obtain rfl : rows = [] := List.length_eq_zero_iff.mp (Int.ofNat_eq_zero.mp hnone)
    obtain rfl : decoded = [] := List.length_eq_zero_iff.mp hlength
    have hempty : Page.empty none (.int number) (.int size) =
        .ok (Page.ofRecords [] 0 number size) :=
      Page.build_eq [] 0 hnumber hsize
    rw [if_pos rfl, hempty, List.drop_nil, List.take_nil]
    exact Action.Gives.bind (.ofExcept _) fun line _ => .bind_ok (.log _ _ _) (.ofExcept _)
  · next hsome =>
    have hdecoded' : decoded ≠ [] := by
      rintro rfl
      exact hsome (by rw [← hlength]; rfl)
    refine Action.Gives.bind_ok (Context.execute_gives (fun c hc => ?_) fun c made hc =>
      hc.after made)
      (x := ((rows.drop ((number - 1) * size)).take size).map (Adapter.rowOf columns)) ?_
    · obtain ⟨n, hconnection⟩ := hc.connection
      exact Adapter.executeQuery_succeeds hc.undisturbed hc.connected hconnection hcolumns
        (hc.reading _ reading hreading)
    have hslice := Row.decodeAll_slice hdecoded ((number - 1) * size) size
    rw [← List.map_drop, ← List.map_take] at hslice
    rw [hslice, if_neg hdecoded', hlength]
    refine .bind_ok (.ofExcept _)
      (.bind (.ofExcept _) fun line _ => .bind_ok (.log _ _ _) ?_)
    rw [Page.build_eq _ _ hnumber hsize]
    exact .ofExcept _

end Query

end FluentQuery
