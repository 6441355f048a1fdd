import Mathlib.Data.List.Perm.Subperm
import FluentQuery.Proofs.Adapter.Course
import FluentQuery.Proofs.Reading.Lexeme
import FluentQuery.Proofs.Terminal.Conduct

/-!
# The total of a page

A page tells how many rows there are in all, and draws from that how many pages there are and
whether another follows. The number comes from a statement that counts source rows: it has all that
stands behind FROM in the statement that is paged, and not its columns. So the two numbers are the
same if there is one row for each source row, and they differ where DISTINCT among the columns
drops a row.

* **`Database`** — the source rows of what stands behind FROM, and what columns take from them;
* **`Database.Yields`** — the rows of a statement without bounds;
* **`Query.page_total_iff`** — what is counted for a page is the number of rows that are paged
  exactly if DISTINCT drops none.
-/

namespace FluentQuery

/-- Whether columns start with the word that drops duplicates. -/
def dropsDuplicates (projection : String) : Bool :=
  Reading.spells "DISTINCT"
    ((projection.toList.dropWhile Text.isBlankChar).takeWhile fun c => Reading.role c = .word)

/-- What a database makes of the parts of a statement: of the text behind FROM with its values bound
a list of source rows, and of columns what they take from a source row. -/
structure Database (ρ κ : Type) where
  source : String → List Value → List ρ
  take : String → ρ → κ

namespace Database

variable {ρ κ : Type} {db : Database ρ κ} {projection : String} {sources : List ρ} {rows : List κ}

/-- The rows that columns yield of source rows, in any order: behind DISTINCT each row once, and
else one row for each source row. -/
def Yields (db : Database ρ κ) (projection : String) (sources : List ρ) (rows : List κ) : Prop :=
  if dropsDuplicates projection then
    rows.Nodup ∧ ∀ row, row ∈ rows ↔ row ∈ sources.map (db.take projection)
  else rows.Perm (sources.map (db.take projection))

/-- There are as many rows as source rows exactly if DISTINCT drops none. -/
theorem length_eq_iff (h : db.Yields projection sources rows) :
    sources.length = rows.length ↔
      (dropsDuplicates projection = true → (sources.map (db.take projection)).Nodup) := by
  have hlength : (sources.map (db.take projection)).length = sources.length := List.length_map ..
  unfold Yields at h
  split at h
  · next hdrops =>
    obtain ⟨hnodup, hmem⟩ := h
    constructor
    · intro hsame _
      -- A list without duplicates that is no shorter holds all that the other holds.
      have hsub : rows.Subperm (sources.map (db.take projection)) :=
        List.subperm_of_subset hnodup fun row hrow => (hmem row).mp hrow
      exact (hsub.perm_of_length_le (by omega)).nodup_iff.mp hnodup
    · intro hdistinct
      rw [← hlength]
      exact ((List.perm_ext_iff_of_nodup hnodup (hdistinct hdrops)).mpr hmem).length_eq.symm
  · next hkeeps =>
    exact ⟨fun _ hdrops => absurd hdrops hkeeps, fun _ => by rw [← hlength, h.length_eq]⟩

end Database

namespace Clauses

variable {s : Clauses} {inspector : Inspector} {table : Value} {st : Statement}

/-- All that follows FROM in a statement over a table, up to sort keys and bounds. -/
def rowsPart (s : Clauses) (text : String) : String :=
  text ++ led " " s.joinParts ++ led " " (s.filterParts false)

/-- The statement that reads the rows of a table, without bounds. -/
def unbounded (s : Clauses) (text : String) : String :=
  "SELECT " ++ s.projection ++ " FROM " ++ s.rowsPart text ++ led " " s.orderParts

theorem countBy_eq_ok (hcustom : s.isCustom = false) (h : s.countBy inspector table = .ok st) :
    ∃ text, tableText table = .ok text ∧
      st = ⟨"SELECT COUNT(*) FROM " ++ s.rowsPart text, s.params⟩ := by
  unfold countBy countFrom at h
  rw [hcustom] at h
  cases htable : tableText table with
  | error e => rw [htable] at h; cases h
  | ok text =>
    rw [htable] at h
    obtain rfl := Except.ok.inj h
    refine ⟨text, rfl, ?_⟩
    simp [joinWith_cons, led_append, rowsPart, String.append_assoc]

theorem selectBy_bounded_eq_ok {text : String} {limit offset : Int} (hcustom : s.isCustom = false)
    (htable : tableText table = .ok text)
    (h : s.selectBy inspector table { limit := .int limit, offset := .int offset } = .ok st) :
    st = ⟨s.unbounded text ++ " LIMIT " ++ intText limit ++ " OFFSET " ++ intText offset,
      s.params⟩ := by
  unfold selectBy selectFrom at h
  rw [hcustom, htable] at h
  obtain ⟨_, _, hbound, hbound', rfl⟩ := selectOver_eq_ok h
  obtain rfl := hbound.of_int
  obtain rfl := hbound'.of_int
  have hlimit : ∀ t, " " ++ ("LIMIT " ++ t) = " LIMIT " ++ t := fun t => by
    rw [← String.append_assoc]
    rfl
  have hoffset : ∀ t, " " ++ ("OFFSET " ++ t) = " OFFSET " ++ t := fun t => by
    rw [← String.append_assoc]
    rfl
  simp [body, tail, boundTexts, led, unbounded, rowsPart, Head.ofTable, String.append_assoc,
    hlimit, hoffset]

end Clauses

namespace Query

variable {q : Query} {table : Value}

/-- The source rows are counted first, and what is counted is the total; then the statement that is
paged reads rows, with bounds behind it. -/
theorem Pages.counts_first {pageNo pageSize : Value} {xs : List Exchange} {r : Except Failure Reply}
    (hcustom : q.clauses.isCustom = false) (h : Pages q table pageNo pageSize xs r) :
    xs = [] ∧ (∃ e, r = .error e) ∨
      ∃ text counted rest, tableText table = .ok text ∧
        xs = ⟨.executeCount ("SELECT COUNT(*) FROM " ++ q.clauses.rowsPart text)
          (.list q.clauses.params), counted⟩ :: rest ∧
        (∀ x ∈ rest, ∃ size first : Nat, x.op = .executeQuery (q.clauses.unbounded text ++
          " LIMIT " ++ intText size ++ " OFFSET " ++ intText first) (.list q.clauses.params)) ∧
        ∀ (n : Nat) page, counted = .ok (.value (.int n)) → r = .ok (.page page) →
          page.total = n := by
  cases h with
  | refused => exact .inl ⟨rfl, _, rfl⟩
  | failed hcounted _ =>
    obtain ⟨text, htable, rfl⟩ := Clauses.countBy_eq_ok hcustom hcounted
    exact .inr ⟨text, _, [], htable, rfl, fun x hx => (nomatch hx),
      fun n page hcount => nomatch hcount⟩
  | empty hnumber hsize hcounted =>
    obtain ⟨text, htable, rfl⟩ := Clauses.countBy_eq_ok hcustom hcounted
    refine .inr ⟨text, _, [], htable, rfl, fun x hx => (nomatch hx), fun n page hcount hpage => ?_⟩
    obtain ⟨line, -, hempty⟩ := ok_of_map hpage
    cases hempty
    injection hcount with hcount
    injection hcount with hcount
    injection hcount
  | paged hnumber hsize hcounted hread _ _ _ htotal =>
    obtain ⟨text, htable, rfl⟩ := Clauses.countBy_eq_ok hcustom hcounted
    obtain rfl := Clauses.selectBy_bounded_eq_ok hcustom htable hread
    refine .inr ⟨text, _, _, htable, rfl, fun x hx => ?_, fun n page hcount => ?_⟩
    · rw [List.mem_singleton.mp hx]
      exact ⟨_, _, rfl⟩
    · injection hcount with hcount
      injection hcount with hcount
      injection hcount with hcount
      exact htotal n page hcount

/-- **The total of a page counts source rows.** For a query without custom SQL a page has the number
of source rows counted, before any row is read: the two statements have the same text behind FROM
and bind the same values, and the one that reads has only bounds behind the statement that is paged.
So whatever the database, the number that is counted, and the total of the page, is the number of
rows of the statement that is paged exactly if DISTINCT drops no row. -/
theorem page_total_iff (q : Query) (hcustom : q.clauses.isCustom = false)
    (table pageNo pageSize : Value) (type : Option Schema) (j : Journaled Context) :
    ∃ xs, Exchanges j.state.adapter xs
        ((Session.terminal q (.fetchPage table pageNo pageSize type)).runFrom j).2.state.adapter ∧
      (xs = [] ∧ (∃ e, ((Session.terminal q (.fetchPage table pageNo pageSize type)).runFrom j).1 =
          .error e) ∨
        ∃ text counted rest, tableText table = .ok text ∧
        xs = ⟨.executeCount ("SELECT COUNT(*) FROM " ++ q.clauses.rowsPart text)
          (.list q.clauses.params), counted⟩ :: rest ∧
        (∀ x ∈ rest, ∃ size first : Nat, x.op = .executeQuery (q.clauses.unbounded text ++
          " LIMIT " ++ intText size ++ " OFFSET " ++ intText first) (.list q.clauses.params)) ∧
        ∀ (ρ κ : Type) (db : Database ρ κ) (sources : List ρ) (rows : List κ),
          sources = db.source (q.clauses.rowsPart text) q.clauses.params →
          db.Yields q.clauses.projection sources rows →
          (sources.length = rows.length ↔ (dropsDuplicates q.clauses.projection = true →
            (sources.map (db.take q.clauses.projection)).Nodup)) ∧
          ∀ page, counted = .ok (.value (.int sources.length)) →
            ((Session.terminal q (.fetchPage table pageNo pageSize type)).runFrom j).1 =
              .ok (.page page) → page.total = sources.length) := by
  have hasks : Asks (Session.terminal q (.fetchPage table pageNo pageSize type))
      (Pages q table pageNo pageSize) := fetchPage_pages pageNo pageSize type
  obtain ⟨xs, hxs, hpages⟩ := hasks j
  refine ⟨xs, hxs, ?_⟩
  obtain hrefused | ⟨text, counted, rest, htable, hcounting, hreading, htotal⟩ :=
    hpages.counts_first hcustom
  · exact .inl hrefused
  · refine .inr ⟨text, counted, rest, htable, hcounting, hreading, ?_⟩
    intro ρ κ db sources rows _ hrows
    exact ⟨Database.length_eq_iff hrows, htotal sources.length⟩

/-- A query for the distinct values of a column. -/
def distinctColumn : Query where
  clauses := { selected := ["DISTINCT a"] }

/-- A database whose tables have two rows with the same value in every column. -/
def doubled : Database Unit Int where
  source _ _ := [(), ()]
  take _ _ := 1

theorem doubled_yields :
    doubled.Yields distinctColumn.clauses.projection (doubled.source "t" []) [1] := by
  have hdrops : dropsDuplicates distinctColumn.clauses.projection = true := by decide +kernel
  unfold Database.Yields
  rw [if_pos hdrops]
  refine ⟨List.nodup_singleton 1, fun row => ?_⟩
  simp [doubled]

/-- Two source rows are counted where one row is paged. -/
theorem distinct_total_exceeds :
    (∃ counting, ((Compile.count .null distinctColumn.clauses (.text "t")).runFrom ⟨{}, []⟩).1 =
        .ok counting ∧ counting.sql = "SELECT COUNT(*) FROM " ++ "t") ∧
      (∃ reading, ((Compile.select .null distinctColumn.clauses (.text "t")
        { limit := .int 10, offset := .int 0 }).runFrom ⟨{}, []⟩).1 = .ok reading ∧
        reading.sql = "SELECT " ++ distinctColumn.clauses.projection ++ " FROM " ++ "t" ++
          " LIMIT 10 OFFSET 0") ∧
      dropsDuplicates distinctColumn.clauses.projection = true ∧
      doubled.Yields distinctColumn.clauses.projection (doubled.source "t" []) [1] ∧
      (doubled.source "t" []).length ≠ [(1 : Int)].length := by
  have hcounting : ((Compile.count .null distinctColumn.clauses (.text "t")).runFrom
      ⟨{}, []⟩).1.toOption.map Statement.sql = some "SELECT COUNT(*) FROM t" := by
    decide +kernel
  have hreading : ((Compile.select .null distinctColumn.clauses (.text "t")
      { limit := .int 10, offset := .int 0 }).runFrom ⟨{}, []⟩).1.toOption.map Statement.sql =
        some "SELECT DISTINCT a FROM t LIMIT 10 OFFSET 0" := by
    decide +kernel
  exact ⟨Statement.exists_of_sql hcounting, Statement.exists_of_sql hreading, by decide +kernel,
    doubled_yields, by decide⟩

/-- A connected adapter to a server that counts two rows and then sends one. -/
def twoCounted : Adapter :=
  .scripted .sqlite {
    results := [{ answer := { columns := some ["count"], rows := [[.int 2]] } },
      { answer := { columns := some ["a"], rows := [[.int 1]] } }] }

theorem page_total_iff_distinct :
    distinctColumn.clauses.isCustom = false ∧ ∃ xs counted rest,
      Exchanges twoCounted xs ((Session.terminal distinctColumn
        (.fetchPage (.text "t") (.int 1) (.int 10) none)).runFrom
          ⟨⟨{}, twoCounted⟩, []⟩).2.state.adapter ∧
      xs = ⟨.executeCount "SELECT COUNT(*) FROM t" (.list []), counted⟩ :: rest ∧
      ((doubled.source "t" []).length = [(1 : Int)].length ↔
        (dropsDuplicates distinctColumn.clauses.projection = true →
          ((doubled.source "t" []).map
            (doubled.take distinctColumn.clauses.projection)).Nodup)) := by
  obtain ⟨xs, hxs, ⟨-, e, he⟩ | ⟨text, counted, rest, htable, hcounting, -, hrows⟩⟩ :=
    page_total_iff distinctColumn rfl (.text "t") (.int 1) (.int 10) none ⟨⟨{}, twoCounted⟩, []⟩
  · have hpage : ((Session.terminal distinctColumn (.fetchPage (.text "t") (.int 1) (.int 10)
        none)).runFrom ⟨⟨{}, twoCounted⟩, []⟩).1.toOption.isSome = true := by
      decide +kernel
    rw [he] at hpage
    cases hpage
  · obtain rfl : "t" = text := Except.ok.inj htable
    exact ⟨rfl, xs, counted, rest, hxs, hcounting,
      (hrows Unit Int doubled (doubled.source "t" []) [1] rfl doubled_yields).1⟩

end Query

end FluentQuery
