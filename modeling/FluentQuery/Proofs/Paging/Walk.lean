import FluentQuery.Proofs.Paging.Fetched

/-!
# Going from page to page

Whoever asks for one page after the other, as long as a page says that another follows, sees every
row once and in order. `pages_cover` proves this of every list of rows behind an adapter and every
size of pages that the settings allow, with the number of pages that are asked for and all that
each page says of itself, where what is written about the pages can be written.

* **`Walk`** — the pages that are fetched from a number on, up to the first that is not followed;
* **`Walk.unique`** — there is only one such walk from a state;
* **`exists_walk`** — by induction on the pages that are left, the walk has the rows that are left.
-/

namespace FluentQuery

/-- From a page number on, pages are fetched one after the other while the latest says that another
follows. -/
inductive Walk {σ : Type} (fetch : Nat → Action σ Page) :
    Nat → Journaled σ → List Page → Journaled σ → Prop
  | last {number j page j'} : (fetch number).runFrom j = (.ok page, j') → page.hasNext = false →
      Walk fetch number j [page] j'
  | next {number j page j' pages j''} : (fetch number).runFrom j = (.ok page, j') →
      page.hasNext = true → Walk fetch (number + 1) j' pages j'' →
      Walk fetch number j (page :: pages) j''

variable {σ : Type} {fetch : Nat → Action σ Page}

/-- Each fetch has one outcome, so there is one walk. -/
theorem Walk.unique {number : Nat} {j j₁ j₂ : Journaled σ} {pages₁ pages₂ : List Page}
    (h₁ : Walk fetch number j pages₁ j₁) (h₂ : Walk fetch number j pages₂ j₂) :
    pages₁ = pages₂ ∧ j₁ = j₂ := by
  induction h₁ generalizing pages₂ j₂ with
  | last hrun hlast =>
    cases h₂ with
    | last hrun' _ =>
      rw [hrun] at hrun'
      cases hrun'
      exact ⟨rfl, rfl⟩
    | next hrun' hnext _ =>
      rw [hrun] at hrun'
      cases hrun'
      rw [hlast] at hnext
      cases hnext
  | next hrun hnext _ ih =>
    cases h₂ with
    | last hrun' hlast =>
      rw [hrun] at hrun'
      cases hrun'
      rw [hlast] at hnext
      cases hnext
    | next hrun' _ hrest =>
      rw [hrun] at hrun'
      cases hrun'
      obtain ⟨hpages, hend⟩ := ih hrest
      exact ⟨by rw [hpages], hend⟩

/-- The slices of a list from an index on: one, and then those from its end on. -/
theorem take_append_drop_slice {α : Type} (xs : List α) (first size : Nat) :
    (xs.drop first).take size ++ xs.drop (first + size) = xs.drop first := by
  rw [← List.drop_drop, List.take_append_drop]

/-- If the pages up to the last are fetched as slices of some records, the walk from a page on has
the records from there on, and as many pages as are left. -/
theorem exists_walk {I : σ → Prop} {records : List Value} {size : Nat} (hsize : 1 ≤ size)
    (hfetch : ∀ number, 1 ≤ number → number ≤ max 1 (records.length ⌈/⌉ size) →
      Action.Gives I (fetch number) (.ok (Page.ofRecords
        ((records.drop ((number - 1) * size)).take size) records.length number size)))
    (left : Nat) {number : Nat} (hnumber : 1 ≤ number)
    (hleft : max 1 (records.length ⌈/⌉ size) = number + left) {j : Journaled σ} (hj : I j.state) :
    ∃ pages j', Walk fetch number j pages j' ∧ pages.length = left + 1 ∧
      pages.flatMap Page.records = records.drop ((number - 1) * size) := by
  induction left generalizing number j with
  | zero =>
    obtain ⟨j', hrun, -⟩ := hfetch number hnumber (by omega) j hj
    have hlast : ¬number < records.length ⌈/⌉ size := by omega
    refine ⟨_, j', .last hrun (decide_eq_false hlast), rfl, ?_⟩
    rw [List.flatMap_singleton]
    show (records.drop ((number - 1) * size)).take size = _
    -- What is left fits on the page, since the next page would start behind the end.
    apply List.take_of_length_le
    rw [List.length_drop]
    have hend : records.length ≤ number * size :=
      not_lt.mp fun h => hlast ((Page.mul_lt_iff_lt_ceilDiv hsize).mp h)
    have hstep : number * size = (number - 1) * size + size := by
      rw [← Nat.succ_mul, Nat.succ_eq_add_one, Nat.sub_add_cancel hnumber]
    omega
  | succ left ih =>
    obtain ⟨j', hrun, hj'⟩ := hfetch number hnumber (by omega) j hj
    have hnext : number < records.length ⌈/⌉ size := by omega
    obtain ⟨pages, j'', hwalk, hlength, hrecords⟩ :=
      ih (Nat.le_add_left 1 number) (by omega) hj'
    refine ⟨_ :: pages, j'', .next hrun (decide_eq_true hnext) hwalk, by simp [hlength], ?_⟩
    rw [List.flatMap_cons, hrecords]
    show (records.drop ((number - 1) * size)).take size ++ _ = _
    rw [show (number + 1 - 1) * size = (number - 1) * size + size by
      rw [← Nat.succ_mul, Nat.succ_eq_add_one, Nat.sub_add_cancel hnumber, Nat.add_sub_cancel]]
    exact take_append_drop_slice records _ size

namespace Query

/-- Fetches the page with a number. -/
def pageAt (q : Query) (table : Value) (size : Nat) (type : Option Schema) (fit : Row.Fit)
    (number : Nat) : Action Context Page :=
  q.fetchPage table (.int number) (.int size) type fit

/-- All about the pages up to the last can be written if it can be written how many rows there are,
how many go on a page, and of what table. -/
theorem PageFits.of_le {table : Value} {size rows number : Nat} (hsize : 1 ≤ size)
    (hsized : fitsNumeral size = true) (hrows : fitsNumeral rows = true) (htable : Nameable table)
    (hle : number ≤ max 1 (rows ⌈/⌉ size)) : PageFits table size rows number := by
  have hnumeral : ∀ {n : Nat}, n ≤ rows → fitsNumeral n = true :=
    fun h => fitsNumeral_of_le hrows (by simpa using h)
  -- A page behind the first starts at a row that is there, so its offset is below their number.
  obtain hfirst | hbehind : number ≤ 1 ∨ number - 1 < rows ⌈/⌉ size := by omega
  · refine ⟨hsized, ?_, ?_, htable, hrows⟩
    · rw [Nat.sub_eq_zero_of_le hfirst, Nat.zero_mul]
      rfl
    · obtain rfl | rfl : number = 0 ∨ number = 1 := by omega
      · rfl
      · rfl
  · have hoffset : (number - 1) * size < rows := (Page.mul_lt_iff_lt_ceilDiv hsize).mpr hbehind
    have hnumber : number - 1 ≤ (number - 1) * size := Nat.le_mul_of_pos_right _ hsize
    exact ⟨hsized, hnumeral hoffset.le, hnumeral (by omega), htable, hrows⟩

/-- **The pages cover the rows.** Behind an adapter stands a list of rows that can be decoded, and a
query can be compiled and pages of a size are allowed. Rows have at least one column: an answer
without columns counts as one without rows.

* Going from page to page ends after as many pages as the rows fill, and at least one, with all
  records in order. It comes to an end if the size, the table and the number of rows can be written.
* Every page from the first on says how many rows and pages there are and whether it is followed,
  and has its share of the records, if the number and the offset of the page can be written too. A
  page about which something cannot be written fails for that. -/
theorem pages_cover (q : Query) (table : Value) (type : Option Schema) (fit : Row.Fit)
    (size : Nat) (settings : Settings) (column : String) (columns : List String)
    (rows : List (List Value)) (decoded : List Value) (counting : Statement)
    (j : Journaled Context) (hsize : 1 ≤ size)
    (hmost : ∀ most ∈ settings.maxPageSize, (size : Int) ≤ most)
    (hcompiles : q.clauses.countBy (Compile.inspector q.dialect) table = .ok counting)
    (hcolumns : columns ≠ [])
    (hdecoded : Row.decodeAll fit type (rows.map (Adapter.rowOf columns)) = .ok decoded)
    (hserves : q.Serves table size settings column columns rows j.state) :
    (fitsNumeral size = true → fitsNumeral rows.length = true → Nameable table →
      ∃ pages j', Walk (q.pageAt table size type fit) 1 j pages j') ∧
    (∀ pages j', Walk (q.pageAt table size type fit) 1 j pages j' →
      pages.length = max 1 (rows.length ⌈/⌉ size) ∧ pages.flatMap Page.records = decoded) ∧
    ∀ number : Nat, 1 ≤ number →
      (PageFits table size rows.length number → ∃ page j',
        (q.pageAt table size type fit number).runFrom j = (.ok page, j') ∧
        page.total = rows.length ∧ page.pages = (rows.length ⌈/⌉ size : Nat) ∧
        (page.hasNext = true ↔ number < rows.length ⌈/⌉ size) ∧
        page.records.length = min size (rows.length - (number - 1) * size)) ∧
      (¬PageFits table size rows.length number →
        ((q.pageAt table size type fit number).runFrom j).1 = .error .unwritable) := by
  have hlength : decoded.length = rows.length := by
    rw [Row.decodeAll_eq_ok_iff] at hdecoded
    rw [← hdecoded.length_eq, List.length_map]
  have hwritten : ∀ number, WrittenIf (PageFits table size rows.length number)
      (q.pageOutcome table size number decoded) :=
    fun number => hlength ▸ pageOutcome_written hcompiles
  have houtcome : ∀ number : Nat, 1 ≤ number → Action.Gives
      (q.Serves table size settings column columns rows) (q.pageAt table size type fit number)
      (q.pageOutcome table size number decoded) :=
    fun number hnumber => fetchPage_gives hcompiles hsize hmost hcolumns hdecoded hnumber
  have hfetch : ∀ number : Nat, 1 ≤ number → PageFits table size rows.length number →
      Action.Gives (q.Serves table size settings column columns rows)
        (q.pageAt table size type fit number)
        (.ok (Page.ofRecords ((decoded.drop ((number - 1) * size)).take size) decoded.length number
          size)) := by
    intro number hnumber hfits
    obtain ⟨page, hpage⟩ := (hwritten number).1 hfits
    rw [← pageOutcome_eq_ok hpage, ← hpage]
    exact houtcome number hnumber
  have hwalk : fitsNumeral size = true → fitsNumeral rows.length = true → Nameable table →
      ∃ pages j', Walk (q.pageAt table size type fit) 1 j pages j' ∧
        pages.length = max 1 (rows.length ⌈/⌉ size) ∧ pages.flatMap Page.records = decoded := by
    intro hsized hrows htable
    obtain ⟨pages, j', hwalk, hpages, hrecords⟩ := exists_walk hsize
      (fun number hnumber hle => hfetch number hnumber
        (.of_le hsize hsized hrows htable (by rwa [hlength] at hle)))
      (max 1 (decoded.length ⌈/⌉ size) - 1) (le_refl 1) (by omega) hserves
    refine ⟨pages, j', hwalk, ?_, by simpa using hrecords⟩
    rw [hpages, hlength]
    omega
  refine ⟨fun hsized hrows htable => ?_, fun pages j' hpages => ?_, fun number hnumber =>
    ⟨fun hfits => ?_, fun hnot => ?_⟩⟩
  · obtain ⟨pages, j', hpages, -⟩ := hwalk hsized hrows htable
    exact ⟨pages, j', hpages⟩
  · -- A walk has a first page, so all about it can be written.
    obtain ⟨page, j₁, hfirst⟩ : ∃ page j₁,
        (q.pageAt table size type fit 1).runFrom j = (.ok page, j₁) := by
      cases hpages with
      | last hrun _ => exact ⟨_, _, hrun⟩
      | next hrun _ _ => exact ⟨_, _, hrun⟩
    obtain ⟨j₂, hrun, -⟩ := houtcome 1 (le_refl 1) j hserves
    have hfits := (hwritten 1).of_ok (congrArg Prod.fst (hrun.symm.trans hfirst))
    obtain ⟨pages', j'', hpages', hcovers⟩ := hwalk hfits.sized hfits.counted hfits.nameable
    rwa [(hpages.unique hpages').1]
  · obtain ⟨j', hrun, -⟩ := hfetch number hnumber hfits j hserves
    rw [hlength] at hrun
    refine ⟨_, j', hrun, rfl, rfl, decide_eq_true_iff, ?_⟩
    show ((decoded.drop ((number - 1) * size)).take size).length = _
    rw [List.length_take, List.length_drop, hlength]
  · obtain ⟨j', hrun, -⟩ := houtcome number hnumber j hserves
    rw [hrun]
    exact (hwritten number).2 hnot

/-- The number that a text of digits behind others stands for. -/
def offsetIn (lead sql : String) : Nat :=
  Nat.ofDigitChars 10 (sql.toList.drop lead.toList.length) 0

theorem offsetIn_intText (lead : String) (n : Nat) : offsetIn lead (lead ++ intText n) = n := by
  unfold offsetIn
  rw [String.toList_append, List.drop_left]
  exact ofDigitChars_intText n

/-- A driver with some rows of one column behind it, in pages of two. -/
def slicing (rows : List (List Value)) : Driver where
  fault _ := none
  inTransaction _ := false
  answer calls :=
    match calls.getLast? with
    | some (.execute _ sql _) =>
      if sql = "SELECT COUNT(*) FROM t" then
        { columns := some ["n"], rows := [[.int rows.length]] }
      else
        { columns := some ["a"],
          rows := (rows.drop (offsetIn "SELECT * FROM t LIMIT 2 OFFSET " sql)).take 2 }
    | _ => {}

/-- A context in which an adapter for such a driver is connected. -/
def slicingContext (rows : List (List Value)) : Context where
  configuration := { kept := some {} }
  adapter := {
    engine := .sqlite
    options := .dict []
    driver := slicing rows
    connection := some 0
    connected := true
    opened := 1 }

theorem slicing_answer (rows : List (List Value)) (calls : List DriverCall) (n : Nat)
    (sql : String) (args : Option (List Value)) :
    (slicing rows).answer (calls ++ [.execute n sql args]) =
      if sql = "SELECT COUNT(*) FROM t" then
        { columns := some ["n"], rows := [[.int rows.length]] }
      else
        { columns := some ["a"],
          rows := (rows.drop (offsetIn "SELECT * FROM t LIMIT 2 OFFSET " sql)).take 2 } := by
  unfold slicing
  simp only [List.getLast?_concat]

theorem slicing_serves (rows : List (List Value)) :
    ({} : Query).Serves (.text "t") 2 {} "n" ["a"] rows (slicingContext rows) where
  settings := rfl
  connected := rfl
  connection := ⟨0, rfl⟩
  undisturbed := fun _ => rfl
  counting := by
    intro st hst made n
    obtain rfl : st = ⟨"SELECT COUNT(*) FROM t", []⟩ := (Except.ok.inj hst).symm
    exact slicing_answer rows _ n _ none
  reading := by
    intro first st hst made n
    obtain ⟨limit, offset, hlimit, hoffset, hst⟩ := Clauses.selectOver_eq_ok hst
    obtain rfl := hlimit.of_int
    obtain rfl := hoffset.of_int
    obtain rfl : st = ⟨"SELECT * FROM t LIMIT 2 OFFSET " ++ intText first, []⟩ := by
      have htwo : intText 2 = "2" := rfl
      rw [hst]
      simp [Clauses.body, Clauses.tail, Head.ofTable, Clauses.projection, Clauses.joinParts,
        Clauses.filterParts, Clauses.orderParts, Clauses.params, boundTexts, led, htwo,
        ← String.append_assoc]
    have hne : "SELECT * FROM t LIMIT 2 OFFSET " ++ intText first ≠ "SELECT COUNT(*) FROM t" := by
      intro h
      have hletter := congrArg (fun s : String => s.toList[7]?) h
      simp only [String.toList_append] at hletter
      rw [List.getElem?_append_left (by decide)] at hletter
      exact absurd hletter (by decide)
    refine (slicing_answer rows _ n ("SELECT * FROM t LIMIT 2 OFFSET " ++ intText first) none).trans
      ?_
    rw [if_neg hne, offsetIn_intText]

theorem pages_cover_three_rows :
    ({} : Query).Serves (.text "t") 2 {} "n" ["a"] [[.int 7], [.int 8], [.int 9]]
        (slicingContext [[.int 7], [.int 8], [.int 9]]) ∧
      ∃ pages j', Walk (({} : Query).pageAt (.text "t") 2 (some .int) Row.lenient) 1
          ⟨slicingContext [[.int 7], [.int 8], [.int 9]], []⟩ pages j' ∧
        pages.length = 2 ∧ pages.flatMap Page.records = [.int 7, .int 8, .int 9] := by
  have hserves := slicing_serves [[.int 7], [.int 8], [.int 9]]
  obtain ⟨hexists, hcovers, -⟩ := pages_cover {} (.text "t") (some .int) Row.lenient 2 {}
    "n" ["a"] [[.int 7], [.int 8], [.int 9]] [.int 7, .int 8, .int 9]
    ⟨"SELECT COUNT(*) FROM t", []⟩ ⟨slicingContext [[.int 7], [.int 8], [.int 9]], []⟩
    (by decide) (by intro most hmost; cases hmost) rfl (List.cons_ne_nil _ _) rfl hserves
  obtain ⟨pages, j', hwalk⟩ := hexists rfl rfl (nameable_text "t")
  obtain ⟨hlength, hrecords⟩ := hcovers pages j' hwalk
  exact ⟨hserves, pages, j', hwalk, hlength, hrecords⟩

end Query

end FluentQuery
