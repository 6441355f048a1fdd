import FluentQuery.Proofs.Statement.Compiled

/-!
# Counting the rows that are read

A page shows some of the rows that a query reads, and the number of all of them comes from a
statement of its own. The two statements must be about the same rows. With the *plain* statement of
a query — sort keys and bounds dropped — as the middle:

* the statement that reads rows is the plain one with a tail of sort keys and bounds;
* the statement that counts them has the plain one as a derived table over custom SQL, and over a
  table it has all that follows FROM in the plain one;
* all three bind the same values, and sort keys and bounds have no part in counting.

`count_matches_select` states this of compiling.
-/

namespace FluentQuery

namespace Clauses

variable {s : Clauses} {table : Value} {o : Overrides} {inspector : Inspector} {data : Statement}

/-- A statement without sort keys and bounds is one that nothing follows. -/
theorem selectOver_withoutPaging (s : Clauses) (head : Head) (withOrder : Bool) :
    s.withoutPaging.selectOver head { withOrder } = .ok ⟨s.body head, s.params⟩ := by
  have horder : (if withOrder then s.withoutPaging.orderParts else []) = [] := by
    cases withOrder <;> rfl
  show Except.ok (Statement.mk (joinWith " " (head.sql :: (s.joinParts ++
    s.filterParts head.extendsWhere ++ (if withOrder then s.withoutPaging.orderParts else []) ++
      [] ++ []))) s.params) = _
  rw [horder]
  simp [joinWith_cons, led_append, body, String.append_assoc]

/-- Where rows can be read, the plain statement is what stands in front of sort keys and bounds. -/
theorem selectOver_plain {head : Head} (h : s.selectOver head o = .ok data) :
    ∃ plain limit offset, s.withoutPaging.selectOver head {} = .ok plain ∧
      TakesBound o.limit s.limit limit ∧ TakesBound o.offset s.offset offset ∧
      data.sql = plain.sql ++ s.tail o limit offset ∧ data.params = plain.params := by
  obtain ⟨limit, offset, hlimit, hoffset, rfl⟩ := selectOver_eq_ok h
  exact ⟨_, limit, offset, selectOver_withoutPaging s head true, hlimit, hoffset, rfl, rfl⟩

theorem selectBy_plain (h : s.selectBy inspector table o = .ok data) :
    ∃ plain limit offset, s.withoutPaging.selectBy inspector table {} = .ok plain ∧
      TakesBound o.limit s.limit limit ∧ TakesBound o.offset s.offset offset ∧
      data.sql = plain.sql ++ s.tail o limit offset ∧ data.params = plain.params := by
  unfold selectBy at h ⊢
  by_cases hcustom : s.isCustom = true
  · rw [if_pos hcustom] at h
    rw [if_pos (show s.withoutPaging.isCustom = true from hcustom)]
    cases hsql : customText s.customSql with
    | error e => rw [hsql] at h; cases h
    | ok sql =>
      rw [hsql] at h
      rw [show customText s.withoutPaging.customSql = .ok sql from hsql]
      exact selectOver_plain h
  · rw [if_neg hcustom] at h
    rw [if_neg (show ¬s.withoutPaging.isCustom = true from hcustom)]
    unfold selectFrom at h ⊢
    cases htable : tableText table with
    | error e => rw [htable] at h; cases h
    | ok t =>
      rw [htable] at h
      exact selectOver_plain h

/-- Over custom SQL neither the table nor a word about sort keys changes the plain statement. -/
theorem selectBy_custom (hcustom : s.isCustom = true) :
    s.withoutPaging.selectBy inspector .null { withOrder := false } =
      s.withoutPaging.selectBy inspector table {} := by
  unfold selectBy
  rw [if_pos (show s.withoutPaging.isCustom = true from hcustom),
    if_pos (show s.withoutPaging.isCustom = true from hcustom)]
  cases customText s.withoutPaging.customSql with
  | error e => rfl
  | ok sql =>
    exact (selectOver_withoutPaging s _ false).trans (selectOver_withoutPaging s _ true).symm

theorem countBy_custom {plain counted : Statement} (hcustom : s.isCustom = true)
    (hplain : s.withoutPaging.selectBy inspector table {} = .ok plain)
    (hcount : s.countBy inspector table = .ok counted) : counted = countOf plain := by
  unfold countBy at hcount
  rw [if_pos hcustom, selectBy_custom hcustom, hplain] at hcount
  exact (Except.ok.inj hcount).symm

/-- Over a table the two statements agree on all that follows FROM. -/
theorem countBy_table {plain counted : Statement} (hcustom : s.isCustom = false)
    (hplain : s.withoutPaging.selectBy inspector table {} = .ok plain)
    (hcount : s.countBy inspector table = .ok counted) :
    (∃ rows, plain.sql = "SELECT " ++ s.projection ++ " FROM " ++ rows ∧
      counted.sql = "SELECT COUNT(*) FROM " ++ rows) ∧ counted.params = plain.params := by
  have hnot : ¬s.isCustom = true := by simp [hcustom]
  unfold countBy countFrom at hcount
  unfold selectBy selectFrom at hplain
  rw [if_neg hnot] at hcount
  rw [if_neg (show ¬s.withoutPaging.isCustom = true from hnot)] at hplain
  cases htable : tableText table with
  | error e => rw [htable] at hcount; cases hcount
  | ok t =>
    rw [htable] at hcount hplain
    obtain rfl := Except.ok.inj hcount
    obtain rfl := Except.ok.inj ((selectOver_withoutPaging s _ true).symm.trans hplain)
    refine ⟨⟨t ++ led " " s.joinParts ++ led " " (s.filterParts false), ?_, ?_⟩, rfl⟩
    · simp [body, Head.ofTable, projection, withoutPaging, String.append_assoc]
    · simp [joinWith_cons, led_append, String.append_assoc]

end Clauses

/-- **Counting is about the rows that are read.** Wherever both statements can be compiled, so can
the plain one, and it has the rows of both; and no sort key or bound changes how rows are
counted. -/
theorem count_matches_select (d : Value) (s : Clauses) (table : Value) (o : Overrides) :
    (∀ (j j' : Journaled Configuration) (data counted : Statement),
      ((Compile.select d s table o).runFrom j).1 = .ok data →
      ((Compile.count d s table).runFrom j').1 = .ok counted →
      ∃ plain limit offset,
        ((Compile.select d s.withoutPaging table).runFrom j).1 = .ok plain ∧
        (s.isCustom = false → ∃ rows,
          plain.sql = "SELECT " ++ s.projection ++ " FROM " ++ rows ∧
          counted.sql = "SELECT COUNT(*) FROM " ++ rows) ∧
        (s.isCustom = true → counted.sql = "SELECT COUNT(*) FROM (" ++ plain.sql ++ ") AS t") ∧
        TakesBound o.limit s.limit limit ∧ TakesBound o.offset s.offset offset ∧
        data.sql = plain.sql ++ s.tail o limit offset ∧
        data.params = plain.params ∧ counted.params = plain.params) ∧
    ∀ order limit offset,
      Compile.count d { s with order, limit, offset } table = Compile.count d s table := by
  refine ⟨fun j j' data counted hdata hcount => ?_, fun order limit offset => rfl⟩
  rw [(Compile.select_runFrom d s table o j).1] at hdata
  rw [Compile.count_runFrom] at hcount
  obtain ⟨hdata, settings, hsettings⟩ := Compile.underSettings_eq_ok hdata
  obtain ⟨hcount, -⟩ := Compile.underSettings_eq_ok hcount
  obtain ⟨plain, limit, offset, hplain, hlimit, hoffset, hsql, hparams⟩ :=
    Clauses.selectBy_plain hdata
  refine ⟨plain, limit, offset, ?_, ?_, ?_, hlimit, hoffset, hsql, hparams, ?_⟩
  · rw [(Compile.select_runFrom d s.withoutPaging table {} j).1, hplain]
    unfold Compile.underSettings
    rw [hsettings]
    rfl
  · intro hcustom
    exact (Clauses.countBy_table hcustom hplain hcount).1
  · intro hcustom
    rw [Clauses.countBy_custom hcustom hplain hcount]
    rfl
  · cases hcustom : s.isCustom with
    | false => exact (Clauses.countBy_table hcustom hplain hcount).2
    | true =>
      rw [Clauses.countBy_custom hcustom hplain hcount]
      rfl

/-- Clauses over a table, with a join, a condition, a sort key and a bound. -/
def pageOfJoin : Clauses where
  conditions := [⟨"t.size", .gt, .int 3⟩]
  joins := [⟨.left, "u", "u.id = t.id"⟩]
  order := [⟨"t.id", false⟩]
  limit := some 5

theorem count_matches_select_over_join :
    ∃ data counted rows limit offset,
      ((Compile.select .null pageOfJoin (.text "t")).runFrom ⟨{}, []⟩).1 = .ok data ∧
      ((Compile.count .null pageOfJoin (.text "t")).runFrom ⟨{}, []⟩).1 = .ok counted ∧
      data.sql = "SELECT " ++ pageOfJoin.projection ++ " FROM " ++ rows ++
        pageOfJoin.tail {} limit offset ∧
      counted.sql = "SELECT COUNT(*) FROM " ++ rows ∧ counted.params = data.params := by
  have hdata : ((Compile.select .null pageOfJoin (.text "t")).runFrom
      ⟨{}, []⟩).1.toOption.map Statement.sql = some ("SELECT * FROM t " ++
        "LEFT JOIN u ON u.id = t.id WHERE t.size > ? ORDER BY t.id DESC LIMIT 5") := by
    decide +kernel
  have hcounted : ((Compile.count .null pageOfJoin (.text "t")).runFrom
      ⟨{}, []⟩).1.toOption.map Statement.sql = some ("SELECT COUNT(*) FROM t " ++
        "LEFT JOIN u ON u.id = t.id WHERE t.size > ?") := by
    decide +kernel
  obtain ⟨data, hdata, -⟩ := Statement.exists_of_sql hdata
  obtain ⟨counted, hcounted, -⟩ := Statement.exists_of_sql hcounted
  obtain ⟨plain, limit, offset, -, htable, -, -, -, hsql, hparams, hparams'⟩ :=
    (count_matches_select .null pageOfJoin (.text "t") {}).1 ⟨{}, []⟩ ⟨{}, []⟩ data counted hdata
      hcounted
  obtain ⟨rows, hplain, hrows⟩ := htable rfl
  exact ⟨data, counted, rows, limit, offset, hdata, hcounted, by rw [hsql, hplain], hrows,
    by rw [hparams, hparams']⟩

end FluentQuery
