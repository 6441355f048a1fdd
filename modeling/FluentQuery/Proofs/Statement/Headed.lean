import FluentQuery.Proofs.CustomSql.Verbatim
import FluentQuery.Proofs.Statement.Counting
import FluentQuery.Proofs.Terminal.Deletion

/-!
# Heads of statements

A statement starts from custom SQL, or else from a table, and without either there is none. A table
that holds nothing but blanks is no table; of custom SQL this is not so, which is missing only if it
is empty.

* **`Value.IsBlank`** — what is absent, or a text of blanks alone;
* **`Clauses.frontOver`**, **`Clauses.customFrontOf`** — what statements of a kind start with;
* **`Compile.headed_iff`** — when a statement is refused, and what it starts with else;
* **`Compile.blank_custom_compiled`** — a statement of blanks alone.
-/

namespace FluentQuery

/-- A value that is absent, or a text that holds nothing but blanks. -/
def Value.IsBlank (v : Value) : Prop := v = .null ∨ ∃ s, v = .text s ∧ Text.isBlank s = true

theorem tableText_of_blank {table : Value} (h : table.IsBlank) :
    tableText table = .error (.builder .tableMissing) := by
  refine tableText_of_missing ?_
  rcases h with rfl | hblank
  · exact .inl rfl
  · exact .inr (.inl hblank)

theorem tableText_of_text {t : String} (h : Text.isBlank t = false) :
    tableText (.text t) = .ok t := by
  have hne : t ≠ "" := by
    rintro rfl
    cases h
  unfold tableText
  simp [Value.isTruthy, hne, h]

/-- A result is a statement whose text starts with a front. -/
def StartsFrom (front : String) (r : Except Failure Statement) : Prop :=
  ∃ rest params, r = .ok ⟨front ++ rest, params⟩

/-- A result is a statement whose text starts with a front if a condition holds, and else it cannot
be written. -/
def StartsIf (p : Prop) (front : String) (r : Except Failure Statement) : Prop :=
  (p → StartsFrom front r) ∧ (¬p → r = .error .unwritable)

theorem StartsFrom.startsIf {p : Prop} {front : String} {r : Except Failure Statement}
    (h : StartsFrom front r) (hp : p) : StartsIf p front r :=
  ⟨fun _ => h, fun hnot => absurd hp hnot⟩

/-- What starts from something, if it can be written, is not refused. -/
theorem StartsIf.ne_builder {p : Prop} {front : String} {r : Except Failure Statement}
    (h : StartsIf p front r) (b : BuilderError) : r ≠ .error (.builder b) := by
  by_cases hp : p
  · obtain ⟨rest, params, rfl⟩ := h.1 hp
    exact fun h => nomatch h
  · rw [h.2 hp]
    exact fun h => nomatch h

/-- Counting the rows of a statement starts with what the statement starts with, as a derived
table. -/
theorem StartsFrom.countOf {front : String} {r : Except Failure Statement}
    (h : StartsFrom front r) :
    StartsFrom ("SELECT COUNT(*) FROM (" ++ front) (r.map Clauses.countOf) := by
  obtain ⟨rest, params, rfl⟩ := h
  have htext : "SELECT COUNT(*) FROM (" ++ (front ++ rest) ++ ") AS t" =
      "SELECT COUNT(*) FROM (" ++ front ++ (rest ++ ") AS t") := by
    rw [String.append_assoc, String.append_assoc, String.append_assoc]
  exact ⟨_, params, congrArg (fun text => Except.ok (Statement.mk text params)) htext⟩

namespace Clauses

variable {s : Clauses} {inspector : Inspector} {table : Value}

/-- What a statement of a kind over a table starts with. -/
def frontOver (s : Clauses) (table : String) : StatementKind → String
  | .select _ => "SELECT " ++ s.projection ++ " FROM " ++ table
  | .count => "SELECT COUNT(*) FROM " ++ table
  | .delete => "DELETE FROM " ++ table

/-- What a statement that reads or counts rows over custom SQL starts with. -/
def customFrontOf (s : Clauses) (found : Sql.Inspection) (sql : String) : StatementKind → String
  | .select _ | .delete => s.customFront found sql
  | .count => "SELECT COUNT(*) FROM (" ++ s.customFront found sql

/-- The bounds of the query that a statement of a kind has can be written. -/
def BoundsWritable (s : Clauses) : StatementKind → Prop
  | .select _ => s.boundsFit = true
  | .count | .delete => True

theorem selectOver_starts {head : Head} {o : Overrides} {st : Statement}
    (h : s.selectOver head o = .ok st) : StartsFrom head.sql (s.selectOver head o) := by
  obtain ⟨limit, offset, -, -, rfl⟩ := selectOver_eq_ok h
  rw [h]
  unfold body
  exact ⟨_, s.params, by rw [String.append_assoc, String.append_assoc]⟩

/-- Without bounds given for it, a statement over a head comes about if the query's own can be
written. -/
theorem selectOver_startsIf (s : Clauses) (head : Head) (o : Overrides) (hlimit : o.limit = .null)
    (hoffset : o.offset = .null) :
    StartsIf (s.boundsFit = true) head.sql (s.selectOver head o) := by
  have hwritten := s.selectOver_own_written hlimit hoffset head
  refine ⟨fun hfit => ?_, hwritten.2⟩
  obtain ⟨st, hst⟩ := hwritten.1 hfit
  exact selectOver_starts hst

/-- Over custom SQL a statement comes about, whatever the custom SQL is but empty, and whatever
table is given. -/
theorem statementBy_custom {sql : String} (hsql : s.customSql = .text sql) (hne : sql ≠ "")
    {kind : StatementKind} (hkind : kind = .select {} ∨ kind = .count) :
    StartsIf (s.BoundsWritable kind) (s.customFrontOf (inspector sql) sql kind)
      (s.statementBy inspector table kind) := by
  rcases hkind with rfl | rfl
  · have hstarts := s.selectOver_startsIf (.ofCustomSql (inspector sql) s sql) {} rfl rfl
    rw [ofCustomSql_front, ← selectBy_text hsql hne inspector table] at hstarts
    exact hstarts
  · -- The derived table has no bounds, so whether they can be written does not matter.
    have hinner : s.withoutPaging.customSql = .text sql := hsql
    have hstarts := (selectOver_starts (selectOver_withoutPaging s
      (.ofCustomSql (inspector sql) s.withoutPaging sql) false)).countOf
    rw [ofCustomSql_front, ← selectBy_text hinner hne inspector .null] at hstarts
    unfold statementBy countBy
    rw [if_pos (isCustom_of_text hsql hne)]
    exact hstarts.startsIf trivial

/-- There is no custom SQL, or it is empty. -/
def LacksCustomSql (s : Clauses) : Prop := s.customSql = .null ∨ s.customSql = .text ""

/-- The custom SQL is not empty, but holds nothing but blanks. -/
def HasBlankCustomSql (s : Clauses) : Prop :=
  ∃ sql, s.customSql = .text sql ∧ sql ≠ "" ∧ Text.isBlank sql = true

theorem LacksCustomSql.not_isCustom (h : s.LacksCustomSql) : s.isCustom = false := by
  unfold isCustom
  rcases h with h | h <;> rw [h] <;> rfl

theorem blank_customSql_iff : s.customSql.IsBlank ↔ s.LacksCustomSql ∨ s.HasBlankCustomSql := by
  constructor
  · rintro (hnull | ⟨sql, hsql, hblank⟩)
    · exact .inl (.inl hnull)
    · by_cases hempty : sql = ""
      · exact .inl (.inr (hempty ▸ hsql))
      · exact .inr ⟨sql, hsql, hempty, hblank⟩
  · rintro ((hnull | hempty) | ⟨sql, hsql, -, hblank⟩)
    · exact .inl hnull
    · exact .inr ⟨"", hempty, rfl⟩
    · exact .inr ⟨sql, hsql, hblank⟩

theorem HasBlankCustomSql.not_lacks (h : s.HasBlankCustomSql) : ¬s.LacksCustomSql := by
  obtain ⟨sql, hsql, hne, -⟩ := h
  rintro (hnull | hempty)
  · cases hsql.symm.trans hnull
  · exact hne (Value.text.inj (hsql.symm.trans hempty))

/-- Without custom SQL a statement of any kind is over a table. -/
theorem statementBy_plain (hplain : s.isCustom = false) (inspector : Inspector) (table : Value) :
    (∀ o, s.statementBy inspector table (.select o) = s.selectFrom table o) ∧
      s.statementBy inspector table .count = s.countFrom table := by
  have hnot : ¬s.isCustom = true := Bool.eq_false_iff.mp hplain
  exact ⟨fun _ => if_neg hnot, if_neg hnot⟩

/-- Over a table that is none a statement is refused. -/
theorem statementBy_blank {kind : StatementKind} (hkind : kind = .delete ∨ s.isCustom = false)
    (htable : table.IsBlank) :
    s.statementBy inspector table kind = .error (.builder .tableMissing) := by
  have hmissing := tableText_of_blank htable
  have hselect : ∀ o, s.selectFrom table o = .error (.builder .tableMissing) := fun o => by
    unfold selectFrom
    rw [hmissing]
    rfl
  have hcount : s.countFrom table = .error (.builder .tableMissing) := by
    unfold countFrom
    rw [hmissing]
    rfl
  have hdelete : s.deleteFrom table = .error (.builder .tableMissing) := by
    unfold deleteFrom
    rw [hmissing]
    rfl
  rcases hkind with rfl | hplain
  · exact hdelete
  · obtain ⟨hselects, hcounts⟩ := statementBy_plain hplain inspector table
    cases kind with
    | select o => rw [hselects, hselect]
    | count => rw [hcounts, hcount]
    | delete => exact hdelete

/-- Over a table a statement comes about. -/
theorem statementBy_table {kind : StatementKind} (hkind : kind = .delete ∨ s.isCustom = false)
    (hbounds : ∀ o, kind = .select o → o.limit = .null ∧ o.offset = .null) {t : String}
    (ht : Text.isBlank t = false) :
    StartsIf (s.BoundsWritable kind) (s.frontOver t kind)
      (s.statementBy inspector (.text t) kind) := by
  have htext := tableText_of_text ht
  have hstarts : ∀ front parts, StartsIf True front
      (.ok ⟨joinWith " " (front :: parts), s.params⟩) := fun front parts =>
    StartsFrom.startsIf ⟨led " " parts, s.params, by rw [joinWith_cons]⟩ trivial
  have hdelete : StartsIf True (s.frontOver t .delete) (s.deleteFrom (.text t)) := by
    unfold deleteFrom
    rw [htext]
    exact hstarts _ _
  rcases hkind with rfl | hplain
  · exact hdelete
  · obtain ⟨hselects, hcounts⟩ := statementBy_plain hplain inspector (.text t)
    cases kind with
    | select o =>
      obtain ⟨hlimit, hoffset⟩ := hbounds o rfl
      rw [hselects, selectFrom, htext]
      exact s.selectOver_startsIf (.ofTable s t) o hlimit hoffset
    | count =>
      rw [hcounts, countFrom, htext]
      exact hstarts _ _
    | delete => exact hdelete

/-- Where custom SQL does not matter, only a table that is none is refused. -/
theorem statementBy_refused_iff {kind : StatementKind} (hkind : kind = .delete ∨ s.isCustom = false)
    (hbounds : ∀ o, kind = .select o → o.limit = .null ∧ o.offset = .null)
    (htable : table = .null ∨ ∃ t, table = .text t) :
    s.statementBy inspector table kind = .error (.builder .tableMissing) ↔ table.IsBlank := by
  refine ⟨fun hrefused => ?_, statementBy_blank hkind⟩
  rcases htable with rfl | ⟨t, rfl⟩
  · exact .inl rfl
  · cases ht : Text.isBlank t with
    | true => exact .inr ⟨t, rfl, ht⟩
    | false => exact absurd hrefused ((statementBy_table hkind hbounds ht).ne_builder _)

end Clauses

namespace Compile

variable {s : Clauses} {table : Value} {j : Journaled Configuration} {settings : Settings}

/-- **When a statement is refused for want of a head**, over all clauses whose custom SQL is absent
or a text and all tables that are, with any dialect, where the settings can be read.

* Deleting is refused exactly if the table is blank, and else the statement starts from the table.
* Building and counting are refused exactly if the table is blank and custom SQL is absent or empty.
* Over custom SQL that is not empty a statement comes about and starts from it, blanks or not; else
  over a table that is not blank it starts from the table. Only where a statement that is built has
  a bound that cannot be written is there none, and that is why it fails.
* So they are refused exactly if both are blank unless the custom SQL is not empty but blank, and
  the table is blank too. -/
theorem headed_iff (d : Value) (hcustom : s.customSql = .null ∨ ∃ sql, s.customSql = .text sql)
    (htable : table = .null ∨ ∃ t, table = .text t)
    (hsettings : j.state.settings.1 = .ok settings) :
    ((((delete s table).runFrom j).1 = .error (.builder .tableMissing) ↔ table.IsBlank) ∧
      ∀ t, table = .text t → Text.isBlank t = false →
        StartsFrom (s.frontOver t .delete) ((delete s table).runFrom j).1) ∧
    ∀ kind, kind = .select {} ∨ kind = .count →
      (((statement d s table kind).runFrom j).1 = .error (.builder .tableMissing) ↔
        s.LacksCustomSql ∧ table.IsBlank) ∧
      (∀ sql, s.customSql = .text sql → sql ≠ "" →
        StartsIf (s.BoundsWritable kind) (s.customFrontOf (inspector d sql) sql kind)
          ((statement d s table kind).runFrom j).1) ∧
      (s.LacksCustomSql → ∀ t, table = .text t → Text.isBlank t = false →
        StartsIf (s.BoundsWritable kind) (s.frontOver t kind)
          ((statement d s table kind).runFrom j).1) ∧
      ((((statement d s table kind).runFrom j).1 = .error (.builder .tableMissing) ↔
          s.customSql.IsBlank ∧ table.IsBlank) ↔
        ¬(s.HasBlankCustomSql ∧ table.IsBlank)) := by
  have houtcome : ∀ kind, ((statement d s table kind).runFrom j).1 =
      s.statementBy (inspector d) table kind := fun kind => by
    rw [statement_outcome, underSettings_of_ok hsettings]
  simp only [show (delete s table).runFrom j = (statement d s table .delete).runFrom j from rfl,
    houtcome]
  refine ⟨⟨Clauses.statementBy_refused_iff (.inl rfl) (fun o h => nomatch h) htable,
    fun t htext ht => ?_⟩, fun kind hkind => ?_⟩
  · subst htext
    exact (Clauses.statementBy_table (.inl rfl) (fun o h => nomatch h) ht).1 trivial
  have hbounds : ∀ o, kind = .select o → o.limit = .null ∧ o.offset = .null := by
    rintro o rfl
    rcases hkind with h | h
    · cases h
      exact ⟨rfl, rfl⟩
    · cases h
  have hstarts : ∀ sql, s.customSql = .text sql → sql ≠ "" →
      StartsIf (s.BoundsWritable kind) (s.customFrontOf (inspector d sql) sql kind)
        (s.statementBy (inspector d) table kind) :=
    fun sql hsql hne => Clauses.statementBy_custom hsql hne hkind
  have hrefused : s.statementBy (inspector d) table kind = .error (.builder .tableMissing) ↔
      s.LacksCustomSql ∧ table.IsBlank := by
    by_cases hlacks : s.LacksCustomSql
    · rw [Clauses.statementBy_refused_iff (.inr hlacks.not_isCustom) hbounds htable]
      exact (and_iff_right hlacks).symm
    · obtain hnull | ⟨sql, hsql⟩ := hcustom
      · exact absurd (.inl hnull) hlacks
      · -- Whatever table is given, a statement over the custom SQL is not refused.
        have hne : sql ≠ "" := fun hempty => hlacks (.inr (hempty ▸ hsql))
        exact iff_of_false ((hstarts sql hsql hne).ne_builder _) fun h => hlacks h.1
  refine ⟨hrefused, hstarts, fun hlacks t htext ht => ?_, ?_⟩
  · subst htext
    exact Clauses.statementBy_table (.inr hlacks.not_isCustom) hbounds ht
  · rw [hrefused, Clauses.blank_customSql_iff]
    constructor
    · rintro hrule ⟨hblank, hnone⟩
      exact hblank.not_lacks (hrule.mpr ⟨.inr hblank, hnone⟩).1
    · intro hnot
      exact ⟨fun h => ⟨.inl h.1, h.2⟩,
        fun h => ⟨h.1.resolve_right fun hblank => hnot ⟨hblank, h.2⟩, h.2⟩⟩

/-- Settings that can be read. -/
def readable : Journaled Configuration := ⟨{ kept := some {} }, []⟩

theorem headed_iff_space :
    ((delete {} (.text "\u3000")).runFrom readable).1 = .error (.builder .tableMissing) ∧
      ((count .null {} (.text "\u3000")).runFrom readable).1 = .error (.builder .tableMissing) ∧
      StartsFrom "SELECT * FROM t" ((select .null {} (.text "t")).runFrom readable).1 := by
  obtain ⟨⟨hdelete, -⟩, hall⟩ := @headed_iff {} (.text "\u3000") readable {} .null (.inl rfl)
    (.inr ⟨_, rfl⟩) rfl
  obtain ⟨-, htable⟩ := @headed_iff {} (.text "t") readable {} .null (.inl rfl) (.inr ⟨_, rfl⟩) rfl
  have hblank : (Value.text "\u3000").IsBlank := .inr ⟨_, rfl, rfl⟩
  exact ⟨hdelete.mpr hblank, (hall .count (.inr rfl)).1.mpr ⟨.inl rfl, hblank⟩,
    ((htable (.select {}) (.inl rfl)).2.2.1 (.inl rfl) "t" rfl rfl).1 rfl⟩

/-- Custom SQL of blanks alone is built into a statement of blanks alone, without a table. -/
theorem blank_custom_compiled :
    Value.IsBlank (.text "   ") ∧ Value.IsBlank .null ∧
      ((select .null { customSql := .text "   " } .null).runFrom readable).1 = .ok ⟨"   ", []⟩ ∧
      ((select .null { customSql := .text "   " } .null).runFrom readable).1 ≠
        .error (.builder .tableMissing) := by
  have hbuilt : ((select .null { customSql := .text "   " } .null).runFrom readable).1 =
      .ok ⟨"   ", []⟩ := by
    rw [(select_runFrom _ _ _ _ _).1, underSettings_of_ok rfl,
      Clauses.selectBy_text rfl (by decide), Head.ofCustomSql, if_neg (by simp)]
    rfl
  exact ⟨.inr ⟨_, rfl, rfl⟩, .inl rfl, hbuilt, by rw [hbuilt]; exact fun h => nomatch h⟩

end Compile

end FluentQuery
