import FluentQuery.Proofs.CustomSql.Rendered

/-!
# The order of clauses over custom SQL

Custom SQL is the head of a statement as it is, and what the query has accumulated comes behind it:
first the joins, then the conditions, then sort keys and bounds. Over a head that ends in its source
this gives a statement in the order of SQL. Over other heads it may not: a join lands behind a
filter, a condition behind a grouping or in the ON of a join, and anything behind a semicolon.

`clause_order_iff` says for every head that is one SELECT statement when the clauses are in order
and the conditions in the filter; `condition_in_grouping` is a head over which they are not.
-/

namespace FluentQuery

open Reading

namespace Clauses

variable {s : Clauses}

/-- What stands in front of the conditions, over a head. -/
def lead (s : Clauses) (head : Head) : String :=
  head.sql ++ led " " s.joinParts ++ filterWord head.extendsWhere

/-- The items of a clause that was accumulated are never empty, so none are added only where no
text is. -/
theorem added_eq_empty_of_items {extendsWhere : Bool} {o : Overrides} {limit offset : Option Int}
    (h : s.addedItems extendsWhere o limit offset = []) :
    s.added extendsWhere o limit offset = "" := by
  unfold addedItems tailItems at h
  simp only [List.append_eq_nil_iff] at h
  obtain ⟨⟨hjoins, hfilter⟩, ⟨horder, hlimit⟩, hoffset⟩ := h
  have hjoins : s.joinParts = [] := by
    cases hks : s.joins with
    | nil => rw [joinParts, hks]; rfl
    | cons k ks => rw [hks] at hjoins; cases hjoins
  have hfilter : s.filterParts extendsWhere = [] := by
    unfold filterItems at hfilter
    unfold filterParts
    cases hempty : s.conditions.isEmpty with
    | true => rfl
    | false => rw [hempty] at hfilter; cases hfilter
  have horder : (if o.withOrder then s.orderParts else []) = [] := by
    cases hwith : o.withOrder with
    | false => rfl
    | true =>
      rw [hwith] at horder
      cases hks : s.order with
      | nil => simp [orderParts, hks]
      | cons k ks => rw [hks] at horder; cases horder
  have hbound : ∀ {word c bound}, boundItems c bound = [] → boundTexts word bound = [] := by
    intro word c bound hnone
    cases bound with
    | none => rfl
    | some n => cases hnone
  unfold added tail
  rw [hjoins, hfilter, horder, hbound hlimit, hbound hoffset]
  rfl

theorem added_eq_empty_iff (htidy : s.Tidy) {t : String} {its : List Item} (hholds : Holds t its)
    {extendsWhere : Bool} {o : Overrides} {limit offset : Option Int} :
    t ++ s.added extendsWhere o limit offset = t ↔
      s.addedItems extendsWhere o limit offset = [] := by
  constructor
  · intro h
    have hall := added_appends htidy extendsWhere o limit offset t its hholds
    rw [h] at hall
    have heq := hall.unique hholds
    rwa [List.append_right_eq_self] at heq
  · intro h
    rw [added_eq_empty_of_items h, String.append_empty]

/-! ## Accumulated clauses among themselves -/

/-- Sort keys and bounds may follow whatever belongs in front of them. -/
theorem tailClauses_chain {l : Clause} (hrank : l.rank ≤ 5) (o : Overrides)
    (limit offset : Option Int) :
    (l :: s.tailClauses o limit offset).IsChain fun a b => a.mayFollow b := by
  have horder : l.mayFollow .order = true := decide_eq_true (show l.rank < 6 by omega)
  have hlimit : l.mayFollow .limit = true := decide_eq_true (show l.rank < 7 by omega)
  have hoffset : l.mayFollow .offset = true := decide_eq_true (show l.rank < 8 by omega)
  unfold tailClauses
  cases (o.withOrder && !s.order.isEmpty) <;> cases limit <;> cases offset <;>
    simp [horder, hlimit, hoffset] <;> decide

/-- Joins may follow a clause, and a clause behind them follows the last of them. -/
theorem joinClauses_chain {l : Clause} {joins : List Join} (hsome : joins ≠ [])
    (behind : List Clause) :
    (l :: (joins.map (fun _ => .join) ++ behind)).IsChain (fun a b => a.mayFollow b) ↔
      l.mayFollow .join = true ∧
        (Clause.join :: behind).IsChain fun a b => a.mayFollow b := by
  induction joins generalizing l with
  | nil => exact absurd rfl hsome
  | cons k rest ih =>
    rw [List.map_cons, List.cons_append, List.isChain_cons_cons]
    cases rest with
    | nil => rfl
    | cons k' rest =>
      rw [ih (List.cons_ne_nil k' rest)]
      simp [Clause.mayFollow]

/-- What is accumulated goes on in order exactly where its first clause does. -/
theorem addedClauses_chain {l : Clause} (hrank : l.rank ≤ 5) (extendsWhere : Bool)
    (o : Overrides) (limit offset : Option Int) :
    (l :: s.addedClauses extendsWhere o limit offset).IsChain (fun a b => a.mayFollow b) ↔
      (s.joins ≠ [] → l.mayFollow .join = true) ∧
        (s.joins = [] → s.conditions ≠ [] → extendsWhere = false →
          l.mayFollow .filter = true) := by
  have hfilter : ∀ {l' : Clause}, l'.rank ≤ 5 →
      ((l' :: ((if s.conditions.isEmpty || extendsWhere then [] else [.filter]) ++
        s.tailClauses o limit offset)).IsChain (fun a b => a.mayFollow b) ↔
          (s.conditions ≠ [] → extendsWhere = false → l'.mayFollow .filter = true)) := by
    intro l' hl'
    have htail := tailClauses_chain (s := s) hl' o limit offset
    have hbehind := tailClauses_chain (s := s) (l := .filter) (by decide) o limit offset
    cases s.conditions with
    | nil => simpa using htail
    | cons c rest =>
      cases extendsWhere with
      | true => simpa using htail
      | false =>
        show (l' :: .filter :: s.tailClauses o limit offset).IsChain _ ↔ _
        simp [List.isChain_cons_cons, hbehind]
  unfold addedClauses
  rw [List.append_assoc]
  cases hks : s.joins with
  | nil => simpa using hfilter hrank
  | cons k rest =>
    have hjoin : (Clause.join :: ((if s.conditions.isEmpty || extendsWhere then []
        else [.filter]) ++ s.tailClauses o limit offset)).IsChain (fun a b => a.mayFollow b) :=
      (hfilter (by decide)).mpr fun _ _ => rfl
    rw [joinClauses_chain (List.cons_ne_nil k rest)]
    constructor
    · rintro ⟨hfollow, -⟩
      exact ⟨fun _ => hfollow, fun hnone => absurd hnone (List.cons_ne_nil k rest)⟩
    · rintro ⟨hfollow, -⟩
      exact ⟨hfollow (List.cons_ne_nil k rest), hjoin⟩

/-- The conditions go on in the filter where a filter is started for them, or where the one of the
head is the last clause and no join comes in between. -/
theorem governing_lead {sql : String} {cs : List Clause} {l : Clause}
    {ended : Bool} (htidy : s.Tidy) (hhead : IsSelect sql cs ended) (hlast : cs.getLast? = some l)
    (extendsWhere : Bool) :
    governing (s.lead ⟨sql, extendsWhere⟩) = some .filter ↔
      extendsWhere = false ∨ s.joins = [] ∧ l = .filter := by
  obtain ⟨its, hholds, hopens, -⟩ := hhead
  have hlead := filterWord_appends extendsWhere _ _ (joins_appends htidy _ _ hholds)
  replace hlead : Holds (s.lead ⟨sql, extendsWhere⟩) _ := hlead
  have hstop : clauseList (if ended then [.stop] else []) = [] := by cases ended <;> rfl
  have hclauses : ∀ word, clauseList (its ++ (if ended then [.stop] else []) ++
      s.joins.flatMap Join.items ++ [word]) =
        cs ++ s.joins.map (fun _ => .join) ++ clauseList [word] := by
    intro word
    rw [clauseList_append, clauseList_append, clauseList_append, hstop, hopens.1,
      (joins_opens s.joins).1, List.append_nil]
  rw [hlead.governing, hclauses]
  obtain ⟨front, rfl⟩ := List.getLast?_eq_some_iff.mp hlast
  cases extendsWhere with
  | false =>
    show (front ++ [l] ++ s.joins.map (fun _ => Clause.join) ++ [Clause.filter]).getLast? = _ ↔ _
    rw [List.getLast?_concat]
    simp
  | true =>
    show (front ++ [l] ++ s.joins.map (fun _ => Clause.join) ++ []).getLast? = _ ↔ _
    rw [List.append_nil]
    rcases List.eq_nil_or_concat s.joins with hnone | ⟨rest, k, hsome⟩
    · rw [hnone, List.map_nil, List.append_nil, List.getLast?_concat]
      simp
    · rw [hsome, List.concat_eq_append, List.map_append, ← List.append_assoc, List.map_singleton,
        List.getLast?_concat]
      simp

/-- **The order of clauses over custom SQL.** Let the head of a statement be one SELECT statement in
the order of SQL, without sort keys and bounds, and let the other texts of the caller be tidy. Then
the statement that is compiled is one SELECT statement in that order, with all conditions in the
filter, exactly where

* joins come behind a source and in front of all other clauses;
* conditions come neither behind a grouping nor behind a filter of groups, and go on with a filter
  if the head has one and only then;
* nothing comes behind a semicolon. -/
theorem clause_order_iff (d : Value) (s : Clauses) (table : Value) (o : Overrides)
    (j : Journaled Configuration) (st : Statement) (sql : String) (cs : List Clause)
    (ended : Bool) (hst : ((Compile.select d s table o).runFrom j).1 = .ok st)
    (hsql : s.customSql = .text sql) (hone : Sql.inspect (.ofValue d) sql ≠ .setOperation)
    (hhead : IsSelect sql cs ended) (horder : InOrder cs) (hunpaged : Unpaged cs)
    (htidy : s.Tidy) :
    (∃ cs' ended', IsSelect st.sql cs' ended' ∧ InOrder cs') ∧
        (s.conditions ≠ [] → ∃ back,
          st.sql = s.lead (.ofCustomSql (Sql.inspect (.ofValue d) sql) s sql) ++ " " ++
            s.predicates ++ back ∧
          governing (s.lead (.ofCustomSql (Sql.inspect (.ofValue d) sql) s sql)) =
            some .filter) ↔
      (s.joins ≠ [] → .source ∈ cs ∧ .filter ∉ cs ∧ .grouping ∉ cs ∧ .groupFilter ∉ cs) ∧
        (s.conditions ≠ [] → .grouping ∉ cs ∧ .groupFilter ∉ cs ∧
          (Head.hasWhere (Sql.inspect (.ofValue d) sql) sql = true ↔ .filter ∈ cs)) ∧
        (st.sql ≠ sql → ended = false) := by
  obtain ⟨l, hlast, hmem, hrank⟩ := horder.exists_last hunpaged
  obtain ⟨limit, offset, rfl⟩ := select_over_custom hst hsql hhead.ne_empty hone
  rw [ofCustomSql_single hone]
  generalize Head.hasWhere (Sql.inspect (.ofValue d) sql) sql = extendsWhere
  have hadded : s.addedItems extendsWhere o limit offset ≠ [] ↔
      sql ++ s.added extendsWhere o limit offset ≠ sql := by
    obtain ⟨its, hholds, -⟩ := hhead
    exact (not_congr (added_eq_empty_iff htidy hholds)).symm
  -- The clauses on both sides of the border, and what goes on behind them.
  have hselect := isSelect_append_iff hhead horder
    (added_appends htidy extendsWhere o limit offset)
    (addedItems_opens extendsWhere o limit offset)
  rw [inOrder_append_iff hlast horder, addedClauses_chain hrank] at hselect
  have hfilter : s.conditions ≠ [] →
      ((∃ back, sql ++ s.added extendsWhere o limit offset =
        s.lead ⟨sql, extendsWhere⟩ ++ " " ++ s.predicates ++ back ∧
        governing (s.lead ⟨sql, extendsWhere⟩) = some .filter) ↔
          extendsWhere = false ∨ s.joins = [] ∧ l = .filter) := by
    intro hsome
    rw [← governing_lead htidy hhead hlast extendsWhere]
    constructor
    · rintro ⟨back, -, h⟩
      exact h
    · intro h
      refine ⟨s.tail o limit offset, ?_, h⟩
      rw [added, led_filterParts hsome]
      simp only [lead, String.append_assoc]
  -- What may follow the last clause of the head, by the clauses that the head has.
  have hjoinIff := horder.mayFollow_join_iff hlast hrank
  have hfilterIff := horder.mayFollow_filter_iff hlast hrank
  have hlastIff := horder.last_eq_filter_iff hlast hrank
  rw [hjoinIff, hfilterIff, hadded] at hselect
  rw [hlastIff] at hfilter
  show (∃ cs' ended', IsSelect (sql ++ s.added extendsWhere o limit offset) cs' ended' ∧
    InOrder cs') ∧ _ ↔ _
  rw [hselect, forall_congr' hfilter]
  -- What is left is about joins, conditions and the clauses of the head alone.
  clear hst hsql hone hhead horder hunpaged htidy hselect hfilter hadded
  clear hjoinIff hfilterIff hlastIff
  by_cases hjoins : s.joins = [] <;> by_cases hconditions : s.conditions = [] <;>
    cases extendsWhere <;> simp [hjoins, hconditions] <;> tauto

/-- Clauses over a filtered head. -/
def overFilter : Clauses where
  conditions := [⟨"b", .eq, .int 2⟩]
  order := [⟨"a", true⟩]
  customSql := .text "SELECT a FROM t WHERE c"

theorem overFilter_tidy : overFilter.Tidy where
  joins := by simp [overFilter]
  conditions := by
    intro c hc
    rw [List.mem_singleton.mp hc]
    exact ⟨_, rfl, by decide, rfl⟩
  order := by
    intro k hk
    rw [List.mem_singleton.mp hk]
    exact ⟨_, rfl, by decide, rfl⟩

theorem clause_order_over_filter :
    ∃ st, ((Compile.select .null overFilter .null).runFrom ⟨{}, []⟩).1 = .ok st ∧
      st.sql = "SELECT a FROM t WHERE c AND b = ? ORDER BY a ASC" ∧
      ∃ cs ended, IsSelect st.sql cs ended ∧ InOrder cs := by
  have hfound : Sql.inspect (.ofValue .null) "SELECT a FROM t WHERE c" = .single true := by
    decide +kernel
  obtain ⟨st, hst, hsql, -⟩ := exists_select_custom
    "SELECT a FROM t WHERE c AND b = ? ORDER BY a ASC" (s := overFilter) (d := .null) (o := {})
    (j := ⟨{}, []⟩) rfl (by decide) hfound (by decide +kernel)
  have hhead : IsSelect "SELECT a FROM t WHERE c" [.select, .source, .filter] false :=
    IsSelect.of_check (by decide +kernel)
  refine ⟨st, hst, hsql, ?_⟩
  refine ((clause_order_iff .null overFilter .null {} ⟨{}, []⟩ st _ _ false hst rfl
    (by rw [hfound]; decide) hhead (by unfold InOrder; decide) (by unfold Unpaged; decide)
    overFilter_tidy).mpr ⟨?_, ?_, fun _ => rfl⟩).1
  · exact fun h => absurd rfl h
  · intro _
    rw [hfound]
    decide

/-- Clauses over a head that is filtered and grouped. -/
def overGroups : Clauses where
  conditions := [⟨"b", .eq, .int 2⟩]
  customSql := .text "SELECT a FROM t WHERE c GROUP BY a"

/-- Over a head that is filtered and grouped a condition becomes part of the grouping. -/
theorem condition_in_grouping :
    IsSelect "SELECT a FROM t WHERE c GROUP BY a" [.select, .source, .filter, .grouping] false ∧
      InOrder [.select, .source, .filter, .grouping] ∧ overGroups.Tidy ∧
      ∃ st, ((Compile.select .null overGroups .null).runFrom ⟨{}, []⟩).1 = .ok st ∧
        st.sql = "SELECT a FROM t WHERE c GROUP BY a AND" ++ " " ++ overGroups.predicates ∧
        governing "SELECT a FROM t WHERE c GROUP BY a AND" = some .grouping := by
  have hfound : Sql.inspect (.ofValue .null) "SELECT a FROM t WHERE c GROUP BY a" =
      .single true := by
    decide +kernel
  obtain ⟨st, hst, hsql, -⟩ := exists_select_custom
    ("SELECT a FROM t WHERE c GROUP BY a AND" ++ " " ++ overGroups.predicates) (s := overGroups)
    (d := .null) (o := {}) (j := ⟨{}, []⟩) rfl (by decide) hfound (by decide +kernel)
  refine ⟨.of_check (by decide +kernel), by unfold InOrder; decide, ⟨?_, ?_, ?_⟩, st, hst, hsql,
    by decide +kernel⟩
  · simp [overGroups]
  · intro c hc
    rw [List.mem_singleton.mp hc]
    exact ⟨_, rfl, by decide, rfl⟩
  · simp [overGroups]

end Clauses

end FluentQuery
