import FluentQuery.Proofs.CustomSql.Rendered
import FluentQuery.Proofs.Reading.Filter

/-!
# Conditions over a filter of custom SQL

Custom SQL that ends in a filter is gone on with: the conditions come behind it, each after an AND.
AND binds more closely than OR, so the conditions belong to the last alternative of the filter
alone. Where the filter is one alternative the statement gives the rows for which both the filter
and the conditions are true. Where there are several, a row for which an earlier one is true is
given whatever the conditions say.

`restricts_iff` says for every filter and every row when the conditions restrict it.
`alternative_escapes` is a filter and a row for which they do not.
-/

namespace FluentQuery

open Reading

/-- The lexemes of a condition with its value. -/
def Condition.bound (c : Condition) : List Lexeme :=
  lexemesOf c.column ++ lexemesOf c.operator.symbol ++ [.value c.value]

/-- The columns of the caller have no placeholders, and those of conditions no connectives. -/
structure Clauses.Comparing (s : Clauses) : Prop where
  conditions : ∀ c ∈ s.conditions,
    Unbound (lexemesOf c.column) ∧ ∀ x ∈ lexemesOf c.column, x.isConnective = false
  order : ∀ k ∈ s.order, Unbound (lexemesOf k.column)

/-! ## Conditions as atoms -/

theorem Condition.bound_operand {c : Condition}
    (hcolumn : ∀ x ∈ lexemesOf c.column, x.isConnective = false) : Operand c.bound where
  plain := by
    intro x hx
    have hsymbol : ∀ y ∈ lexemesOf c.operator.symbol, y.isConnective = false := by
      cases c.operator <;> decide
    simp only [bound, List.mem_append, List.mem_singleton] at hx
    rcases hx with (hx | hx) | rfl
    · exact hcolumn x hx
    · exact hsymbol x hx
    · rfl
  long := by
    have hsymbol : 1 ≤ (lexemesOf c.operator.symbol).length := by
      cases c.operator <;> decide
    simp only [bound, List.length_append, List.length_singleton]
    omega

theorem Condition.binds {c : Condition} (hcolumn : Unbound (lexemesOf c.column)) :
    Binds [c.value] (c.lexemes.map .part) (c.bound.map .part) := by
  have hsymbol : Unbound (lexemesOf c.operator.symbol) := by
    cases c.operator <;> exact rfl
  have hall := ((Binds.parts hcolumn).append (Binds.parts hsymbol)).append
    (Binds.placeholder c.value)
  simpa [lexemes, bound] using hall

/-- Conditions behind ANDs take their values in order. -/
theorem conditions_bind {cs : List Condition} (h : ∀ c ∈ cs, Unbound (lexemesOf c.column)) :
    Binds (cs.map Condition.value)
      ((cs.flatMap fun c => andLexeme :: c.lexemes).map .part)
      ((cs.flatMap fun c => andLexeme :: c.bound).map .part) := by
  have hand : Binds [] [.part andLexeme] [.part andLexeme] := fun _ => rfl
  have hall := Binds.flatMap fun c hc => hand.append (Condition.binds (h c hc))
  rw [List.map_eq_flatMap]
  simpa [List.map_flatMap] using hall

/-! ## Sort keys and bounds -/

theorem orderItems_bind {ks : List OrderItem} (h : ∀ k ∈ ks, Unbound (lexemesOf k.column)) :
    Binds [] (orderItems ks) (orderItems ks) := by
  have hkey : ∀ k ∈ ks, Binds [] (k.lexemes.map .part) (k.lexemes.map .part) := by
    intro k hk
    have hdirection : Unbound (lexemesOf (if k.ascending then "ASC" else "DESC")) := by
      cases k.ascending <;> exact rfl
    have hall := (Binds.parts (h k hk)).append (Binds.parts hdirection)
    simpa [OrderItem.lexemes] using hall
  cases ks with
  | nil => exact fun _ => rfl
  | cons k ks =>
    have hcomma : Binds [] [.part (.mark ',')] [.part (.mark ',')] := fun _ => rfl
    have hrest := Binds.flatMap_none fun k' hk' =>
      hcomma.append (hkey k' (List.mem_cons_of_mem k hk'))
    have hall := ((Binds.clause .order).append (hkey k List.mem_cons_self)).append hrest
    simpa [orderItems] using hall

theorem intText_unbound (n : Int) : Unbound (lexemesOf (intText n)) := by
  obtain ⟨c, cs, -, hread⟩ := intText_readsAs n
  have hlexemes := congrArg (Option.getD · []) hread
  rw [lexemesOf, hlexemes]
  split <;> rfl

theorem boundItems_bind (c : Clause) (bound : Option Int) :
    Binds [] (boundItems c bound) (boundItems c bound) := by
  apply Binds.flatMap_none
  intro n _
  exact (Binds.clause c).append (Binds.parts (intText_unbound n))

namespace Clauses

variable {s : Clauses}

theorem tailItems_bind (h : s.Comparing) (o : Overrides) (limit offset : Option Int) :
    Binds [] (s.tailItems o limit offset) (s.tailItems o limit offset) := by
  have horder : Binds [] (if o.withOrder then orderItems s.order else [])
      (if o.withOrder then orderItems s.order else []) := by
    split
    · exact orderItems_bind h.order
    · exact fun _ => rfl
  exact (horder.append (boundItems_bind .limit limit)).append (boundItems_bind .offset offset)

/-- No sort key or bound goes on with the clause in front of it. -/
theorem leading_tailItems (s : Clauses) (o : Overrides) (limit offset : Option Int) :
    leading (s.tailItems o limit offset) = [] := by
  unfold tailItems
  cases o.withOrder <;> cases s.order <;> cases limit <;> cases offset <;> rfl

/-! ## The filter that is gone on with -/

theorem addedItems_of_conditions (hjoins : s.joins = []) (hsome : s.conditions ≠ [])
    (o : Overrides) (limit offset : Option Int) :
    s.addedItems true o limit offset =
      (s.conditions.flatMap fun c => andLexeme :: c.lexemes).map .part ++
        s.tailItems o limit offset := by
  unfold addedItems filterItems
  cases hcs : s.conditions with
  | nil => exact absurd hcs hsome
  | cons c cs =>
    rw [hjoins]
    rfl

/-- **Conditions over a filter of custom SQL.** Let the head of a statement be one SELECT statement
that ends in a filter, with a combination of atoms that can be read and no placeholder, and let the
inspection find the filter. Then the filter of the statement that is compiled over conditions alone
can be read with the values that it binds, and for each row

* it is true if an alternative of the head's filter in front of the last one is, or if the filter of
  the head and all conditions are;
* so it is true just where the filter of the head and all conditions are exactly if the conditions
  are true wherever one of those alternatives is. -/
theorem restricts_iff (d : Value) (s : Clauses) (table : Value) (o : Overrides)
    (j : Journaled Configuration) (st : Statement) (sql : String) (cs : List Clause)
    (alts : List Formula) (hst : ((Compile.select d s table o).runFrom j).1 = .ok st)
    (hsql : s.customSql = .text sql) (hfound : Sql.inspect (.ofValue d) sql = .single true)
    (hhead : IsSelect sql (cs ++ [.filter]) false) (horder : InOrder (cs ++ [.filter]))
    (hread : filterOf sql [] = some alts) (hjoins : s.joins = []) (hsome : s.conditions ≠ [])
    (htidy : s.Tidy) (hcomparing : s.Comparing) :
    ∃ alts', filterOf st.sql st.params = some alts' ∧ ∀ row : Valuation,
      ((Formula.any alts').truth row = .yes ↔
        (∃ f ∈ alts.dropLast, f.truth row = .yes) ∨
          (Formula.any alts).truth row = .yes ∧ ∀ c ∈ s.conditions, row c.bound = .yes) ∧
      (((Formula.any alts').truth row = .yes ↔
          (Formula.any alts).truth row = .yes ∧ ∀ c ∈ s.conditions, row c.bound = .yes) ↔
        ((∃ f ∈ alts.dropLast, f.truth row = .yes) →
          ∀ c ∈ s.conditions, row c.bound = .yes)) := by
  obtain ⟨limit, offset, rfl⟩ := select_over_custom hst hsql hhead.ne_empty
    (by rw [hfound]; decide)
  obtain ⟨its, hholds, hopens, -⟩ := hhead
  rw [if_neg Bool.false_ne_true, List.append_nil] at hholds
  -- The head binds nothing, so the values are left for the conditions.
  have hbinds := binds_of_filterOf hholds hread
  rw [filterOf_of_binds hholds hbinds] at hread
  obtain ⟨front, ls, rfl, hfront⟩ := hopens.exists_content
  have hnone : .filter ∉ clauseList front := by
    rw [hfront]
    exact horder.not_mem_front (by decide)
  have hcontent : contentOf .filter (front ++ .opens .filter :: (ls.map .part ++ [])) = ls :=
    contentOf_append hnone ls rfl
  rw [List.append_nil] at hcontent
  rw [hcontent] at hread
  -- What is added goes on with the filter of the head, up to the sort keys.
  have hadded := added_appends htidy true o limit offset _ _ hholds
  rw [addedItems_of_conditions hjoins hsome] at hadded
  have hboth := hbinds.append ((conditions_bind fun c hc => (hcomparing.conditions c hc).1).append
    (tailItems_bind hcomparing o limit offset))
  rw [List.nil_append, List.append_nil] at hboth
  have hfilter := filterOf_of_binds hadded hboth
  have hlonger := contentOf_append hnone
    (ls ++ s.conditions.flatMap fun c => andLexeme :: c.bound)
    (leading_tailItems s o limit offset)
  rw [List.map_append, List.append_assoc] at hlonger
  rw [List.append_assoc, List.cons_append, hlonger] at hfilter
  have hoperands : ∀ x ∈ s.conditions.map Condition.bound, Operand x := by
    intro x hx
    obtain ⟨c, hc, rfl⟩ := List.mem_map.mp hx
    exact Condition.bound_operand (hcomparing.conditions c hc).2
  obtain ⟨earlier, fs, rfl, hlast⟩ := alternatives_append hoperands hread
  rw [List.flatMap_map] at hlast
  rw [hlast] at hfilter
  rw [hfound]
  refine ⟨_, hfilter, fun row => ?_⟩
  have hall : (Formula.all (fs ++ (s.conditions.map Condition.bound).map .atom)).truth row = .yes ↔
      (Formula.all fs).truth row = .yes ∧ ∀ c ∈ s.conditions, row c.bound = .yes := by
    simp [Formula.all_eq_yes, or_imp, forall_and, Formula.truth_atom]
  rw [Formula.any_concat_eq_yes, Formula.any_concat_eq_yes, hall, List.dropLast_concat]
  -- The conditions are missing from the earlier alternatives, and from these alone.
  generalize (∃ f ∈ earlier, f.truth row = .yes) = early
  generalize (∀ c ∈ s.conditions, row c.bound = .yes) = added
  tauto

/-- Clauses with one condition over custom SQL. -/
def overAlternatives (sql : String) : Clauses where
  conditions := [⟨"d", .eq, .int 3⟩]
  customSql := .text sql

theorem overAlternatives_tidy (sql : String) : (overAlternatives sql).Tidy where
  joins := by simp [overAlternatives]
  conditions := by
    intro c hc
    rw [List.mem_singleton.mp hc]
    exact ⟨_, rfl, by decide, rfl⟩
  order := by simp [overAlternatives]

theorem overAlternatives_comparing (sql : String) : (overAlternatives sql).Comparing where
  conditions := by
    intro c hc
    rw [List.mem_singleton.mp hc]
    exact ⟨rfl, by decide⟩
  order := by simp [overAlternatives]

theorem restricts_bracketed :
    ∃ st alts alts',
      ((Compile.select .null (overAlternatives "SELECT a FROM t WHERE (b OR c)") .null).runFrom
        ⟨{}, []⟩).1 = .ok st ∧
      st.sql = "SELECT a FROM t WHERE (b OR c) AND d = ?" ∧
      filterOf "SELECT a FROM t WHERE (b OR c)" [] = some alts ∧
      filterOf st.sql st.params = some alts' ∧
      ∀ row : Valuation, (Formula.any alts').truth row = .yes ↔
        (Formula.any alts).truth row = .yes ∧
          row (Condition.mk "d" .eq (.int 3)).bound = .yes := by
  have hfound : Sql.inspect (.ofValue .null) "SELECT a FROM t WHERE (b OR c)" = .single true := by
    decide +kernel
  have hone : (filterOf "SELECT a FROM t WHERE (b OR c)" []).map List.length = some 1 := by
    decide +kernel
  obtain ⟨st, hst, hsql, -⟩ := exists_select_custom "SELECT a FROM t WHERE (b OR c) AND d = ?"
    (s := overAlternatives "SELECT a FROM t WHERE (b OR c)") (d := .null) (o := {})
    (j := ⟨{}, []⟩) rfl (by decide) hfound (by decide +kernel)
  obtain ⟨alts, hread, hlength⟩ := Option.map_eq_some_iff.mp hone
  obtain ⟨f, rfl⟩ := List.length_eq_one_iff.mp hlength
  have hhead : IsSelect "SELECT a FROM t WHERE (b OR c)" ([.select, .source] ++ [.filter]) false :=
    IsSelect.of_check (by decide +kernel)
  obtain ⟨alts', hread', hrows⟩ := restricts_iff .null
    (overAlternatives "SELECT a FROM t WHERE (b OR c)") .null {} ⟨{}, []⟩ st _ _ [f] hst rfl hfound
    hhead (by unfold InOrder; decide) hread rfl (List.cons_ne_nil _ _) (overAlternatives_tidy _)
    (overAlternatives_comparing _)
  refine ⟨st, [f], alts', hst, hsql, hread, hread', fun row => ?_⟩
  have hrow := (hrows row).2.mpr fun ⟨g, hg, _⟩ => absurd hg List.not_mem_nil
  rw [hrow]
  simp [overAlternatives]

/-- A row for which the first of two atoms is all that is true. -/
def firstAlone : Valuation
  | [.word ['b']] => .yes
  | _ => .no

/-- Over two alternatives a row is given for which the condition is not true. -/
theorem alternative_escapes :
    IsSelect "SELECT a FROM t WHERE b OR c" ([.select, .source] ++ [.filter]) false ∧
      Sql.inspect (.ofValue .null) "SELECT a FROM t WHERE b OR c" = .single true ∧
      ∃ st alts, ((Compile.select .null (overAlternatives "SELECT a FROM t WHERE b OR c")
          .null).runFrom ⟨{}, []⟩).1 = .ok st ∧
        st.sql = "SELECT a FROM t WHERE b OR c AND d = ?" ∧
        filterOf st.sql st.params = some alts ∧ (Formula.any alts).truth firstAlone = .yes ∧
        ¬∀ c ∈ (overAlternatives "SELECT a FROM t WHERE b OR c").conditions,
          firstAlone c.bound = .yes := by
  have hfound : Sql.inspect (.ofValue .null) "SELECT a FROM t WHERE b OR c" = .single true := by
    decide +kernel
  have hescapes : (filterOf "SELECT a FROM t WHERE b OR c AND d = ?" [.int 3]).map
      (fun alts => (Formula.any alts).truth firstAlone) = some .yes := by
    decide +kernel
  obtain ⟨st, hst, hsql, hparams⟩ := exists_select_custom "SELECT a FROM t WHERE b OR c AND d = ?"
    (s := overAlternatives "SELECT a FROM t WHERE b OR c") (d := .null) (o := {})
    (j := ⟨{}, []⟩) rfl (by decide) hfound (by decide +kernel)
  obtain ⟨alts, hread, htrue⟩ := Option.map_eq_some_iff.mp hescapes
  rw [← hsql] at hread
  refine ⟨.of_check (by decide +kernel), hfound, st, alts, hst, hsql, ?_, htrue, fun h => ?_⟩
  · rw [hparams]
    exact hread
  · exact absurd (h ⟨"d", .eq, .int 3⟩ List.mem_cons_self) (by decide)

end Clauses

end FluentQuery
