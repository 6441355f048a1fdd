import FluentQuery.Proofs.Statement.Compiled

/-!
# Placeholders and bound values

Values are bound by position: the first value stands for the first `?` of the text, and so on. A
statement is safe to run if its placeholders are those of its conditions and nothing else, in the
order of the values. `placeholders_line_up` proves this of every statement that is compiled:

* **`marks`** — the number of placeholders in a text;
* **`Clauses.Unmarked`** — no fragment of the caller has a placeholder of its own;
* **`Statement.BindsInOrder`** — what the text and the values of a statement have to do with a list
  of conditions.
-/

namespace FluentQuery

/-- The number of placeholders in a text. -/
def marks (t : String) : Nat := t.toList.count '?'

theorem marks_append (s t : String) : marks (s ++ t) = marks s + marks t := by
  simp [marks, String.toList_append, List.count_append]

/-- The number of placeholders in several texts. -/
def marksAll : List String → Nat
  | [] => 0
  | t :: ts => marks t + marksAll ts

theorem marks_led {separator : String} (hsep : marks separator = 0) (ts : List String) :
    marks (led separator ts) = marksAll ts := by
  induction ts with
  | nil => rfl
  | cons t ts ih => simp [led, marksAll, marks_append, hsep, ih]

theorem marks_joinWith {separator : String} (hsep : marks separator = 0) (ts : List String) :
    marks (joinWith separator ts) = marksAll ts := by
  cases ts with
  | nil => rfl
  | cons t ts => simp [joinWith_cons, marksAll, marks_append, marks_led hsep]

theorem marks_intText (n : Int) : marks (intText n) = 0 := by
  have hdigits : (Nat.toDigits 10 n.natAbs).count '?' = 0 := by
    rw [List.count_eq_zero]
    intro hmem
    exact absurd (Nat.isDigit_of_mem_toDigits (by decide) (by decide) hmem) (by decide)
  unfold marks intText
  rw [String.toList_ofList]
  split
  · rw [List.count_cons, hdigits]
    rfl
  · exact hdigits

/-! ## Parts without placeholders -/

/-- No fragment of the caller has a placeholder of its own. -/
structure Clauses.Unmarked (s : Clauses) (table : Value) : Prop where
  table : ∀ t, tableText table = .ok t → marks t = 0
  selected : ∀ c ∈ s.selected, marks c = 0
  joins : ∀ k ∈ s.joins, marks k.table = 0 ∧ marks k.on = 0
  conditions : ∀ c ∈ s.conditions, marks c.column = 0
  order : ∀ k ∈ s.order, marks k.column = 0
  customSql : ∀ sql, customText s.customSql = .ok sql → marks sql = 0

/-- Each of several texts has no placeholder. -/
def AllUnmarked (ts : List String) : Prop := ∀ t ∈ ts, marks t = 0

theorem AllUnmarked.marksAll_eq_zero {ts : List String} (h : AllUnmarked ts) : marksAll ts = 0 := by
  induction ts with
  | nil => rfl
  | cons t ts ih =>
    rw [marksAll, h t List.mem_cons_self, ih fun u hu => h u (List.mem_cons_of_mem _ hu)]

theorem AllUnmarked.led {ts : List String} (h : AllUnmarked ts) : marks (led " " ts) = 0 := by
  rw [marks_led rfl, h.marksAll_eq_zero]

namespace Clauses

variable {s : Clauses} {table : Value}

theorem joinParts_unmarked (free : s.Unmarked table) : AllUnmarked s.joinParts := by
  intro t ht
  obtain ⟨k, hk, rfl⟩ := List.mem_map.mp ht
  obtain ⟨htable, hon⟩ := free.joins k hk
  cases k with
  | mk kind t on => cases kind <;> simp_all [Join.sql, JoinKind.symbol, marks_append] <;> decide

theorem orderParts_unmarked (free : s.Unmarked table) : AllUnmarked s.orderParts := by
  unfold orderParts
  split
  · exact fun t ht => absurd ht List.not_mem_nil
  · intro t ht
    rw [List.mem_singleton.mp ht, marks_append, marks_joinWith rfl, AllUnmarked.marksAll_eq_zero]
    · rfl
    · intro u hu
      obtain ⟨k, hk, rfl⟩ := List.mem_map.mp hu
      have hcolumn := free.order k hk
      unfold OrderItem.sql
      split <;> simp [marks_append, hcolumn] <;> decide

theorem boundTexts_unmarked {word : String} (hword : marks word = 0) (bound : Option Int) :
    AllUnmarked (boundTexts word bound) := by
  intro t ht
  obtain ⟨n, -, rfl⟩ := List.mem_map.mp ht
  rw [marks_append, marks_append, hword, marks_intText]
  rfl

/-- What follows the filter has no placeholder. -/
theorem tail_unmarked (free : s.Unmarked table) (o : Overrides) (limit offset : Option Int) :
    marks (s.tail o limit offset) = 0 := by
  have horder : AllUnmarked (if o.withOrder then s.orderParts else []) := by
    split
    · exact orderParts_unmarked free
    · exact fun t ht => absurd ht List.not_mem_nil
  unfold tail
  rw [marks_append, marks_append, horder.led, (boundTexts_unmarked rfl limit).led,
    (boundTexts_unmarked rfl offset).led]

theorem projection_unmarked (free : s.Unmarked table) : marks s.projection = 0 := by
  unfold projection
  split
  · rfl
  · rw [marks_joinWith rfl]
    exact AllUnmarked.marksAll_eq_zero free.selected

end Clauses

/-! ## Conditions in the middle of a text -/

theorem marks_conditionSql {c : Condition} (hcolumn : marks c.column = 0) : marks c.sql = 1 := by
  cases c with
  | mk column operator value =>
    cases operator <;>
      simp [Condition.sql, Operator.symbol, marks_append, show marks column = 0 from hcolumn] <;>
      decide

/-- Each condition has one placeholder. -/
theorem marks_conditionSqls {cs : List Condition} (hcolumns : ∀ c ∈ cs, marks c.column = 0) :
    marksAll (cs.map Condition.sql) = cs.length := by
  induction cs with
  | nil => rfl
  | cons c cs ih =>
    rw [List.map_cons, marksAll, List.length_cons,
      marks_conditionSql (hcolumns c List.mem_cons_self),
      ih fun d hd => hcolumns d (List.mem_cons_of_mem _ hd)]
    omega

/-- What stands in front of a text in a list, with as many placeholders as the list has so far. -/
theorem joinWith_split {separator : String} (hsep : marks separator = 0) (front : List String)
    (t : String) (back : List String) :
    ∃ lead, joinWith separator (front ++ t :: back) = lead ++ t ++ led separator back ∧
      marks lead = marksAll front := by
  cases front with
  | nil => exact ⟨"", by simp [joinWith_cons], rfl⟩
  | cons u front =>
    refine ⟨u ++ led separator front ++ separator, ?_, ?_⟩
    · rw [List.cons_append, joinWith_cons, led_append]
      simp [led, String.append_assoc]
    · rw [marks_append, marks_append, marks_led hsep, hsep]
      rfl

/-- A statement has the predicates of conditions one after the other between parts without
placeholders, and binds their values in the same order. -/
structure Statement.BindsInOrder (st : Statement) (cs : List Condition) : Prop where
  text : ∃ pre post,
    st.sql = pre ++
      joinWith " AND " (cs.map fun c => c.column ++ " " ++ c.operator.symbol ++ " ?") ++ post ∧
    marks pre = 0 ∧ marks post = 0
  params : st.params = cs.map fun c => c.value
  /-- There are as many placeholders as values. -/
  count : marks st.sql = st.params.length
  /-- The placeholder behind `k` others belongs to the condition that the value at `k` is of. -/
  place : ∀ k c, cs[k]? = some c →
    ∃ pre post, st.sql = pre ++ c.column ++ " " ++ c.operator.symbol ++ " ?" ++ post ∧
      marks (pre ++ c.column ++ " " ++ c.operator.symbol ++ " ") = k ∧
      st.params[k]? = some c.value

theorem Statement.BindsInOrder.of_text {st : Statement} {cs : List Condition} (pre post : String)
    (hcolumns : ∀ c ∈ cs, marks c.column = 0) (hparams : st.params = cs.map Condition.value)
    (hsql : st.sql = pre ++ joinWith " AND " (cs.map Condition.sql) ++ post)
    (hpre : marks pre = 0) (hpost : marks post = 0) : st.BindsInOrder cs where
  text := ⟨pre, post, hsql, hpre, hpost⟩
  params := hparams
  count := by
    rw [hsql, marks_append, marks_append, hpre, hpost, marks_joinWith rfl,
      marks_conditionSqls hcolumns, hparams, List.length_map]
    omega
  place := by
    intro k c hk
    obtain ⟨hlt, hget⟩ := List.getElem?_eq_some_iff.mp hk
    have hcs : cs = cs.take k ++ c :: cs.drop (k + 1) := by
      rw [← hget, List.getElem_cons_drop, List.take_append_drop]
    obtain ⟨lead, hlead, hmarks⟩ := joinWith_split (show marks " AND " = 0 from rfl)
      ((cs.take k).map Condition.sql) c.sql ((cs.drop (k + 1)).map Condition.sql)
    rw [← List.map_cons, ← List.map_append, ← hcs] at hlead
    rw [marks_conditionSqls fun d hd => hcolumns d (List.mem_of_mem_take hd),
      List.length_take, Nat.min_eq_left (by omega)] at hmarks
    refine ⟨pre ++ lead, led " AND " ((cs.drop (k + 1)).map Condition.sql) ++ post, ?_, ?_, ?_⟩
    · rw [hsql, hlead]
      simp [Condition.sql, String.append_assoc]
    · have hcolumn := hcolumns c (List.mem_of_getElem? hk)
      cases hop : c.operator <;>
        simp [marks_append, hpre, hmarks, hcolumn, Operator.symbol] <;> rfl
    · rw [hparams, List.getElem?_map, hk]
      rfl

/-! ## Every statement -/

namespace Clauses

variable {s : Clauses} {table : Value} {st : Statement}

/-- A text that ends in the filter lists the conditions, whatever follows without a placeholder. -/
theorem bindsInOrder_of_filter (free : s.Unmarked table) (front : String) (extendsWhere : Bool)
    (back : String) (hfront : marks front = 0) (hback : marks back = 0)
    (hsql : st.sql = front ++ led " " (s.filterParts extendsWhere) ++ back)
    (hparams : st.params = s.params) : st.BindsInOrder s.conditions := by
  cases hcs : s.conditions with
  | nil =>
    have hnone : s.filterParts extendsWhere = [] := by simp [filterParts, hcs]
    refine .of_text front back (by simp) (by rw [hparams, params, hcs]) ?_ hfront hback
    simp [hsql, hnone, led, joinWith]
  | cons c cs =>
    have hfilter : led " " (s.filterParts extendsWhere) =
        " " ++ ((if extendsWhere then "AND " else "WHERE ") ++ s.predicates) := by
      simp [filterParts, hcs, led]
    refine .of_text (front ++ " " ++ (if extendsWhere then "AND " else "WHERE ")) back
      (by rw [← hcs]; exact free.conditions) (by rw [hparams, params, hcs]) ?_ ?_ hback
    · rw [hsql, hfilter, ← hcs]
      simp [String.append_assoc, predicates]
    · rw [marks_append, marks_append, hfront]
      cases extendsWhere <;> decide

theorem selectOver_bindsInOrder (free : s.Unmarked table) {head : Head} {o : Overrides}
    (hhead : marks head.sql = 0) (h : s.selectOver head o = .ok st) :
    st.BindsInOrder s.conditions := by
  obtain ⟨limit, offset, -, -, rfl⟩ := selectOver_eq_ok h
  refine bindsInOrder_of_filter free (head.sql ++ led " " s.joinParts) head.extendsWhere
    (s.tail o limit offset) ?_ (tail_unmarked free o limit offset) rfl rfl
  rw [marks_append, hhead, (joinParts_unmarked free).led]

theorem ofCustomSql_unmarked {i : Sql.Inspection} {sql : String} (h : marks sql = 0) :
    marks (Head.ofCustomSql i s sql).sql = 0 := by
  unfold Head.ofCustomSql
  split
  · rw [marks_append, marks_append, h]
    rfl
  · exact h

theorem selectBy_bindsInOrder (free : s.Unmarked table) {inspector : Inspector} {o : Overrides}
    (h : s.selectBy inspector table o = .ok st) : st.BindsInOrder s.conditions := by
  unfold selectBy at h
  split at h
  · cases hsql : customText s.customSql with
    | error e => rw [hsql] at h; cases h
    | ok sql =>
      rw [hsql] at h
      exact selectOver_bindsInOrder free (ofCustomSql_unmarked (free.customSql sql hsql)) h
  · unfold selectFrom at h
    cases htable : tableText table with
    | error e => rw [htable] at h; cases h
    | ok t =>
      rw [htable] at h
      refine selectOver_bindsInOrder free ?_ h
      simp only [Head.ofTable, marks_append, projection_unmarked free, free.table t htable]
      rfl

/-- Dropping sort keys and bounds leaves no fragment that was not there. -/
theorem Unmarked.withoutPaging (free : s.Unmarked table) : s.withoutPaging.Unmarked .null where
  table := fun t ht => by cases ht
  selected := free.selected
  joins := free.joins
  conditions := free.conditions
  order := fun k hk => absurd hk List.not_mem_nil
  customSql := free.customSql

theorem countBy_bindsInOrder (free : s.Unmarked table) {inspector : Inspector}
    (h : s.countBy inspector table = .ok st) : st.BindsInOrder s.conditions := by
  unfold countBy at h
  split at h
  · cases hinner : s.withoutPaging.selectBy inspector .null { withOrder := false } with
    | error e => rw [hinner] at h; cases h
    | ok inner =>
      rw [hinner] at h
      cases h
      have hbinds := selectBy_bindsInOrder free.withoutPaging hinner
      obtain ⟨pre, post, hsql, hpre, hpost⟩ := hbinds.text
      replace hsql : inner.sql = pre ++ s.predicates ++ post := hsql
      refine .of_text ("SELECT COUNT(*) FROM (" ++ pre) (post ++ ") AS t") free.conditions
        hbinds.params ?_ ?_ ?_
      · show "SELECT COUNT(*) FROM (" ++ inner.sql ++ ") AS t" = _
        rw [hsql]
        simp only [String.append_assoc, predicates]
      · rw [marks_append, hpre]
        rfl
      · rw [marks_append, hpost]
        rfl
  · unfold countFrom at h
    cases htable : tableText table with
    | error e => rw [htable] at h; cases h
    | ok t =>
      rw [htable] at h
      cases h
      refine bindsInOrder_of_filter free
        ("SELECT COUNT(*) FROM " ++ t ++ led " " s.joinParts) false "" ?_ rfl ?_ rfl
      · rw [marks_append, marks_append, free.table t htable, (joinParts_unmarked free).led]
        rfl
      · simp [joinWith_cons, led_append, String.append_assoc]

theorem deleteFrom_bindsInOrder (free : s.Unmarked table) (h : s.deleteFrom table = .ok st) :
    st.BindsInOrder s.conditions := by
  unfold deleteFrom at h
  cases htable : tableText table with
  | error e => rw [htable] at h; cases h
  | ok t =>
    rw [htable] at h
    cases h
    refine bindsInOrder_of_filter free ("DELETE FROM " ++ t) false "" ?_ rfl ?_ rfl
    · rw [marks_append, free.table t htable]
      rfl
    · simp [joinWith_cons]

theorem statementBy_bindsInOrder (free : s.Unmarked table) {inspector : Inspector}
    {kind : StatementKind} (h : s.statementBy inspector table kind = .ok st) :
    st.BindsInOrder s.conditions := by
  cases kind with
  | select o => exact selectBy_bindsInOrder free h
  | count => exact countBy_bindsInOrder free h
  | delete => exact deleteFrom_bindsInOrder free h

/-- **Placeholders and values line up.** Where no fragment of the caller has a placeholder, every
statement has those of its conditions alone, in the order of the values: whatever calls made the
clauses, whatever is said of custom SQL, and so also for what compiling gives in any state of the
settings. -/
theorem placeholders_line_up (s : Clauses) (table : Value) (kind : StatementKind)
    (free : s.Unmarked table) :
    (∀ (inspector : Inspector) (st : Statement),
      s.statementBy inspector table kind = .ok st → st.BindsInOrder s.conditions) ∧
    ∀ (d : Value) (j : Journaled Configuration) (st : Statement),
      ((Compile.statement d s table kind).runFrom j).1 = .ok st →
        st.BindsInOrder s.conditions := by
  refine ⟨fun inspector st h => statementBy_bindsInOrder free h, fun d j st h => ?_⟩
  rw [Compile.statement_outcome] at h
  exact statementBy_bindsInOrder free (Compile.underSettings_eq_ok h).1

/-- Clauses over a union, with a join and two conditions of which one value looks like a
placeholder. -/
def overUnion : Clauses where
  conditions := [⟨"t.size", .gt, .int 3⟩, ⟨"u.name", .like, .text "a?"⟩]
  joins := [⟨.left, "u", "u.id = t.id"⟩]
  order := [⟨"t.id", true⟩]
  limit := some 5
  customSql := .text "SELECT * FROM a UNION SELECT * FROM b"

/-- The text that counts the rows of `overUnion`. -/
def overUnionCounted : String :=
  "SELECT COUNT(*) FROM (SELECT * FROM (SELECT * FROM a UNION SELECT * FROM b) AS t " ++
    "LEFT JOIN u ON u.id = t.id WHERE t.size > ? AND u.name LIKE ?) AS t"

theorem placeholders_line_up_over_union :
    overUnion.Unmarked .null ∧
      ∃ st, overUnion.statementBy (fun _ => .setOperation) .null .count = .ok st ∧
        st.sql = overUnionCounted ∧ st.BindsInOrder overUnion.conditions := by
  have free : overUnion.Unmarked .null := by
    refine ⟨fun t ht => (by cases ht), ?_, ?_, ?_, ?_, ?_⟩
    · exact fun c hc => absurd hc List.not_mem_nil
    · decide
    · decide
    · decide
    · intro sql hsql
      cases hsql
      decide
  have hsql : (overUnion.statementBy (fun _ => .setOperation) .null .count).toOption.map
      Statement.sql = some overUnionCounted := by decide +kernel
  obtain ⟨st, hst, hsql⟩ := Statement.exists_of_sql hsql
  exact ⟨free, st, hst, hsql, (placeholders_line_up overUnion .null .count free).1 _ st hst⟩

end Clauses

end FluentQuery
