import FluentQuery.Proofs.Reading.Clause

/-!
# How rendered clauses are read

The builder writes joins, conditions, sort keys and bounds behind a head. Where the texts of the
caller in them are *tidy* — neither opening a clause nor ending a statement — each is read as the
clause it was made for, whatever the head is. The items that a clause adds are given by a function
beside the one that renders it, and the two are joined by an `Appends`. `select_over_custom` says
that a statement over custom SQL which is no set operation is the custom SQL and these clauses.
-/

namespace FluentQuery

open Reading

/-- The texts of the caller in the clauses are fragments. -/
structure Clauses.Tidy (s : Clauses) : Prop where
  joins : ∀ k ∈ s.joins, Fragment k.table ∧ Fragment k.on
  conditions : ∀ c ∈ s.conditions, Fragment c.column
  order : ∀ k ∈ s.order, Fragment k.column

/-! ## Joins -/

/-- The items of a join. -/
def Join.items (k : Join) : List Item :=
  [.part (.word k.kind.symbol.toList), .opens .join] ++ (lexemesOf k.table).map .part ++
    [.part (.word ['O', 'N'])] ++ (lexemesOf k.on).map .part

theorem Join.holds {k : Join} (htable : Fragment k.table) (hon : Fragment k.on) :
    Holds k.sql k.items := by
  have hword : Holds (k.kind.symbol ++ " " ++ "JOIN")
      [.part (.word k.kind.symbol.toList), .opens .join] := by
    cases k.kind <;> exact ⟨_, rfl, by decide, rfl⟩
  have hmiddle : Holds "ON" [.part (.word ['O', 'N'])] :=
    ⟨_, rfl, by decide, rfl⟩
  have hsql : k.sql = k.kind.symbol ++ " " ++ "JOIN" ++ " " ++ k.table ++ " " ++ "ON" ++ " " ++
      k.on := by
    -- Rendering writes the blanks with the words; reading needs them apart.
    have hjoin : " JOIN " = " " ++ "JOIN" ++ " " := rfl
    have hon : " ON " = " " ++ "ON" ++ " " := rfl
    unfold Join.sql
    rw [hjoin, hon]
    simp only [String.append_assoc]
  rw [hsql]
  exact ((hword.append htable).append hmiddle).append hon

/-! ## Numbers -/

/-- A number opens no clause. -/
theorem intText_fragment (n : Int) : Fragment (intText n) := by
  obtain ⟨c, cs, hc, hread⟩ := intText_readsAs n
  have hitem : item (.word (c :: cs)) = .part (.word (c :: cs)) := by
    have hletters : ∀ e ∈ clauseWords, (e.1.toList.head?.all fun l => !l.isDigit) = true := by
      decide
    have hnone : clauseWords.find? (fun e => spells e.1 (c :: cs)) = none := by
      rw [List.find?_eq_none]
      intro e he
      rw [spells_digits hc (hletters e he)]
      exact Bool.false_ne_true
    simp [item, hnone]
  have hfree : StartsFree [.word (c :: cs)] := by
    intro y hy
    cases hy
    show (spells "BY" (c :: cs) || spells "FROM" (c :: cs)) = false
    rw [spells_digits hc rfl, spells_digits hc rfl]
    rfl
  have hlexemes := congrArg (Option.getD · []) hread
  unfold Fragment
  rw [lexemesOf, hlexemes]
  refine ⟨_, hread, ?_, ?_⟩
  · split
    · exact fun y hy => by cases hy; rfl
    · exact hfree
  · split
    · show [item (.mark '-'), item (.word (c :: cs))] = _
      rw [hitem]
      rfl
    · show [item (.word (c :: cs))] = _
      rw [hitem]
      rfl

/-! ## Conditions -/

/-- The lexemes of a condition. -/
def Condition.lexemes (c : Condition) : List Lexeme :=
  lexemesOf c.column ++ lexemesOf c.operator.symbol ++ [.mark '?']

/-- The lexemes of conditions with AND between them. -/
def predicateLexemes : List Condition → List Lexeme
  | [] => []
  | c :: cs => c.lexemes ++ cs.flatMap fun c => andLexeme :: c.lexemes

theorem Condition.holds {c : Condition} (hcolumn : Fragment c.column) :
    Holds c.sql (c.lexemes.map .part) := by
  have hsymbol : Fragment c.operator.symbol := by
    cases c.operator <;> exact ⟨_, rfl, by decide, rfl⟩
  have hmark : Holds "?" [.part (.mark '?')] := ⟨_, rfl, by decide, rfl⟩
  have hsql : c.sql = c.column ++ " " ++ c.operator.symbol ++ " " ++ "?" := by
    have : " ?" = " " ++ "?" := rfl
    unfold Condition.sql
    rw [this]
    simp only [String.append_assoc]
  have hall := (Holds.append hcolumn hsymbol).append hmark
  rw [hsql]
  simpa [Condition.lexemes] using hall

namespace Clauses

variable {s : Clauses}

theorem joins_appends (h : s.Tidy) : Appends (led " " s.joinParts) (s.joins.flatMap Join.items) :=
  Appends.led fun k hk => Appends.blank (Join.holds (h.joins k hk).1 (h.joins k hk).2)

theorem and_appends : Appends " AND" [.part andLexeme] :=
  Appends.blank (b := "AND") ⟨_, rfl, by decide, rfl⟩

theorem where_appends : Appends " WHERE" [.opens .filter] :=
  Appends.blank (b := "WHERE") ⟨_, rfl, by decide, rfl⟩

theorem predicates_appends (h : s.Tidy) (hsome : s.conditions ≠ []) :
    Appends (" " ++ s.predicates) ((predicateLexemes s.conditions).map .part) := by
  have hcolumns := h.conditions
  unfold predicates
  cases hcs : s.conditions with
  | nil => exact absurd hcs hsome
  | cons c cs =>
    rw [hcs] at hcolumns
    have hfirst := Appends.blank (Condition.holds (hcolumns c List.mem_cons_self))
    have hrest : Appends (led " AND " (cs.map Condition.sql))
        (cs.flatMap fun c => (andLexeme :: c.lexemes).map .part) := by
      apply Appends.led
      intro d hd
      have hd := Appends.blank (Condition.holds (hcolumns d (List.mem_cons_of_mem _ hd)))
      have hboth := and_appends.append hd
      rwa [← String.append_assoc] at hboth
    have hall := hfirst.append hrest
    rw [List.map_cons, joinWith_cons, ← String.append_assoc]
    simpa [predicateLexemes, List.map_flatMap] using hall

/-- What leads to the conditions: the word that starts a filter, or the one that goes on with it. -/
def filterWord (extendsWhere : Bool) : String := if extendsWhere then " AND" else " WHERE"

/-- The items of the filter. -/
def filterItems (s : Clauses) (extendsWhere : Bool) : List Item :=
  if s.conditions.isEmpty then []
  else
    (if extendsWhere then .part andLexeme else .opens .filter) ::
      (predicateLexemes s.conditions).map .part

theorem filterWord_appends (extendsWhere : Bool) :
    Appends (filterWord extendsWhere)
      [if extendsWhere then .part andLexeme else .opens .filter] := by
  cases extendsWhere
  · exact where_appends
  · exact and_appends

theorem led_filterParts (hsome : s.conditions ≠ []) (extendsWhere : Bool) :
    led " " (s.filterParts extendsWhere) = filterWord extendsWhere ++ (" " ++ s.predicates) := by
  have hand : "AND " = "AND" ++ " " := rfl
  have hwhere : "WHERE " = "WHERE" ++ " " := rfl
  have hne : s.conditions.isEmpty = false := by simpa using hsome
  unfold filterParts filterWord
  rw [hne, hand, hwhere]
  cases extendsWhere <;> simp [led, ← String.append_assoc]

theorem filter_appends (h : s.Tidy) (extendsWhere : Bool) :
    Appends (led " " (s.filterParts extendsWhere)) (s.filterItems extendsWhere) := by
  by_cases hsome : s.conditions = []
  · simpa [filterParts, filterItems, hsome, led] using Appends.nil
  · have hne : s.conditions.isEmpty = false := by simpa using hsome
    rw [led_filterParts hsome, filterItems, hne]
    exact (filterWord_appends extendsWhere).append (predicates_appends h hsome)

end Clauses

/-! ## Sort keys and bounds -/

/-- The lexemes of a sort key. -/
def OrderItem.lexemes (k : OrderItem) : List Lexeme :=
  lexemesOf k.column ++ lexemesOf (if k.ascending then "ASC" else "DESC")

theorem OrderItem.holds {k : OrderItem} (hcolumn : Fragment k.column) :
    Holds k.sql (k.lexemes.map .part) := by
  have hdirection : Fragment (if k.ascending then "ASC" else "DESC") := by
    cases k.ascending <;> exact ⟨_, rfl, by decide, rfl⟩
  have hall := Holds.append hcolumn hdirection
  simpa [OrderItem.sql, OrderItem.lexemes] using hall

/-- The items of sort keys. -/
def orderItems : List OrderItem → List Item
  | [] => []
  | k :: ks =>
    .opens .order :: (k.lexemes.map .part ++
      ks.flatMap fun k => (.mark ',' :: k.lexemes).map .part)

/-- The items of a bound. -/
def boundItems (c : Clause) (bound : Option Int) : List Item :=
  bound.toList.flatMap fun n => .opens c :: (lexemesOf (intText n)).map .part

theorem boundTexts_appends {word : String} {c : Clause} (hword : Holds word [.opens c])
    (bound : Option Int) : Appends (led " " (boundTexts word bound)) (boundItems c bound) :=
  Appends.led fun n _ => Appends.blank (hword.append (intText_fragment n))

namespace Clauses

variable {s : Clauses}

theorem order_appends (h : s.Tidy) : Appends (led " " s.orderParts) (orderItems s.order) := by
  have hcolumns := h.order
  unfold orderParts
  cases hks : s.order with
  | nil => exact Appends.nil
  | cons k ks =>
    rw [hks] at hcolumns
    have hword : Holds ("ORDER" ++ " " ++ "BY") [.opens .order] :=
      ⟨_, rfl, by decide, rfl⟩
    have hfirst := Appends.blank
      (hword.append (OrderItem.holds (hcolumns k List.mem_cons_self)))
    have hrest : Appends (led ", " (ks.map OrderItem.sql))
        (ks.flatMap fun k => (.mark ',' :: k.lexemes).map .part) :=
      Appends.led fun d hd =>
        Appends.comma (OrderItem.holds (hcolumns d (List.mem_cons_of_mem _ hd)))
    have hall := hfirst.append hrest
    have horder : "ORDER BY " = "ORDER" ++ " " ++ "BY" ++ " " := rfl
    have htext : led " " ["ORDER BY " ++ joinWith ", " ((k :: ks).map OrderItem.sql)] =
        " " ++ ("ORDER" ++ " " ++ "BY" ++ " " ++ k.sql) ++ led ", " (ks.map OrderItem.sql) := by
      rw [List.map_cons, joinWith_cons, horder]
      simp only [led, String.append_assoc, String.append_empty]
    show Appends (led " " ["ORDER BY " ++ joinWith ", " ((k :: ks).map OrderItem.sql)]) _
    rw [htext]
    exact hall

/-- The items of sort keys and bounds. -/
def tailItems (s : Clauses) (o : Overrides) (limit offset : Option Int) : List Item :=
  (if o.withOrder then orderItems s.order else []) ++ boundItems .limit limit ++
    boundItems .offset offset

theorem tail_appends (h : s.Tidy) (o : Overrides) (limit offset : Option Int) :
    Appends (s.tail o limit offset) (s.tailItems o limit offset) := by
  have horder : Appends (led " " (if o.withOrder then s.orderParts else []))
      (if o.withOrder then orderItems s.order else []) := by
    split
    · exact order_appends h
    · exact Appends.nil
  have hlimit : Holds "LIMIT" [.opens .limit] := ⟨_, rfl, by decide, rfl⟩
  have hoffset : Holds "OFFSET" [.opens .offset] := ⟨_, rfl, by decide, rfl⟩
  exact (horder.append (boundTexts_appends hlimit limit)).append
    (boundTexts_appends hoffset offset)

/-! ## All that is added -/

/-- What a statement has behind its head. -/
def added (s : Clauses) (extendsWhere : Bool) (o : Overrides) (limit offset : Option Int) :
    String :=
  led " " s.joinParts ++ led " " (s.filterParts extendsWhere) ++ s.tail o limit offset

/-- The items of what a statement has behind its head. -/
def addedItems (s : Clauses) (extendsWhere : Bool) (o : Overrides) (limit offset : Option Int) :
    List Item :=
  s.joins.flatMap Join.items ++ s.filterItems extendsWhere ++ s.tailItems o limit offset

theorem added_appends (h : s.Tidy) (extendsWhere : Bool) (o : Overrides)
    (limit offset : Option Int) :
    Appends (s.added extendsWhere o limit offset) (s.addedItems extendsWhere o limit offset) :=
  ((joins_appends h).append (filter_appends h extendsWhere)).append (tail_appends h o limit offset)

/-- The clauses that sort keys and bounds open. -/
def tailClauses (s : Clauses) (o : Overrides) (limit offset : Option Int) :
    List Clause :=
  (if o.withOrder && !s.order.isEmpty then [.order] else []) ++
    limit.toList.map (fun _ => .limit) ++ offset.toList.map fun _ => .offset

/-- The clauses that follow a head. -/
def addedClauses (s : Clauses) (extendsWhere : Bool) (o : Overrides) (limit offset : Option Int) :
    List Clause :=
  s.joins.map (fun _ => .join) ++
    (if s.conditions.isEmpty || extendsWhere then [] else [.filter]) ++
      s.tailClauses o limit offset

theorem filterItems_opens (extendsWhere : Bool) :
    Opens (s.filterItems extendsWhere)
      (if s.conditions.isEmpty || extendsWhere then [] else [.filter]) := by
  unfold filterItems
  cases s.conditions.isEmpty with
  | true => exact Opens.nil
  | false =>
    cases extendsWhere with
    | true => exact Opens.parts (andLexeme :: predicateLexemes s.conditions)
    | false => exact (Opens.clause .filter).append (Opens.parts (predicateLexemes s.conditions))

theorem orderItems_opens (ks : List OrderItem) :
    Opens (orderItems ks) (if ks.isEmpty then [] else [.order]) := by
  cases ks with
  | nil => exact Opens.nil
  | cons k ks =>
    have hall := (Opens.clause .order).append
      (Opens.parts (k.lexemes ++ ks.flatMap fun k => .mark ',' :: k.lexemes))
    simpa [orderItems, List.map_flatMap] using hall

theorem boundItems_opens (c : Clause) (bound : Option Int) :
    Opens (boundItems c bound) (bound.toList.map fun _ => c) :=
  Opens.flatMap fun n => (Opens.clause c).append (Opens.parts (lexemesOf (intText n)))

theorem joins_opens (joins : List Join) :
    Opens (joins.flatMap Join.items) (joins.map fun _ => .join) := by
  apply Opens.flatMap
  intro k
  have hall := (((Opens.parts [.word k.kind.symbol.toList]).append (Opens.clause .join)).append
    (Opens.parts (lexemesOf k.table))).append (Opens.parts (.word ['O', 'N'] :: lexemesOf k.on))
  simpa [Join.items] using hall

/-- What follows a head opens the clauses that were accumulated, in the order of SQL. -/
theorem addedItems_opens (extendsWhere : Bool) (o : Overrides) (limit offset : Option Int) :
    Opens (s.addedItems extendsWhere o limit offset)
      (s.addedClauses extendsWhere o limit offset) := by
  have horder : Opens (if o.withOrder then orderItems s.order else [])
      (if o.withOrder && !s.order.isEmpty then [.order] else []) := by
    have hitems := orderItems_opens s.order
    cases o.withOrder with
    | false => exact Opens.nil
    | true => cases hks : s.order <;> simpa [hks] using hitems
  exact ((joins_opens s.joins).append (filterItems_opens extendsWhere)).append
    ((horder.append (boundItems_opens .limit limit)).append (boundItems_opens .offset offset))

/-! ## The statement over custom SQL -/

/-- Over custom SQL the statement is the one over the head that the inspection gives. -/
theorem select_custom {sql : String} (hsql : s.customSql = .text sql) (hne : sql ≠ "")
    (d table : Value) (o : Overrides) (j : Journaled Configuration) :
    ((Compile.select d s table o).runFrom j).1 = Compile.underSettings j.state
      (s.selectOver (.ofCustomSql (Sql.inspect (.ofValue d) sql) s sql) o) := by
  rw [(Compile.select_runFrom d s table o j).1, selectBy_text hsql hne]
  rfl

theorem ofCustomSql_single {i : Sql.Inspection} (hone : i ≠ .setOperation) (s : Clauses)
    (sql : String) : Head.ofCustomSql i s sql = ⟨sql, Head.hasWhere i sql⟩ :=
  if_neg fun h => hone h.1

/-- A statement over custom SQL that is no set operation is the custom SQL and what is added. -/
theorem select_over_custom {d table : Value} {o : Overrides} {j : Journaled Configuration}
    {st : Statement} {sql : String}
    (hst : ((Compile.select d s table o).runFrom j).1 = .ok st) (hsql : s.customSql = .text sql)
    (hne : sql ≠ "") (hone : Sql.inspect (.ofValue d) sql ≠ .setOperation) :
    ∃ limit offset, st = ⟨sql ++ s.added (Head.hasWhere (Sql.inspect (.ofValue d) sql) sql)
      o limit offset, s.params⟩ := by
  rw [select_custom hsql hne, ofCustomSql_single hone] at hst
  obtain ⟨hst, -⟩ := Compile.underSettings_eq_ok hst
  obtain ⟨limit, offset, -, -, rfl⟩ := selectOver_eq_ok hst
  refine ⟨limit, offset, ?_⟩
  simp only [body, added, String.append_assoc]

/-- What is compiled over custom SQL, where the inspection and the text of the statement are
known. -/
theorem exists_select_custom (text : String) {d table : Value} {o : Overrides}
    {j : Journaled Configuration} {i : Sql.Inspection} {sql : String}
    (hsql : s.customSql = .text sql) (hne : sql ≠ "") (hfound : Sql.inspect (.ofValue d) sql = i)
    (htext : (Compile.underSettings j.state (s.selectOver (.ofCustomSql i s sql) o)).toOption.map
      Statement.sql = some text) :
    ∃ st, ((Compile.select d s table o).runFrom j).1 = .ok st ∧ st.sql = text ∧
      st.params = s.params := by
  obtain ⟨st, hst, htext⟩ := Statement.exists_of_sql htext
  obtain ⟨limit, offset, -, -, rfl⟩ := selectOver_eq_ok (Compile.underSettings_eq_ok hst).1
  refine ⟨_, ?_, htext, rfl⟩
  rw [select_custom hsql hne, hfound, hst]

end Clauses

end FluentQuery
