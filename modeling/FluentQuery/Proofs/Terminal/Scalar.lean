import FluentQuery.Proofs.Terminal.Records

/-!
# Rows for scalar types

A row for a scalar type must have a single column. This is asked of its dictionary, in which columns
of one name share an entry.

* **`Row.PicksLast`** — the value that a row is decoded as when all its columns have one name;
* **`Row.decode_rowOf_ok_iff`** — only of such rows is a value made;
* **`Query.scalar_rejected_iff`** — when reading rows or one row tells of the first that it is not
  of the type;
* **`Query.pair_read_as_number`** — a row of two columns for which it does not.
-/

namespace FluentQuery

namespace Row

variable {fit : Fit} {schema : Schema} {columns : List String} {values : List Value}

/-- All columns of a row have one name, and the value of the last is made to fit. -/
def PicksLast (fit : Fit) (schema : Schema) (columns : List String) (values : List Value)
    (w : Value) : Prop :=
  (∃ name, ∀ c ∈ columns, c = name) ∧ ∃ v, values.getLast? = some v ∧ fit schema v = .ok w

/-- The dictionary of columns that have one name. -/
theorem rowOf_of_same {name : String} (hne : columns ≠ [])
    (hlength : values.length = columns.length) (h : ∀ c ∈ columns, c = name) :
    ∃ v, values.getLast? = some v ∧ Adapter.rowOf columns values = [(.text name, v)] := by
  have hnames : (columns.zip values).map Prod.fst = columns :=
    List.map_fst_zip (Nat.le_of_eq hlength.symm)
  have hvalues : (columns.zip values).map Prod.snd = values :=
    List.map_snd_zip (Nat.le_of_eq hlength)
  obtain hnil | ⟨front, last, hpairs⟩ := List.eq_nil_or_concat (columns.zip values)
  · rw [hnil] at hnames
    exact absurd hnames.symm hne
  · rw [List.concat_eq_append] at hpairs
    -- All pairs have the name, so the value of the last one is what the entry keeps.
    have hsame : ∀ p ∈ columns.zip values, p.1 = name := fun p hp =>
      h p.1 (hnames ▸ List.mem_map_of_mem hp)
    obtain rfl : last.1 = name := hsame last (by rw [hpairs]; simp)
    refine ⟨last.2, ?_, (Adapter.rowOf_folds columns values).eq_singleton_iff.mpr
      ⟨front, hpairs, fun p hp => hsame p (by rw [hpairs]; exact List.mem_append_left _ hp)⟩⟩
    rw [← hvalues, hpairs, List.map_append, List.map_singleton, List.getLast?_concat]

/-- The dictionary of columns whose names differ has as many entries as there are names. -/
theorem length_rowOf_of_differ (hlength : values.length = columns.length)
    (h : ¬∃ name, ∀ c ∈ columns, c = name) :
    (Adapter.rowOf columns values).length = columns.eraseDups.length ∧
      columns.eraseDups.length ≠ 1 := by
  have hentries := (Adapter.rowOf_folds columns values).length_eq
  rw [List.map_fst_zip (Nat.le_of_eq hlength.symm)] at hentries
  refine ⟨hentries, fun hone => ?_⟩
  obtain ⟨name, hname⟩ := List.length_eq_one_iff.mp hone
  exact h ⟨name, (eraseDups_eq_singleton_iff.mp hname).2⟩

/-- Columns whose names differ are told of by how many names there are. -/
theorem decode_rowOf_of_differ (hscalar : schema.isScalar = true)
    (hlength : values.length = columns.length) (h : ¬∃ name, ∀ c ∈ columns, c = name)
    (index : Int) :
    decode fit (some schema) index (Adapter.rowOf columns values) = .error (.decoding
      ⟨schema.name, index,
        "expected a single column, got " ++ intText columns.eraseDups.length⟩) := by
  obtain ⟨hentries, hone⟩ := length_rowOf_of_differ hlength h
  rw [decode_columns hscalar (hentries ▸ hone), hentries]

/-- **A value is made of a row exactly if all columns have one name**, and then of the last. -/
theorem decode_rowOf_ok_iff (hscalar : schema.isScalar = true) (hne : columns ≠ [])
    (hlength : values.length = columns.length) {index : Int} {w : Value} :
    decode fit (some schema) index (Adapter.rowOf columns values) = .ok w ↔
      PicksLast fit schema columns values w := by
  by_cases hsame : ∃ name, ∀ c ∈ columns, c = name
  · obtain ⟨name, hname⟩ := hsame
    obtain ⟨v, hlast, hrow⟩ := rowOf_of_same hne hlength hname
    have hpicks : PicksLast fit schema columns values w ↔ fit schema v = .ok w := by
      unfold PicksLast
      rw [hlast]
      exact ⟨fun ⟨_, _, hv, hw⟩ => Option.some.inj hv ▸ hw, fun hw => ⟨⟨name, hname⟩, v, rfl, hw⟩⟩
    rw [hrow, decode_single hscalar, hpicks]
    cases fit schema v with
    | ok u => exact ⟨fun h => Except.ok.inj h ▸ rfl, fun h => Except.ok.inj h ▸ rfl⟩
    | error issues => exact ⟨fun h => (nomatch h), fun h => (nomatch h)⟩
  · rw [decode_rowOf_of_differ hscalar hlength hsame]
    exact ⟨fun h => (nomatch h), fun h => absurd h.1 hsame⟩

end Row

namespace Query

variable {q : Query} {table : Value} {answer : Answer} {fit : Row.Fit} {schema : Schema}
  {columns : List String} {values : List Value} {rest : List (List Value)}

/-- The first row is told not to be of a type. -/
def RejectsFirst {α : Type} (schema : Schema) (r : Except Failure α) : Prop :=
  ∃ reason, r = .error (.decoding ⟨schema.name, 0, reason⟩)

/-- Rows are rejected for the first exactly if it is not decoded. -/
theorem rejectsFirst_decodeAll_iff {row : Row} {rows : List Row} :
    RejectsFirst schema (Row.decodeAll fit (some schema) (row :: rows)) ↔
      ¬∃ w, Row.decode fit (some schema) 0 row = .ok w := by
  unfold Row.decodeAll
  rw [Row.decodeFrom]
  cases hrow : Row.decode fit (some schema) (0 : Nat) row with
  | error e =>
    obtain ⟨_, reason, ⟨⟩, rfl⟩ := Row.decode_eq_error hrow
    refine iff_of_true ⟨reason, rfl⟩ ?_
    rintro ⟨w, hw⟩
    cases hw
  | ok w =>
    refine iff_of_false ?_ (not_not_intro ⟨w, rfl⟩)
    rintro ⟨reason, hreason⟩
    cases hrest : Row.decodeFrom fit (some schema) 1 rows with
    | ok ws =>
      rw [hrest] at hreason
      cases hreason
    | error e =>
      rw [hrest] at hreason
      cases hreason
      -- An error of the other rows has an index behind the first.
      exact absurd (Row.le_index_of_decodeFrom hrest) (Int.not_le.mpr Int.one_pos)

theorem rejectsFirst_decode_iff {row : Row} :
    RejectsFirst schema ((Row.decode fit (some schema) 0 row).map some) ↔
      ¬∃ w, Row.decode fit (some schema) 0 row = .ok w := by
  cases hrow : Row.decode fit (some schema) 0 row with
  | error e =>
    obtain ⟨_, reason, ⟨⟩, rfl⟩ := Row.decode_eq_error hrow
    refine iff_of_true ⟨reason, rfl⟩ ?_
    rintro ⟨w, hw⟩
    cases hw
  | ok w =>
    refine iff_of_false ?_ (not_not_intro ⟨w, rfl⟩)
    rintro ⟨reason, hreason⟩
    cases hreason

theorem head?_of_decodeAll {row : Row} {rows : List Row} {w : Value} {vs : List Value}
    (hrow : Row.decode fit (some schema) 0 row = .ok w)
    (h : Row.decodeAll fit (some schema) (row :: rows) = .ok vs) : vs.head? = some w := by
  cases Row.decodeAll_eq_ok_iff.mp h with
  | cons hfirst _ => exact congrArg some (Except.ok.inj ((hfirst 0).symm.trans hrow))

/-- **When a row is rejected for a scalar type.** A statement is executed on a connected adapter of
any engine, with any driver, and answered with columns and at least one row; values are made to fit
types in any way.

* Where names of columns differ, reading all rows and reading one row tell of the first row how many
  names there are.
* In general both reject the first row exactly if not all columns have one name or the value of the
  last one does not fit; reading all rows does so behind a line that names the table.
* So where columns share one name and the value of the last one fits, that value is given for the
  row, and the values of the others are left out. -/
theorem scalar_rejected_iff (hscalar : schema.isScalar = true)
    (hcolumns : answer.columns = some columns) (hne : columns ≠ [])
    (hrows : answer.rows = values :: rest) (hlength : values.length = columns.length) :
    ((¬∃ name, ∀ c ∈ columns, c = name) →
      (∀ j, q.Fetches table {} j answer → Nameable table →
        ((q.fetchAll table (some schema) fit).runFrom j).1 = .error (.decoding ⟨schema.name, 0,
          "expected a single column, got " ++ intText columns.eraseDups.length⟩)) ∧
      ∀ j, q.Fetches table { limit := .int 1 } j answer →
        ((q.fetchOne table (some schema) fit).runFrom j).1 = .error (.decoding ⟨schema.name, 0,
          "expected a single column, got " ++ intText columns.eraseDups.length⟩)) ∧
    (∀ j, q.Fetches table {} j answer →
      (RejectsFirst schema ((q.fetchAll table (some schema) fit).runFrom j).1 ↔
        Nameable table ∧ ¬∃ w, Row.PicksLast fit schema columns values w)) ∧
    (∀ j, q.Fetches table { limit := .int 1 } j answer →
      (RejectsFirst schema ((q.fetchOne table (some schema) fit).runFrom j).1 ↔
        ¬∃ w, Row.PicksLast fit schema columns values w)) ∧
    ∀ w, Row.PicksLast fit schema columns values w →
      (∀ j, q.Fetches table {} j answer →
        ∀ vs, ((q.fetchAll table (some schema) fit).runFrom j).1 = .ok vs → vs.head? = some w) ∧
      ∀ j, q.Fetches table { limit := .int 1 } j answer →
        ((q.fetchOne table (some schema) fit).runFrom j).1 = .ok (some w) := by
  have hrecords := Answer.records_of_columns hcolumns hne
  rw [hrows, List.map_cons] at hrecords
  have hall : ∀ j, q.Fetches table {} j answer → Nameable table →
      ((q.fetchAll table (some schema) fit).runFrom j).1 = Row.decodeAll fit (some schema)
        (Adapter.rowOf columns values :: rest.map (Adapter.rowOf columns)) := fun j h htable => by
    rw [fetchAll_result h htable, hrecords]
  have hone : ∀ j, q.Fetches table { limit := .int 1 } j answer →
      ((q.fetchOne table (some schema) fit).runFrom j).1 =
        (Row.decode fit (some schema) 0 (Adapter.rowOf columns values)).map some := fun j h => by
    rw [fetchOne_result h, hrecords]
  have hpicks : ∀ w, Row.decode fit (some schema) 0 (Adapter.rowOf columns values) = .ok w ↔
      Row.PicksLast fit schema columns values w :=
    fun w => Row.decode_rowOf_ok_iff hscalar hne hlength
  refine ⟨fun hdiffer => ⟨fun j h htable => ?_, fun j h => ?_⟩, fun j h => ?_, fun j h => ?_,
    fun w hw => ⟨fun j h vs hvs => ?_, fun j h => ?_⟩⟩
  · rw [hall j h htable]
    exact Row.decodeFrom_of_misfit (List.forall_mem_nil _)
      (Row.decode_rowOf_of_differ hscalar hlength hdiffer 0)
  · rw [hone j h, Row.decode_rowOf_of_differ hscalar hlength hdiffer]
    rfl
  · by_cases htable : Nameable table
    · rw [hall j h htable, rejectsFirst_decodeAll_iff, and_iff_right htable]
      simp only [hpicks]
    · rw [fetchAll_unwritable h htable]
      exact ⟨fun ⟨_, hreason⟩ => (nomatch hreason), fun hrejected => absurd hrejected.1 htable⟩
  · rw [hone j h, rejectsFirst_decode_iff]
    simp only [hpicks]
  · by_cases htable : Nameable table
    · rw [hall j h htable] at hvs
      exact head?_of_decodeAll ((hpicks w).mpr hw) hvs
    · rw [fetchAll_unwritable h htable] at hvs
      cases hvs
  · rw [hone j h, (hpicks w).mpr hw]
    rfl

theorem scalar_rejected_iff_pair :
    (((({} : Query).fetchAll (.text "t") (some .int) Row.lenient).runFrom (answered .sqlite
        { columns := some ["a", "b"], rows := [[.int 1, .int 2]] })).1 =
          .error (.decoding ⟨"int", 0, "expected a single column, got 2"⟩)) ∧
      ((({} : Query).fetchOne (.text "t") (some .int) Row.lenient).runFrom (answered .postgres
        { columns := some ["a", "a"], rows := [[.int 1, .int 2]] })).1 = .ok (some (.int 2)) := by
  obtain ⟨hdiffer, -⟩ := @scalar_rejected_iff {} (.text "t")
    { columns := some ["a", "b"], rows := [[.int 1, .int 2]] } Row.lenient .int _ _ _ rfl rfl
    (List.cons_ne_nil _ _) rfl rfl
  obtain ⟨-, -, -, hsame⟩ := @scalar_rejected_iff {} (.text "t")
    { columns := some ["a", "a"], rows := [[.int 1, .int 2]] } Row.lenient .int _ _ _ rfl rfl
    (List.cons_ne_nil _ _) rfl rfl
  have hpicks : Row.PicksLast Row.lenient .int ["a", "a"] [.int 1, .int 2] (.int 2) :=
    ⟨⟨"a", by simp⟩, .int 2, rfl, rfl⟩
  have hnames : ¬∃ name, ∀ c ∈ ["a", "b"], c = name := fun ⟨name, h⟩ =>
    absurd ((h "a" (by simp)).trans (h "b" (by simp)).symm) (by decide)
  exact ⟨(hdiffer hnames).1 _ (answered_fetches .sqlite _ .null (.inl rfl)) (nameable_text "t"),
    (hsame _ hpicks).2 _ (answered_fetches .postgres _ (.int 1) (.inr rfl))⟩

/-- An answer of one row with two columns of one name. -/
def twoOfOneName : Answer := { columns := some ["id", "id"], rows := [[.int 1, .int 2]] }

/-- The row is read as a number, the value of the second column, and is not rejected. -/
theorem pair_read_as_number :
    (((({} : Query).fetchAll (.text "t") (some .int)).runFrom
        (answered .sqlite twoOfOneName)).1 = .ok [.int 2] ∧
      ¬RejectsFirst .int ((({} : Query).fetchAll (.text "t") (some .int)).runFrom
        (answered .sqlite twoOfOneName)).1) ∧
    ((({} : Query).fetchOne (.text "t") (some .int)).runFrom
        (answered .sqlite twoOfOneName)).1 = .ok (some (.int 2)) ∧
      ¬RejectsFirst .int ((({} : Query).fetchOne (.text "t") (some .int)).runFrom
        (answered .sqlite twoOfOneName)).1 :=
  ⟨⟨rfl, fun ⟨_, h⟩ => (nomatch h)⟩, rfl, fun ⟨_, h⟩ => (nomatch h)⟩

end Query

end FluentQuery
