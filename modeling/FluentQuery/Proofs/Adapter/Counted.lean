import FluentQuery.Proofs.Adapter.Course
import FluentQuery.Proofs.Number.Integral
import FluentQuery.Proofs.Value.Written
import FluentQuery.Session.Run

/-!
# Numbers that are counted

A count is the first value of the first row that a driver answers with. It should be the integer
that this value is, or else it should be refused as a failure of the statement.

* **`Value.Counts`**, **`ReadsExactly`** — what a value counts, and a count that is that or refused;
* **`Adapter.keptFirst`** — what is left of the first value of a row when columns share its name;
* **`Adapter.counted_exactly_iff`** — for every answer of a driver, when a count is read exactly;
* **`Adapter.half_counted_as_one`** — answers for which it is not.
-/

namespace FluentQuery

/-- The integer that a value counts: nothing is zero, a number counts the integer that it is, and a
text the one that it writes. -/
inductive Value.Counts : Value → Int → Prop
  | null : Counts .null 0
  | number {v : Value} {n : Int} : v.toRat? = some (n : Rat) → Counts v n
  | text {s : String} {n : Int} : Text.Writes s n → Counts (.text s) n

/-- A value can be told of: it stands for an integer, or it can be written. -/
def Value.IsTold (v : Value) : Prop := v.isWritable = true ∨ ∃ n, v.Stands n

/-- The result is the integer that a value counts, or the value is refused as a failure of the
statement. -/
inductive ReadsExactly (v : Value) : Except Failure Reply → Prop
  | counted {n : Int} : v.Counts n → ReadsExactly v (.ok (.value (.int n)))
  | refused {e : EngineError} : ReadsExactly v (.error (.statement e))

namespace Value

variable {v : Value} {n : Int}

/-- A number counts what it stands for exactly if it has no fraction. -/
theorem counts_of_number {q : Rat} (hq : v.toRat? = some q) :
    v.Counts n ↔ q = n := by
  constructor
  · intro h
    cases h with
    | null => cases hq
    | number hn => exact Option.some.inj (hq.symm.trans hn)
    | text => cases hq
  · rintro rfl
    exact .number hq

/-- All that a value stands for is what it counts, unless it is a number with a fraction or bytes
that are read as a numeral. -/
theorem stands_counts_iff (v : Value) :
    (∀ n, v = .null ∧ n = 0 ∨ v.Stands n → v.Counts n) ↔
      (∀ q, v.toRat? = some q → ∃ k : Int, q = k) ∧ ∀ b, v = .bytes b → ¬∃ n, v.Stands n := by
  constructor
  · intro h
    refine ⟨fun q hq => ?_, ?_⟩
    · obtain ⟨m, hm, -⟩ := exists_toInteger hq
      exact ⟨m, (counts_of_number hq).mp (h m (.inr (toInteger_eq_ok_iff.mp hm)))⟩
    · rintro b rfl ⟨n, hn⟩
      cases h n (.inr hn) with
      | number hq => cases hq
  · rintro ⟨hwhole, hbytes⟩ n (⟨rfl, rfl⟩ | hn)
    · exact .null
    · cases hn with
      | number hq hcut =>
        exact (counts_of_number hq).mpr (hcut.eq_iff.mpr (hwhole _ hq))
      | text hwrites _ => exact .text hwrites
      | bytes hinner hnumeral hcount =>
        exact absurd ⟨_, .bytes hinner hnumeral hcount⟩ (hbytes _ rfl)

/-- What a value counts it stands for, but for nothing at all and for texts of too many digits. -/
theorem Counts.stands (h : v.Counts n) (hnull : v ≠ .null)
    (hdigits : ∀ s, v = .text s → Text.digitCount s ≤ maxNumeralDigits) : v.Stands n := by
  cases h with
  | null => exact absurd rfl hnull
  | number hq => exact .number hq (.int n)
  | text hwrites => exact .text hwrites (hdigits _ rfl)

end Value

namespace Adapter

/-! ## The value that is read -/

/-- What is left of the first value of a row: the last value in a column of the same name. -/
def keptFirst (column : String) (v : Value) (columns : List String) (values : List Value) : Value :=
  (columns.zip values).foldl (fun kept p => if p.1 = column then p.2 else kept) v

theorem keptFirst_of_not_mem {column : String} {columns : List String} (h : column ∉ columns)
    (v : Value) (values : List Value) : keptFirst column v columns values = v := by
  unfold keptFirst
  induction columns generalizing values with
  | nil => rfl
  | cons name columns ih =>
    obtain ⟨hname, hrest⟩ := not_or.mp (mt List.mem_cons.mpr h)
    cases values with
    | nil => rfl
    | cons w values =>
      rw [List.zip_cons_cons, List.foldl_cons, if_neg fun heq => hname heq.symm]
      exact ih hrest values

theorem head?_foldl_insert (column : String) (v : Value) (tail : Entries)
    (pairs : List (String × Value)) :
    ((pairs.map fun p => (Value.text p.1, p.2)).foldl
        (fun entries p => Entries.insert p.1 p.2 entries) ((.text column, v) :: tail)).head? =
      some (.text column, pairs.foldl (fun kept p => if p.1 = column then p.2 else kept) v) := by
  induction pairs generalizing v tail with
  | nil => rfl
  | cons p pairs ih =>
    obtain ⟨name, w⟩ := p
    have hinsert : Entries.insert (.text name) w ((.text column, v) :: tail) =
        if column = name then (.text column, w) :: tail
        else (.text column, v) :: Entries.insert (.text name) w tail := by
      rw [Entries.insert, Value.equals_text]
      simp only [beq_iff_eq]
    rw [List.map_cons, List.foldl_cons, List.foldl_cons, hinsert]
    by_cases hname : column = name
    · rw [if_pos hname, if_pos hname.symm]
      exact ih w tail
    · rw [if_neg hname, if_neg fun h => hname h.symm]
      exact ih v (Entries.insert (.text name) w tail)

theorem firstValue_rowOf (column : String) (columns : List String) (v : Value) (values : List Value)
    (rows : List Row) :
    firstValue (rowOf (column :: columns) (v :: values) :: rows) =
      some (some (keptFirst column v columns values)) := by
  have hpairs : ((column :: columns).map Value.text).zip (v :: values) =
      (.text column, v) :: (columns.zip values).map fun p => (Value.text p.1, p.2) := by
    rw [List.map_cons, List.zip_cons_cons, List.zip_map_left]
    rfl
  have hhead := head?_foldl_insert column v [] (columns.zip values)
  unfold firstValue rowOf Entries.ofPairs
  rw [hpairs, List.foldl_cons]
  show some (Option.map Prod.snd (List.foldl _ [(Value.text column, v)] _).head?) = _
  rw [hhead]
  rfl

/-! ## What is made of it -/

section Reading

variable {rows : List Row} {v w : Value}

theorem countOf_of_null (hfirst : firstValue rows = some (some .null)) (engine : Engine) :
    countOf engine rows = .ok 0 := by
  unfold countOf
  rw [hfirst]
  rfl

theorem countOf_of_ne_null (hfirst : firstValue rows = some (some w)) (hnull : w ≠ .null)
    (engine : Engine) :
    countOf engine rows = match w.toInteger with
      | .ok n => .ok n
      | .error (.infinite written) => .error (.integer (.infinite written))
      | .error fault => .error (notCounted engine w fault) := by
  unfold countOf
  rw [hfirst]
  cases w with
  | null => exact absurd rfl hnull
  | _ => rfl

/-- A value that is no integer is refused as a failure of the statement exactly if it can be
written. -/
theorem notCounted_reads (engine : Engine) (w : Value) (fault : IntegerFault) :
    ReadsExactly v (.error (notCounted engine w fault)) ↔ w.isWritable = true := by
  unfold notCounted
  by_cases h : w.isWritable = true
  · rw [if_pos h]
    exact ⟨fun _ => h, fun _ => .refused⟩
  · rw [if_neg h]
    exact ⟨nofun, fun hw => absurd hw h⟩

/-- The number that a counting statement comes to is read exactly if the value is not infinite, can
be told of, and all it stands for is what is counted. -/
theorem countOf_reads (hfirst : firstValue rows = some (some w)) (engine : Engine) :
    ReadsExactly v ((countOf engine rows).map fun n => .value (.int n)) ↔
      ¬w.IsInfinite ∧ w.IsTold ∧ ∀ n, w = .null ∧ n = 0 ∨ w.Stands n → v.Counts n := by
  by_cases hnull : w = .null
  · subst hnull
    rw [countOf_of_null hfirst]
    constructor
    · rintro ⟨hzero⟩
      refine ⟨?_, .inl rfl, ?_⟩
      · rintro (⟨_, h⟩ | ⟨_, h⟩) <;> cases h
      · rintro n (⟨-, rfl⟩ | hn)
        · assumption
        · cases Value.toInteger_eq_ok_iff.mpr hn
    · exact fun h => .counted (h.2.2 0 (.inl ⟨rfl, rfl⟩))
  · have hinfinite : w.IsInfinite ↔ ∃ written, w.toInteger = .error (.infinite written) :=
      Value.toInteger_infinite_iff.symm
    simp only [hnull, false_and, false_or, hinfinite, Value.IsTold, ← Value.toInteger_eq_ok_iff]
    rw [countOf_of_ne_null hfirst hnull]
    cases hinteger : w.toInteger with
    | ok n =>
      constructor
      · rintro ⟨hcounts⟩
        refine ⟨fun ⟨_, h⟩ => (nomatch h), .inr ⟨n, rfl⟩, fun m hm => ?_⟩
        cases hm
        assumption
      · exact fun h => .counted (h.2.2 n rfl)
    | error fault =>
      cases fault with
      | infinite written =>
        constructor
        · intro h
          cases h
        · exact fun h => absurd ⟨written, rfl⟩ h.1
      | _ =>
        refine (notCounted_reads engine w _).trans ⟨fun h => ⟨?_, .inl h, nofun⟩, fun h => ?_⟩
        · rintro ⟨_, ⟨⟩⟩
        · exact h.2.1.resolve_right fun ⟨_, hn⟩ => (nomatch hn)

/-- The number that an engine answers changes with is read exactly if the value stands for what is
counted: what is not an integer is not refused as a failure of the statement. -/
theorem changedOf_reads (hfirst : firstValue rows = some (some w)) :
    ReadsExactly v ((changedOf rows).map fun n => .value (.int n)) ↔
      ∃ n, w.Stands n ∧ v.Counts n := by
  simp only [← Value.toInteger_eq_ok_iff, changedOf, hfirst]
  cases hinteger : w.toInteger with
  | ok n =>
    constructor
    · rintro ⟨hcounts⟩
      exact ⟨n, rfl, by assumption⟩
    · rintro ⟨m, hm, hcounts⟩
      cases hm
      exact .counted hcounts
  | error fault =>
    constructor
    · intro h
      cases h
    · rintro ⟨m, hm, -⟩
      cases hm

end Reading

/-! ## Statements that succeed -/

section Statements

variable {a : Adapter} {n : Nat} {sql : String} {params : Value} {values : List Value}
  {records : List LogRecord} {x : Execution}

/-- What the driver answers to a statement. -/
def answered (a : Adapter) (n : Nat) (sql : String) (values : List Value) : Answer :=
  a.driver.answer (a.calls ++ a.withCursor (.cursor n) ++
    [handing n (a.engine.prepare sql values).1 (a.engine.prepare sql values).2])

/-- An execution that succeeds comes to what the driver answers, and the engine stays. -/
theorem execute_answered (hconnected : a.connected = true) (hconnection : a.connection = some n)
    (hvalues : boundValues params = .ok values)
    (hrun : ((execute sql params).runFrom ⟨a, records⟩).1 = .ok x) :
    x.rows = ((a.answered n sql values).execution (a.engine.prepare sql values).1).rows ∧
      ∃ j : Journaled Adapter, (execute sql params).runFrom ⟨a, records⟩ = (.ok x, j) ∧
        j.state.engine = a.engine := by
  obtain ⟨more, hcourse⟩ := execute_course hconnected hconnection hvalues records
  rw [hcourse] at hrun ⊢
  refine ⟨?_, _, Prod.ext hrun rfl, rfl⟩
  unfold executionResult attended at hrun
  split at hrun
  · cases hrun
  · split at hrun
    · cases hrun
    · cases hrun
      rfl

theorem adapterCall_count (hconnected : a.connected = true) (hconnection : a.connection = some n)
    (hvalues : boundValues params = .ok values)
    (hrun : ((execute sql params).runFrom ⟨a, records⟩).1 = .ok x) :
    ((Session.adapterCall (.executeCount sql params)).runFrom ⟨a, records⟩).1 =
      (countOf a.engine x.rows).map fun n => .value (.int n) := by
  obtain ⟨-, j, hj, hengine⟩ := execute_answered hconnected hconnection hvalues hrun
  have hcount : (executeCount sql params).runFrom ⟨a, records⟩ = (countOf a.engine x.rows, j) := by
    unfold executeCount
    rw [Action.runFrom_bind_ok hj, Action.runFrom_bind_ok (Action.runFrom_current j), hengine]
    rfl
  have hcall := Action.runFrom_bind_pure (executeCount sql params)
    (fun n => Reply.value (.int n)) ⟨a, records⟩
  exact (congrArg Prod.fst hcall).trans (by rw [hcount])

theorem adapterCall_update (hduckdb : a.engine = .duckdb) (hconnected : a.connected = true)
    (hconnection : a.connection = some n) (hvalues : boundValues params = .ok values)
    (hrun : ((execute sql params).runFrom ⟨a, records⟩).1 = .ok x) :
    ((Session.adapterCall (.executeUpdate sql params)).runFrom ⟨a, records⟩).1 =
      (changedOf x.rows).map fun n => .value (.int n) := by
  obtain ⟨-, j, hj, hengine⟩ := execute_answered hconnected hconnection hvalues hrun
  have hupdate : ((executeUpdate sql params).runFrom ⟨a, records⟩).1 =
      (changedOf x.rows).map Value.int := by
    unfold executeUpdate
    rw [Action.runFrom_bind_ok hj, Action.runFrom_bind_ok (Action.runFrom_current j), hengine,
      if_pos hduckdb]
    exact congrArg Prod.fst
      (Action.runFrom_bind_pure (Action.ofExcept (changedOf x.rows)) Value.int j)
  have hcall := Action.runFrom_bind_pure (executeUpdate sql params) Reply.value ⟨a, records⟩
  refine (congrArg Prod.fst hcall).trans ?_
  rw [hupdate]
  cases changedOf x.rows <;> rfl

/-- **When counts are read exactly.** A statement is executed on a connected adapter of any engine,
with any driver, and succeeds; the driver answers with a value in the first column of the first row.
What is read of the row is the last value in a column of that name.

* A count of rows is the integer that the value counts, or is refused as a failure of the statement,
  exactly if what is read is not infinite, can be told of, and all it stands for is what the value
  counts.
* The number of changed rows with DuckDB is so exactly if what is read stands for an integer that
  the value counts; nothing is refused as a failure of the statement.
* Where no other column has the name, this means for a count: the value is not infinite, can be told
  of, is no number with a fraction and no numeral in bytes; and for changed rows: it is a number
  without a fraction, or a text that writes an integer in digits that are not too many. What such a
  value counts is then the count that is given. -/
theorem counted_exactly_iff (hconnected : a.connected = true) (hconnection : a.connection = some n)
    (hvalues : boundValues params = .ok values)
    (hrun : ((execute sql params).runFrom ⟨a, records⟩).1 = .ok x) {column : String}
    {columns : List String} {v : Value} {row : List Value} {rest : List (List Value)}
    (hcolumns : (a.answered n sql values).columns = some (column :: columns))
    (hrows : (a.answered n sql values).rows = (v :: row) :: rest) :
    (ReadsExactly v ((Session.adapterCall (.executeCount sql params)).runFrom ⟨a, records⟩).1 ↔
      ¬(keptFirst column v columns row).IsInfinite ∧ (keptFirst column v columns row).IsTold ∧
        ∀ k, keptFirst column v columns row = .null ∧ k = 0 ∨
          (keptFirst column v columns row).Stands k → v.Counts k) ∧
    (a.engine = .duckdb →
      (ReadsExactly v
          ((Session.adapterCall (.executeUpdate sql params)).runFrom ⟨a, records⟩).1 ↔
        ∃ k, (keptFirst column v columns row).Stands k ∧ v.Counts k)) ∧
    (column ∉ columns →
      (ReadsExactly v ((Session.adapterCall (.executeCount sql params)).runFrom ⟨a, records⟩).1 ↔
        ¬v.IsInfinite ∧ v.IsTold ∧ (∀ q, v.toRat? = some q → ∃ k : Int, q = k) ∧
          ∀ b, v = .bytes b → ¬∃ k, v.Stands k) ∧
      (a.engine = .duckdb →
        (ReadsExactly v
            ((Session.adapterCall (.executeUpdate sql params)).runFrom ⟨a, records⟩).1 ↔
          (∃ k : Int, v.toRat? = some (k : Rat)) ∨
            ∃ s k, v = .text s ∧ Text.Writes s k ∧ Text.digitCount s ≤ maxNumeralDigits)) ∧
      ∀ k, v.Counts k → (∀ s, v = .text s → Text.digitCount s ≤ maxNumeralDigits) →
        ((Session.adapterCall (.executeCount sql params)).runFrom ⟨a, records⟩).1 =
          .ok (.value (.int k))) := by
  obtain ⟨hrows', -⟩ := execute_answered hconnected hconnection hvalues hrun
  have hfirst : firstValue x.rows = some (some (keptFirst column v columns row)) := by
    rw [hrows']
    unfold Answer.execution
    rw [hcolumns, hrows]
    exact firstValue_rowOf column columns v row _
  have hcount := countOf_reads (v := v) hfirst a.engine
  rw [← adapterCall_count hconnected hconnection hvalues hrun] at hcount
  have hupdate : a.engine = .duckdb → _ := fun hduckdb => by
    have h := changedOf_reads (v := v) hfirst
    rw [← adapterCall_update hduckdb hconnected hconnection hvalues hrun] at h
    exact h
  refine ⟨hcount, hupdate, fun hname => ?_⟩
  rw [keptFirst_of_not_mem hname] at hcount hupdate hfirst
  refine ⟨hcount.trans (and_congr_right fun _ => and_congr_right fun _ => v.stands_counts_iff),
    fun hduckdb =>
    (hupdate hduckdb).trans ⟨?_, ?_⟩, fun k hk hdigits => ?_⟩
  · rintro ⟨k, hstands, hcounts⟩
    cases hcounts with
    | null => cases Value.toInteger_eq_ok_iff.mpr hstands
    | number hq => exact .inl ⟨k, hq⟩
    | text hwrites =>
      cases hstands with
      | number hq => cases hq
      | text hwrites' hdigits => exact .inr ⟨_, _, rfl, hwrites', hdigits⟩
  · rintro (⟨k, hq⟩ | ⟨s, k, rfl, hwrites, hdigits⟩)
    · exact ⟨k, .number hq (.int k), .number hq⟩
    · exact ⟨k, .text hwrites hdigits, .text hwrites⟩
  · rw [adapterCall_count hconnected hconnection hvalues hrun]
    by_cases hnull : v = .null
    · subst hnull
      rw [countOf_of_null hfirst]
      cases hk with
      | null => rfl
      | number hq => cases hq
    · rw [countOf_of_ne_null hfirst hnull,
        Value.toInteger_eq_ok_iff.mpr (hk.stands hnull hdigits)]
      rfl

end Statements

/-- An adapter on an open connection whose driver answers with one value. -/
def answering (engine : Engine) (v : Value) : Adapter :=
  scripted engine { results := [{ answer := { columns := some ["n"], rows := [[v]] } }] }

/-- A text that writes twelve, with an underscore and among blanks. -/
theorem writes_twelve : Text.Writes " 1_2 " 12 := by
  have hdigits : Digits Text.digitValue? (['1'] ++ ['_', '2']) (10 * 1 + 2) :=
    .apart (.first rfl) rfl
  have hblank : ∀ c ∈ [' '], isSpacing c = true := fun c hc => by
    rw [List.mem_singleton.mp hc]
    rfl
  exact ⟨['1', '_', '2'], ⟨[' '], [' '], rfl, hblank, hblank⟩, .unsigned hdigits⟩

theorem counted_exactly_iff_text :
    ReadsExactly (.text " 1_2 ") ((Session.adapterCall (.executeCount "SELECT n" .null)).runFrom
        ⟨answering .sqlite (.text " 1_2 "), []⟩).1 ∧
      ((Session.adapterCall (.executeCount "SELECT n" .null)).runFrom
        ⟨answering .sqlite (.text " 1_2 "), []⟩).1 = .ok (.value (.int 12)) ∧
      ReadsExactly (.text " 1_2 ") ((Session.adapterCall (.executeUpdate "SELECT n" .null)).runFrom
        ⟨answering .duckdb (.text " 1_2 "), []⟩).1 := by
  have hdigits : ∀ s, Value.text " 1_2 " = .text s → Text.digitCount s ≤ maxNumeralDigits := by
    rintro s ⟨⟩
    decide
  obtain ⟨-, -, hnamed⟩ := @counted_exactly_iff (answering .sqlite (.text " 1_2 ")) 0 "SELECT n"
    .null [] [] _ rfl rfl rfl rfl "n" [] _ [] [] rfl rfl
  obtain ⟨hcount, -, hgiven⟩ := hnamed List.not_mem_nil
  obtain ⟨-, hupdate, -⟩ := @counted_exactly_iff (answering .duckdb (.text " 1_2 ")) 0 "SELECT n"
    .null [] [] _ rfl rfl rfl rfl "n" [] _ [] [] rfl rfl
  refine ⟨hcount.mpr ⟨?_, .inl rfl, ?_, ?_⟩, hgiven 12 (.text writes_twelve) hdigits,
    (hupdate rfl).mpr ⟨12, .text writes_twelve (hdigits _ rfl), .text writes_twelve⟩⟩
  · rintro (⟨_, h⟩ | ⟨_, h⟩) <;> cases h
  · rintro q ⟨⟩
  · rintro b ⟨⟩

/-- One and a half is counted as one; an infinite number fails in another way than the statement,
and so does nothing at all where DuckDB tells of changed rows. -/
theorem half_counted_as_one :
    (((Session.adapterCall (.executeCount "SELECT n" .null)).runFrom
        ⟨answering .sqlite (.float (.finite false 6755399441055744 (-52))), []⟩).1 =
          .ok (.value (.int 1)) ∧
      ¬ReadsExactly (.float (.finite false 6755399441055744 (-52))) (.ok (.value (.int 1)))) ∧
    (((Session.adapterCall (.executeCount "SELECT n" .null)).runFrom
        ⟨answering .sqlite (.float (.infinite false)), []⟩).1 =
          .error (.integer (.infinite "float infinity")) ∧
      ¬ReadsExactly (.float (.infinite false)) (.error (.integer (.infinite "float infinity")))) ∧
    (((Session.adapterCall (.executeUpdate "DELETE FROM t" .null)).runFrom
        ⟨answering .duckdb .null, []⟩).1 = .error (.integer (.wrongKind "NoneType")) ∧
      ¬ReadsExactly .null (.error (.integer (.wrongKind "NoneType")))) := by
  have hhalf : (Value.float (.finite false 6755399441055744 (-52))).toRat? = some (3 / 2) := by
    decide +kernel
  refine ⟨⟨rfl, ?_⟩, ⟨rfl, fun h => (nomatch h)⟩, rfl, fun h => (nomatch h)⟩
  intro h
  cases h with
  | counted hcounts =>
    rw [Value.counts_of_number hhalf] at hcounts
    norm_num at hcounts

end Adapter

end FluentQuery
