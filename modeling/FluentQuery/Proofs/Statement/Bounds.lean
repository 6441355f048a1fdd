import FluentQuery.Proofs.Query.Replay
import FluentQuery.Proofs.Statement.Compiled

/-!
# Bounds of a statement

A statement takes each bound from what is given for it or else from its query. So a bound that is
given does what the same bound of the query would do, and the one that the query has is not looked
at.

* **`Clauses.bounded`** — clauses with bounds in the place of their own;
* **`Overrides.Sets`** — the bounds that are given for a statement;
* **`Compile.select_bounded`** — compiling with given bounds is compiling clauses that have them;
* **`Query.chain_bounds`** — a query gets to have them by its calls.
-/

namespace FluentQuery

/-- What is given for a bound sets it: to nothing where it is null, and else to its integer. -/
def SetsBound (given : Value) (bound : Option Nat) : Prop :=
  given = .null ∧ bound = none ∨
    given ≠ .null ∧ ∃ n : Nat, given.toInteger = .ok (n : Int) ∧ bound = some n

/-- The bounds that are given for a statement. -/
structure Overrides.Sets (o : Overrides) (limit offset : Option Nat) : Prop where
  limit : SetsBound o.limit limit
  offset : SetsBound o.offset offset

theorem SetsBound.int (n : Nat) : SetsBound (.int n) (some n) :=
  .inr ⟨fun h => (nomatch h), n, rfl, rfl⟩

theorem SetsBound.null : SetsBound .null none := .inl ⟨rfl, rfl⟩

namespace Clauses

/-- The clauses with bounds in the place of their own; where there is none they keep theirs. -/
def bounded (s : Clauses) (limit offset : Option Nat) : Clauses :=
  { s with limit := limit.or s.limit, offset := offset.or s.offset }

variable {word : String} {given : Value} {own bound : Option Nat}

theorem boundParts_of_ne_null (h : given ≠ .null) : boundParts word given own =
    match given.toInteger with
    | .ok n => boundPart word n
    | .error e => .error (.integer e) := by
  unfold boundParts
  split
  · exact absurd rfl h
  · rfl

theorem boundParts_bounded (h : SetsBound given bound) :
    boundParts word given own = boundParts word .null (bound.or own) := by
  obtain ⟨rfl, rfl⟩ | ⟨hgiven, n, hn, rfl⟩ := h
  · rw [Option.none_or]
  · rw [boundParts_of_ne_null hgiven, hn]
    rfl

variable {s : Clauses} {o : Overrides} {limit offset : Option Nat}

theorem selectOver_bounded (h : o.Sets limit offset) (head : Head) :
    s.selectOver head o =
      (s.bounded limit offset).selectOver head { withOrder := o.withOrder } := by
  unfold selectOver tailParts
  rw [boundParts_bounded h.limit, boundParts_bounded h.offset]
  rfl

/-- Where a bound is given, the one that the clauses have is not looked at. -/
theorem selectOver_rebounded (hlimit : o.limit = .null → limit = s.limit)
    (hoffset : o.offset = .null → offset = s.offset) (head : Head) :
    ({ s with limit, offset } : Clauses).selectOver head o = s.selectOver head o := by
  have hsame : ∀ {word : String} {given : Value} {own own' : Option Nat},
      (given = .null → own' = own) → boundParts word given own' = boundParts word given own := by
    intro word given own own' h
    by_cases hgiven : given = .null
    · rw [h hgiven]
    · rw [boundParts_of_ne_null hgiven, boundParts_of_ne_null hgiven]
  unfold selectOver tailParts
  rw [hsame hlimit, hsame hoffset]
  rfl

end Clauses

namespace Compile

/-- The same statement is compiled of clauses with the same custom SQL, columns, joins and
conditions if what is rendered over each head is the same. -/
theorem select_congr {s s' : Clauses} {o o' : Overrides} (hcustom : s.customSql = s'.customSql)
    (hselected : s.selected = s'.selected) (hjoins : s.joins = s'.joins)
    (hconditions : s.conditions = s'.conditions)
    (hover : ∀ head, s.selectOver head o = s'.selectOver head o') (d table : Value) :
    select d s table o = select d s' table o' := by
  have hcustomHead : customHead d s = customHead d s' := by
    unfold customHead Head.ofCustomSql
    rw [hcustom, hjoins, hconditions]
  have htable : ∀ t, Head.ofTable s t = Head.ofTable s' t := by
    intro t
    unfold Head.ofTable Clauses.projection
    rw [hselected]
  unfold select Clauses.selectFrom Clauses.isCustom
  rw [hcustom, hcustomHead]
  simp only [hover, htable]

/-- **Compiling with given bounds is compiling clauses that have them**: the statement, the records
and all else that compiling does are the same. -/
theorem select_bounded {o : Overrides} {limit offset : Option Nat} (h : o.Sets limit offset)
    (d : Value) (s : Clauses) (table : Value) :
    select d s table o = select d (s.bounded limit offset) table { withOrder := o.withOrder } :=
  @select_congr s (s.bounded limit offset) o { withOrder := o.withOrder } rfl rfl rfl rfl
    (Clauses.selectOver_bounded h) d table

/-- A bound that the clauses have does not matter where one is given. -/
theorem select_rebounded {s : Clauses} {o : Overrides} {limit offset : Option Nat}
    (hlimit : o.limit = .null → limit = s.limit) (hoffset : o.offset = .null → offset = s.offset)
    (d table : Value) : select d { s with limit, offset } table o = select d s table o :=
  @select_congr { s with limit, offset } s o o rfl rfl rfl rfl
    (Clauses.selectOver_rebounded hlimit hoffset) d table

end Compile

namespace Query

/-- The query with bounds in the place of its own. -/
def bounded (q : Query) (limit offset : Option Nat) : Query :=
  { q with clauses := q.clauses.bounded limit offset }

theorem call_limit (q : Query) (n : Nat) :
    q.call (.limit (.int n)) = .ok (q.bounded (some n) none) := by
  have hcount : (ClauseCall.limit (.int n)).Acceptable := ⟨n, rfl, Int.natCast_nonneg n⟩
  rw [call_eq_ok hcount]
  simp [bounded, Clauses.bounded, Clauses.extended, ClauseCall.limit?]

theorem call_offset (q : Query) (n : Nat) :
    q.call (.offset (.int n)) = .ok (q.bounded none (some n)) := by
  have hcount : (ClauseCall.offset (.int n)).Acceptable := ⟨n, rfl, Int.natCast_nonneg n⟩
  rw [call_eq_ok hcount]
  simp [bounded, Clauses.bounded, Clauses.extended, ClauseCall.offset?]

theorem chain_bounds (q : Query) (limit offset : Nat) :
    q.chain [.limit (.int limit), .offset (.int offset)] =
      (q.bounded (some limit) (some offset), none) := by
  rw [chain, call_limit]
  simp only [chain, call_offset]
  rfl

end Query

end FluentQuery
