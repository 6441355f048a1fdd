import FluentQuery.Proofs.Action.Pair
import FluentQuery.Proofs.Statement.Compiled

/-!
# Bound values and the text

The values of conditions are bound and stand nowhere in a text: what is compiled of clauses, and
what is logged of that, is the same for all clauses that differ in these values alone. The values
come out as the values to bind, in order.

* **`Clauses.withoutValues`** — all of the clauses but the values;
* **`Statement.Rebound`** — statements with the same text and values of their own;
* **`Compile.statement_agree`** — clauses that are the same without their values are compiled alike.
-/

namespace FluentQuery

/-- Statements with the same text, which bind these values and those. -/
structure Statement.Rebound (p p' : List Value) (st st' : Statement) : Prop where
  text : st.sql = st'.sql
  values : st.params = p
  values' : st'.params = p'

namespace Clauses

variable {s s' : Clauses}

/-- The clauses without the values of their conditions. -/
def withoutValues (s : Clauses) : Clauses :=
  { s with conditions := s.conditions.map fun c => { c with value := .null } }

theorem length_params (h : s.withoutValues = s'.withoutValues) :
    s.params.length = s'.params.length := by
  have hlength := congrArg (fun t : Clauses => t.conditions.length) h
  simpa [withoutValues, params] using hlength

theorem isEmpty_withoutValues (s : Clauses) :
    s.withoutValues.conditions.isEmpty = s.conditions.isEmpty := List.isEmpty_map

theorem predicates_withoutValues (s : Clauses) : s.withoutValues.predicates = s.predicates := by
  unfold predicates withoutValues
  rw [List.map_map]
  rfl

theorem filterParts_withoutValues (s : Clauses) (extendsWhere : Bool) :
    s.withoutValues.filterParts extendsWhere = s.filterParts extendsWhere := by
  unfold filterParts
  rw [isEmpty_withoutValues, predicates_withoutValues]

theorem tailParts_withoutValues (s : Clauses) (extendsWhere : Bool) (o : Overrides) :
    s.withoutValues.tailParts extendsWhere o = s.tailParts extendsWhere o := by
  unfold tailParts
  rw [filterParts_withoutValues]
  rfl

theorem ofCustomSql_withoutValues (i : Sql.Inspection) (s : Clauses) (sql : String) :
    Head.ofCustomSql i s.withoutValues sql = Head.ofCustomSql i s sql := by
  unfold Head.ofCustomSql
  rw [isEmpty_withoutValues]
  rfl

/-- What does not look at the values is the same for clauses that are the same without them. -/
theorem eq_of_withoutValues {α : Type} (f : Clauses → α) (hf : ∀ s, f s.withoutValues = f s)
    (h : s.withoutValues = s'.withoutValues) : f s = f s' := by
  rw [← hf s, h, hf]

theorem filterParts_eq (h : s.withoutValues = s'.withoutValues) (extendsWhere : Bool) :
    s.filterParts extendsWhere = s'.filterParts extendsWhere :=
  eq_of_withoutValues (fun s => s.filterParts extendsWhere)
    (fun s => filterParts_withoutValues s extendsWhere) h

theorem selectOver_alike (h : s.withoutValues = s'.withoutValues) (head : Head) (o : Overrides) :
    Action.Alike (Statement.Rebound s.params s'.params) (s.selectOver head o)
      (s'.selectOver head o) := by
  have htail : s.tailParts head.extendsWhere o = s'.tailParts head.extendsWhere o :=
    eq_of_withoutValues (fun s => s.tailParts head.extendsWhere o)
      (fun s => tailParts_withoutValues s head.extendsWhere o) h
  unfold selectOver
  rw [htail]
  cases s'.tailParts head.extendsWhere o with
  | error e => exact .error e
  | ok parts => exact .ok ⟨rfl, rfl, rfl⟩

theorem selectFrom_alike (h : s.withoutValues = s'.withoutValues) (table : Value) (o : Overrides) :
    Action.Alike (Statement.Rebound s.params s'.params) (s.selectFrom table o)
      (s'.selectFrom table o) := by
  unfold selectFrom
  cases tableText table with
  | error e => exact .error e
  | ok text =>
    have hhead : Head.ofTable s text = Head.ofTable s' text :=
      eq_of_withoutValues (fun s => Head.ofTable s text) (fun _ => rfl) h
    show Action.Alike _ (s.selectOver (.ofTable s text) o) (s'.selectOver (.ofTable s' text) o)
    rw [hhead]
    exact selectOver_alike h _ o

theorem countFrom_alike (h : s.withoutValues = s'.withoutValues) (table : Value) :
    Action.Alike (Statement.Rebound s.params s'.params) (s.countFrom table)
      (s'.countFrom table) := by
  have hjoins : s.joinParts = s'.joinParts := eq_of_withoutValues joinParts (fun _ => rfl) h
  unfold countFrom
  rw [hjoins, filterParts_eq h]
  cases tableText table with
  | error e => exact .error e
  | ok text => exact .ok ⟨rfl, rfl, rfl⟩

theorem deleteFrom_alike (h : s.withoutValues = s'.withoutValues) (table : Value) :
    Action.Alike (Statement.Rebound s.params s'.params) (s.deleteFrom table)
      (s'.deleteFrom table) := by
  unfold deleteFrom
  rw [filterParts_eq h]
  cases tableText table with
  | error e => exact .error e
  | ok text => exact .ok ⟨rfl, rfl, rfl⟩

end Clauses

namespace Compile

open FluentQuery.Action

variable {s s' : Clauses} {p p' : List Value}

/-- What is logged of a statement tells the number of its values alone. -/
theorem finish_agree (hlength : p.length = p'.length) {st st' : Statement}
    (h : Statement.Rebound p p' st st') :
    Agree Eq (Statement.Rebound p p') (finish st) (finish st') := by
  have hcount : st.params.length = st'.params.length := by rw [h.values, h.values', hlength]
  refine .bind (.refl Action.settings) fun settings settings' hsettings => ?_
  rw [hsettings, h.text, hcount]
  split
  · exact .bind (.log _ _ _) fun _ _ _ => .pure h
  · exact .pure h

theorem customHead_agree (h : s.withoutValues = s'.withoutValues) (d : Value) :
    Agree Eq Eq (customHead d s) (customHead d s') := by
  have hsql : s.customSql = s'.customSql :=
    Clauses.eq_of_withoutValues Clauses.customSql (fun _ => rfl) h
  unfold customHead
  rw [hsql]
  refine .bind (.refl _) fun sql sql' heq => ?_
  subst heq
  have hhead : ∀ i, Head.ofCustomSql i s sql = Head.ofCustomSql i s' sql := fun i =>
    Clauses.eq_of_withoutValues (fun s => Head.ofCustomSql i s sql)
      (fun s => Clauses.ofCustomSql_withoutValues i s sql) h
  simp only [hhead]
  exact .refl _

theorem select_agree (h : s.withoutValues = s'.withoutValues) (d table : Value) (o : Overrides) :
    Agree Eq (Statement.Rebound s.params s'.params) (select d s table o)
      (select d s' table o) := by
  have hcustom : s.isCustom = s'.isCustom :=
    Clauses.eq_of_withoutValues Clauses.isCustom (fun _ => rfl) h
  have hlength := Clauses.length_params h
  unfold select
  rw [hcustom]
  split
  · refine .bind (customHead_agree h d) fun head head' heq => ?_
    subst heq
    exact .bind (.ofExcept (Clauses.selectOver_alike h head o)) fun _ _ => finish_agree hlength
  · exact .bind (.ofExcept (Clauses.selectFrom_alike h table o)) fun _ _ => finish_agree hlength

theorem count_agree (h : s.withoutValues = s'.withoutValues) (d table : Value) :
    Agree Eq (Statement.Rebound s.params s'.params) (count d s table) (count d s' table) := by
  have hcustom : s.isCustom = s'.isCustom :=
    Clauses.eq_of_withoutValues Clauses.isCustom (fun _ => rfl) h
  have hlength := Clauses.length_params h
  unfold count
  rw [hcustom]
  split
  · -- Taking sort keys and bounds away and taking the values away can be done in either order.
    have hinner : s.withoutPaging.withoutValues = s'.withoutPaging.withoutValues :=
      congrArg Clauses.withoutPaging h
    refine .bind (select_agree hinner d .null _) fun st st' hst => finish_agree hlength ?_
    exact ⟨congrArg (fun sql => "SELECT COUNT(*) FROM (" ++ sql ++ ") AS t") hst.text, hst.values,
      hst.values'⟩
  · exact .bind (.ofExcept (Clauses.countFrom_alike h table)) fun _ _ => finish_agree hlength

theorem delete_agree (h : s.withoutValues = s'.withoutValues) (table : Value) :
    Agree Eq (Statement.Rebound s.params s'.params) (delete s table) (delete s' table) :=
  .bind (.ofExcept (Clauses.deleteFrom_alike h table)) fun _ _ =>
    finish_agree (Clauses.length_params h)

/-- Clauses that are the same without their values are compiled alike: to the same text and the
values of each, or to the same failure, with the same records. -/
theorem statement_agree (h : s.withoutValues = s'.withoutValues) (d table : Value)
    (kind : StatementKind) :
    Agree Eq (Statement.Rebound s.params s'.params) (statement d s table kind)
      (statement d s' table kind) := by
  cases kind with
  | select o => exact select_agree h d table o
  | count => exact count_agree h d table
  | delete => exact delete_agree h table

end Compile

end FluentQuery
