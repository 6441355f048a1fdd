import FluentQuery.Proofs.Value.Written
import FluentQuery.Query.Terminal

/-!
# Lines about terminal operations

A terminal operation tells of its outcome in a line of the log. The line comes about exactly if all
that it shows can be written: the table, the number of a page, the total, and how many rows were
deleted.
-/

namespace FluentQuery.Query

/-- A table can be named: it is left out, or it can be written. -/
def Nameable (table : Value) : Prop := table.isTruthy = true → table.isWritable = true

variable {table : Value}

theorem nameable_text (s : String) : Nameable (.text s) := fun _ => rfl

theorem place_written (table : Value) : WrittenIf (Nameable table) (place table) :=
  (table.written_written).ite

theorem rowsLine_written (table : Value) (rows : Nat) :
    WrittenIf (Nameable table) (rowsLine table rows) :=
  (place_written table).map fun place =>
    "query on " ++ place ++ " returned " ++ intText rows ++ " row(s)"

theorem noRowLine_written (table : Value) : WrittenIf (Nameable table) (noRowLine table) :=
  (place_written table).map fun place => "get_one on " ++ place ++ " found no row"

theorem pageLine_written (number : Nat) (table : Value) (found : Option (Nat × Int)) :
    WrittenIf (fitsNumeral number = true ∧ Nameable table ∧
      ∀ x ∈ found, fitsNumeral x.2 = true) (pageLine number table found) := by
  refine (numeral_written number).bind fun number => (place_written table).bind fun place => ?_
  cases found with
  | none => exact (WrittenIf.ok _).congr (iff_of_true trivial nofun)
  | some x =>
    have htotal := (numeral_written x.2).map fun total =>
      "page " ++ number ++ " of " ++ place ++ ": " ++ intText x.1 ++ " of " ++ total ++ " row(s)"
    exact htotal.congr (by simp)

theorem deletionLine_written (affected table : Value) :
    WrittenIf (affected.isWritable = true ∧ table.isWritable = true)
      (deletionLine affected table) :=
  (affected.written_written).bind fun changed => (table.written_written).map fun place =>
    "Deleted " ++ changed ++ " row(s) from " ++ place

end FluentQuery.Query
