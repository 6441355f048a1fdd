import FluentQuery.Proofs.Adapter.Course
import FluentQuery.Proofs.Adapter.Twins
import FluentQuery.Proofs.Terminal.Beside

/-!
# Terminal operations and bound values

A terminal operation hands the values of the conditions on as they are, and nothing that it does
depends on them: run side by side on clauses that differ in these values alone, it gives the same
result or fails in the same way, writes the same records, and makes the same calls but for the
values that are bound.

* **`Session.values_never_show`** — that, with the same for compiling.
-/

namespace FluentQuery

open FluentQuery.Action

variable {a b : Adapter}

namespace Context

/-- The same configuration, and adapters that are kept in step. -/
def InStep (p p' : List Value) (a b : Adapter) (x y : Context) : Prop :=
  x.configuration = y.configuration ∧ Adapter.InStep p p' a b x.adapter y.adapter

end Context

namespace Query

/-- Every terminal operation comes out alike. -/
theorem terminal_agree {d : Value} {s s' : Clauses} (htwins : Adapter.Twins s.params s'.params a b)
    (hclauses : s.withoutValues = s'.withoutValues) (c : TerminalCall) :
    Agree (Context.InStep s.params s'.params a b) Eq (Session.terminal ⟨d, s⟩ c)
      (Session.terminal ⟨d, s'⟩ c) := by
  have hvalues := Adapter.alike_boundValues (Clauses.length_params hclauses)
  exact (terminal_agreeUpTo (htwins.bisimulation.serves hvalues) hclauses c).agree

end Query

namespace Session

/-- **Bound values never show.** Clauses that differ in the values of their conditions alone are
compiled to the same text or the same failure, with the same records and the values of each to bind.
Every terminal operation on them, with adapters in the same state whose drivers answer alike, gives
the same result or fails in the same way, writes the same records and makes the same calls but for
the values bound, which are those of each in order. -/
theorem values_never_show {s s' : Clauses} (h : s.withoutValues = s'.withoutValues) :
    (∀ d table kind j,
      Alike (Statement.Rebound s.params s'.params)
          ((Compile.statement d s table kind).runFrom j).1
          ((Compile.statement d s' table kind).runFrom j).1 ∧
        ((Compile.statement d s table kind).runFrom j).2 =
          ((Compile.statement d s' table kind).runFrom j).2) ∧
      ∀ d (c : TerminalCall) (a b : Adapter), Adapter.Twins s.params s'.params a b →
        ∀ configuration records, ∃ r made made' left more,
          List.Forall₂ (DriverCall.Rebinds s.params s'.params) made made' ∧
            (terminal ⟨d, s⟩ c).runFrom ⟨⟨configuration, a⟩, records⟩ =
              (r, ⟨⟨left, a.after made⟩, more⟩) ∧
            (terminal ⟨d, s'⟩ c).runFrom ⟨⟨configuration, b⟩, records⟩ =
              (r, ⟨⟨left, b.after made'⟩, more⟩) := by
  refine ⟨fun d table kind j => ?_, fun d c a b htwins configuration records => ?_⟩
  · obtain ⟨houtcome, hstate, hjournal⟩ :=
      Compile.statement_agree h d table kind j.state j.state j.journal rfl
    exact ⟨houtcome, congrArg₂ Journaled.mk hstate hjournal⟩
  · obtain ⟨houtcome, ⟨hleft, made, made', hmade, ha, hb⟩, hjournal⟩ :=
      Query.terminal_agree (d := d) htwins h c ⟨configuration, a⟩ ⟨configuration, b⟩ records
        ⟨rfl, .start⟩
    generalize (terminal ⟨d, s⟩ c).runFrom ⟨⟨configuration, a⟩, records⟩ = run at *
    generalize (terminal ⟨d, s'⟩ c).runFrom ⟨⟨configuration, b⟩, records⟩ = run' at *
    obtain ⟨r, ⟨left, x⟩, more⟩ := run
    obtain ⟨r', ⟨left', y⟩, more'⟩ := run'
    cases houtcome.eq
    cases hleft
    cases hjournal
    cases ha
    cases hb
    exact ⟨r, made, made', left, more, hmade, rfl, rfl⟩

/-- An adapter on a connection whose server answers one row. -/
def answering : Adapter :=
  .scripted .postgres {
    results := [{ answer := { columns := some ["id"], rows := [[.int 7]] } }] }

/-- Clauses with a condition on a name. -/
def named (name : String) : Clauses where
  conditions := [⟨"name", .eq, .text name⟩]

/-- A name that would end the statement if it stood in its text. -/
def hostile : String := "'; DROP TABLE t; --"

theorem values_never_show_hostile :
    ∃ r made made' left more,
      List.Forall₂ (DriverCall.Rebinds [.text "ann"] [.text hostile]) made made' ∧
        (terminal ⟨.null, named "ann"⟩ (.fetchAll (.text "t") none)).runFrom
            ⟨⟨{}, answering⟩, []⟩ = (r, ⟨⟨left, answering.after made⟩, more⟩) ∧
        (terminal ⟨.null, named hostile⟩ (.fetchAll (.text "t") none)).runFrom
            ⟨⟨{}, answering⟩, []⟩ = (r, ⟨⟨left, answering.after made'⟩, more⟩) ∧
        made' = [.cursor 0,
          .execute 0 "SELECT * FROM t WHERE name = %s" (some [.text hostile]),
          .fetchAll 0, .commit 0, .closeCursor 0] := by
  have hsame : (named "ann").withoutValues = (named hostile).withoutValues := rfl
  have htwins : Adapter.Twins (named "ann").params (named hostile).params answering answering :=
    Adapter.twins_of_script rfl
  obtain ⟨r, made, made', left, more, hmade, hrun, hrun'⟩ := (values_never_show hsame).2 .null
    (.fetchAll (.text "t") none) answering answering htwins {} []
  have hcalls := congrArg (fun run => run.2.state.adapter.calls) hrun'
  exact ⟨r, made, made', left, more, hmade, hrun, hrun', hcalls.symm⟩

end Session

end FluentQuery
