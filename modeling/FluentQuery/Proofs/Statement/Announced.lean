import FluentQuery.Proofs.Statement.Compiled

/-!
# Compiled statements in the log

A statement that was compiled is written to the log exactly if the settings in force ask for it.
The one other record that compiling may write says that custom SQL could not be parsed.

* **`Statement.record`**, **`Compile.note`** — the two kinds of records;
* **`Compile.announced`** — what the settings let be written of a statement;
* **`Compile.statement_journal`** — what compiling leaves in the journal.
-/

namespace FluentQuery

open FluentQuery.Action

/-- What is written of a compiled statement. -/
def Statement.record (st : Statement) : LogRecord :=
  ⟨.compiler, .debug, "Compiled SQL: " ++ st.sql ++ " | " ++ intText st.params.length ++
    " bound param(s)"⟩

namespace Compile

/-- What is written of custom SQL that could not be parsed. -/
def note : LogRecord :=
  ⟨.compiler, .debug, "Could not parse custom SQL, falling back to keyword match"⟩

/-- What settings let be written of a statement. -/
def announced (x : Settings) (st : Statement) : List LogRecord :=
  if x.logSql then [st.record] else []

theorem record_ne_note (st : Statement) : st.record ≠ note := by
  intro h
  have hthird := congrArg (fun r : LogRecord => r.text.toList[2]?) h
  simp [Statement.record, note, String.toList_append] at hthird

variable {x : Settings} {j : Journaled Configuration} {st : Statement} {d table : Value}
  {s : Clauses} {o : Overrides}

theorem finish_journal (hx : j.state.settings.1 = .ok x) (st : Statement) :
    (finish st).runFrom j = (.ok st, ⟨j.state.settings.2, j.journal ++ announced x st⟩) := by
  have hsettings := runFrom_settings j
  rw [hx] at hsettings
  unfold finish announced
  rw [runFrom_bind_ok hsettings]
  cases x.logSql with
  | true => rfl
  | false =>
    rw [if_neg Bool.false_ne_true, if_neg Bool.false_ne_true, List.append_nil]
    rfl

/-- What may have failed is written of only if it did not. -/
theorem finish_of_journal {r : Except Failure Statement} (hx : j.state.settings.1 = .ok x)
    (h : ((ofExcept r >>= finish).runFrom j).1 = .ok st) :
    (ofExcept r >>= finish).runFrom j =
      (.ok st, ⟨j.state.settings.2, j.journal ++ announced x st⟩) := by
  cases r with
  | error e => cases h
  | ok st' =>
    have hrun : (ofExcept (.ok st') >>= finish).runFrom j = _ := finish_journal hx st'
    rw [hrun] at h ⊢
    cases h
    rfl

theorem customHead_journal (d : Value) (s : Clauses) (j : Journaled Configuration) :
    ∃ notes r, (∀ n ∈ notes, n = note) ∧
      (customHead d s).runFrom j = (r, { j with journal := j.journal ++ notes }) := by
  unfold customHead
  rw [runFrom_bind, runFrom_ofExcept]
  cases customText s.customSql with
  | error e => exact ⟨[], .error e, by simp, by simp⟩
  | ok sql =>
    simp only
    split
    · exact ⟨[note], _, by simp, rfl⟩
    · exact ⟨[], _, by simp, by rw [List.append_nil]; rfl⟩

theorem select_journal (hx : j.state.settings.1 = .ok x)
    (h : ((select d s table o).runFrom j).1 = .ok st) :
    ∃ notes, (∀ n ∈ notes, n = note) ∧ (select d s table o).runFrom j =
      (.ok st, ⟨j.state.settings.2, j.journal ++ (notes ++ announced x st)⟩) := by
  unfold select at h ⊢
  split at h
  · next hcustom =>
    rw [if_pos hcustom]
    obtain ⟨notes, r, hnotes, hhead⟩ := customHead_journal d s j
    refine ⟨notes, hnotes, ?_⟩
    cases r with
    | error e =>
      rw [runFrom_bind_error hhead] at h
      cases h
    | ok head =>
      rw [runFrom_bind_ok hhead] at h ⊢
      rw [finish_of_journal (j := { j with journal := j.journal ++ notes }) hx h,
        List.append_assoc]
  · next hcustom =>
    rw [if_neg hcustom]
    exact ⟨[], by simp, finish_of_journal hx h⟩

/-- **What compiling leaves in the journal**: the statement if the settings ask for it, behind what
is written of the statement that is counted, or of custom SQL. -/
theorem statement_journal {kind : StatementKind} (hx : j.state.settings.1 = .ok x)
    (h : ((statement d s table kind).runFrom j).1 = .ok st) :
    ∃ before, (x.logSql = false → ∀ n ∈ before, n = note) ∧
      ((statement d s table kind).runFrom j).2.journal =
        j.journal ++ (before ++ announced x st) := by
  cases kind with
  | select o =>
    obtain ⟨notes, hnotes, hrun⟩ := select_journal hx h
    exact ⟨notes, fun _ => hnotes, by rw [statement, hrun]⟩
  | delete => exact ⟨[], by simp, by rw [statement, delete, finish_of_journal hx h]; rfl⟩
  | count =>
    simp only [statement] at h ⊢
    unfold count at h ⊢
    by_cases hcustom : s.isCustom = true
    · rw [if_pos hcustom] at h ⊢
      cases hinner : ((select d s.withoutPaging .null { withOrder := false }).runFrom j).1 with
      | error e =>
        rw [runFrom_bind_error (Prod.ext hinner rfl)] at h
        cases h
      | ok counted =>
        obtain ⟨notes, hnotes, hrun⟩ := select_journal hx hinner
        have hagain : j.state.settings.2.settings.1 = .ok x := by
          rw [Configuration.settings_settings, hx]
        rw [runFrom_bind_ok hrun] at h ⊢
        rw [finish_journal (j := ⟨j.state.settings.2, _⟩) hagain] at h ⊢
        cases h
        refine ⟨notes ++ announced x counted, fun hquiet => ?_, by simp⟩
        simpa [announced, hquiet] using hnotes
    · rw [if_neg hcustom] at h ⊢
      exact ⟨[], by simp, by rw [finish_of_journal hx h]; rfl⟩

/-- A statement is among what compiling writes exactly if the settings ask for it. -/
theorem record_mem_iff {kind : StatementKind} (hx : j.state.settings.1 = .ok x)
    (hfresh : j.journal = []) (h : ((statement d s table kind).runFrom j).1 = .ok st) :
    st.record ∈ ((statement d s table kind).runFrom j).2.journal ↔ x.logSql = true := by
  obtain ⟨before, hbefore, hjournal⟩ := statement_journal hx h
  rw [hjournal, hfresh, List.nil_append]
  constructor
  · intro hmem
    cases hlog : x.logSql with
    | true => rfl
    | false =>
      have hnote : st.record ∈ before := by simpa [announced, hlog] using hmem
      exact absurd (hbefore hlog _ hnote) (record_ne_note st)
  · intro hlog
    simp [announced, hlog]

end Compile

end FluentQuery
