import FluentQuery.Proofs.Statement.Announced

/-!
# How often statements are announced

Where the settings ask for it and records of debugging are shown, a compiled statement is announced
in the log with its text and the number of its values. Counting over custom SQL compiles the
statement that is counted on the way, and announces it too.

* **`LogSetup.announcements`** — the announcements of a journal that are shown;
* **`Compile.announces`** — the announcements that compiling a statement makes;
* **`Compile.announces_error`**, **`Compile.announces_ok`** — which these are;
* **`Compile.announced_once_iff`** — when there is one for the statement that comes about.
-/

namespace FluentQuery

open FluentQuery.Action

/-- A record announces a compiled statement. -/
def LogRecord.isAnnouncement (r : LogRecord) : Bool :=
  "Compiled SQL".toList.isPrefixOf r.text.toList

namespace LogSetup

/-- The announcements of a journal that are shown. -/
def announcements (l : LogSetup) (journal : List LogRecord) : List LogRecord :=
  (journal.filter l.shows).filter LogRecord.isAnnouncement

theorem announcements_append (l : LogSetup) (before after : List LogRecord) :
    l.announcements (before ++ after) = l.announcements before ++ l.announcements after := by
  simp [announcements]

/-- What is written of custom SQL that could not be parsed announces nothing. -/
theorem announcements_notes (l : LogSetup) {notes : List LogRecord}
    (h : ∀ n ∈ notes, n = Compile.note) : l.announcements notes = [] := by
  have hnote : Compile.note.isAnnouncement = false := by decide
  simp only [announcements, List.filter_eq_nil_iff, List.mem_filter]
  rintro n ⟨hn, -⟩
  rw [h n hn, hnote]
  exact Bool.false_ne_true

variable {l : LogSetup}

/-- Each statement that settings let be written is announced. -/
theorem announcements_announced (hdebug : l.threshold ≤ Severity.debug.number) (x : Settings)
    (st : Statement) : l.announcements (Compile.announced x st) = Compile.announced x st := by
  have hannounces : st.record.isAnnouncement = true := by
    simp [LogRecord.isAnnouncement, Statement.record, String.toList_append]
  have hshown : l.shows st.record = true := decide_eq_true hdebug
  unfold Compile.announced
  split
  · simp [announcements, hshown, hannounces]
  · rfl

end LogSetup

namespace Compile

variable {c : Configuration} {x : Settings} {l : LogSetup} {j : Journaled Configuration}
  {st : Statement} {e : Failure} {d table : Value} {s : Clauses} {o : Overrides}
  {kind : StatementKind}

/-! ## Journals of failures -/

/-- Where settings can be read, what fails has failed before it is written of. -/
theorem finish_of_journal_error {r : Except Failure Statement} (hx : j.state.settings.1 = .ok x)
    (h : ((ofExcept r >>= finish).runFrom j).1 = .error e) :
    (ofExcept r >>= finish).runFrom j = (.error e, j) := by
  cases r with
  | error e' =>
    cases h
    rfl
  | ok st =>
    have hrun : (ofExcept (.ok st) >>= finish).runFrom j = _ := finish_journal hx st
    rw [hrun] at h
    cases h

theorem select_journal_error (hx : j.state.settings.1 = .ok x)
    (h : ((select d s table o).runFrom j).1 = .error e) :
    ∃ notes, (∀ n ∈ notes, n = note) ∧ (select d s table o).runFrom j =
      (.error e, { j with journal := j.journal ++ notes }) := by
  unfold select at h ⊢
  split at h
  · next hcustom =>
    rw [if_pos hcustom]
    obtain ⟨notes, r, hnotes, hhead⟩ := customHead_journal d s j
    refine ⟨notes, hnotes, ?_⟩
    cases r with
    | error e' =>
      rw [runFrom_bind_error hhead] at h ⊢
      cases h
      rfl
    | ok head =>
      rw [runFrom_bind_ok hhead] at h ⊢
      exact finish_of_journal_error (j := { j with journal := j.journal ++ notes }) hx h
  · next hcustom =>
    rw [if_neg hcustom]
    refine ⟨[], by simp, ?_⟩
    rw [finish_of_journal_error hx h, List.append_nil]

/-! ## Announcements of compiling -/

/-- The announcements that compiling a statement makes. -/
def announces (l : LogSetup) (c : Configuration) (d : Value) (s : Clauses) (table : Value)
    (kind : StatementKind) : List LogRecord :=
  l.announcements ((statement d s table kind).runFrom ⟨c, []⟩).2.journal

/-- Counting goes by way of another statement. -/
def CountsAnother (s : Clauses) (kind : StatementKind) : Prop :=
  kind = .count ∧ s.isCustom = true

/-- The statement of custom SQL whose rows are counted. -/
def counted (c : Configuration) (d : Value) (s : Clauses) : Except Failure Statement :=
  ((select d s.withoutPaging .null { withOrder := false }).runFrom ⟨c, []⟩).1

theorem count_custom (hcustom : s.isCustom = true) (d table : Value) :
    count d s table = (do
      finish (Clauses.countOf (← select d s.withoutPaging .null { withOrder := false }))) :=
  if_pos hcustom

theorem count_plain (hcustom : ¬s.isCustom = true) (d table : Value) :
    count d s table = (do finish (← Action.ofExcept (s.countFrom table))) :=
  if_neg hcustom

/-- Counting over custom SQL writes what the statement counted leaves, and then of itself. -/
theorem count_custom_journal (hx : c.settings.1 = .ok x) (hcustom : s.isCustom = true)
    {inner : Statement} (h : counted c d s = .ok inner) (table : Value) :
    ∃ notes, (∀ n ∈ notes, n = note) ∧ (count d s table).runFrom ⟨c, []⟩ =
      (.ok (Clauses.countOf inner), ⟨c.settings.2.settings.2,
        notes ++ announced x inner ++ announced x (Clauses.countOf inner)⟩) := by
  obtain ⟨notes, hnotes, hrun⟩ := select_journal (j := ⟨c, []⟩) hx h
  have hagain : c.settings.2.settings.1 = .ok x := by rw [Configuration.settings_settings, hx]
  refine ⟨notes, hnotes, ?_⟩
  rw [count_custom hcustom, runFrom_bind_ok hrun]
  exact finish_journal (j := ⟨c.settings.2, _⟩) hagain _

theorem counted_of_count (hcustom : s.isCustom = true) (hx : c.settings.1 = .ok x) :
    ((count d s table).runFrom ⟨c, []⟩).1 = (counted c d s).map Clauses.countOf := by
  cases hinner : counted c d s with
  | error e =>
    rw [count_custom hcustom, runFrom_bind_error (Prod.ext hinner rfl)]
    rfl
  | ok inner =>
    obtain ⟨notes, -, hrun⟩ := count_custom_journal hx hcustom hinner table
    rw [hrun]
    rfl

/-- A call that fails announces nothing. -/
theorem announces_error (hx : c.settings.1 = .ok x)
    (h : ((statement d s table kind).runFrom ⟨c, []⟩).1 = .error e) :
    announces l c d s table kind = [] := by
  unfold announces
  cases kind with
  | select o =>
    obtain ⟨notes, hnotes, hrun⟩ := select_journal_error (j := ⟨c, []⟩) hx h
    rw [statement, hrun]
    exact l.announcements_notes hnotes
  | delete =>
    have hrun : (statement d s table .delete).runFrom ⟨c, []⟩ = (.error e, ⟨c, []⟩) :=
      finish_of_journal_error (j := ⟨c, []⟩) hx h
    rw [hrun]
    rfl
  | count =>
    by_cases hcustom : s.isCustom = true
    · have hfailed : (counted c d s).map Clauses.countOf = .error e :=
        (counted_of_count hcustom hx).symm.trans h
      cases hinner : counted c d s with
      | ok inner =>
        rw [hinner] at hfailed
        cases hfailed
      | error e' =>
        obtain ⟨notes, hnotes, hrun⟩ := select_journal_error (j := ⟨c, []⟩) hx hinner
        rw [statement, count_custom hcustom, runFrom_bind_error hrun]
        exact l.announcements_notes hnotes
    · rw [statement, count_plain hcustom] at h ⊢
      rw [finish_of_journal_error (j := ⟨c, []⟩) hx h]
      rfl

/-- A call that goes by way of no other statement announces its own. -/
theorem announces_ok (hx : c.settings.1 = .ok x) (hdebug : l.threshold ≤ Severity.debug.number)
    (hone : ¬CountsAnother s kind)
    (h : ((statement d s table kind).runFrom ⟨c, []⟩).1 = .ok st) :
    announces l c d s table kind = announced x st := by
  unfold announces
  cases kind with
  | select o =>
    obtain ⟨notes, hnotes, hrun⟩ := select_journal (j := ⟨c, []⟩) hx h
    rw [statement, hrun]
    simp only [List.nil_append, LogSetup.announcements_append, l.announcements_notes hnotes,
      LogSetup.announcements_announced hdebug]
  | delete =>
    have hrun : (statement d s table .delete).runFrom ⟨c, []⟩ = _ :=
      finish_of_journal (j := ⟨c, []⟩) hx h
    rw [hrun]
    exact LogSetup.announcements_announced hdebug x st
  | count =>
    have hplain : ¬s.isCustom = true := fun hcustom => hone ⟨rfl, hcustom⟩
    rw [statement, count_plain hplain] at h ⊢
    rw [finish_of_journal (j := ⟨c, []⟩) hx h]
    exact LogSetup.announcements_announced hdebug x st

/-- Counting over custom SQL announces the statement counted as well. -/
theorem announces_counting (hx : c.settings.1 = .ok x)
    (hdebug : l.threshold ≤ Severity.debug.number) (hcustom : s.isCustom = true)
    {inner : Statement} (h : counted c d s = .ok inner) :
    announces l c d s table .count =
      announced x inner ++ announced x (Clauses.countOf inner) := by
  obtain ⟨notes, hnotes, hrun⟩ := count_custom_journal hx hcustom h table
  unfold announces
  rw [statement, hrun]
  simp only [LogSetup.announcements_append, l.announcements_notes hnotes,
    LogSetup.announcements_announced hdebug, List.nil_append]

/-- **How often statements are announced**, for all clauses and every table, dialect and kind of
statement, where settings can be read and records of debugging are shown. A call that fails
announces nothing, nor does any call without settings that ask for it. Where they ask for it, a call
that succeeds announces its statement once and nothing else, exactly if it does not count over
custom SQL; if it does, it announces the statement counted and then its own. -/
theorem announced_once_iff (hx : c.settings.1 = .ok x)
    (hdebug : l.threshold ≤ Severity.debug.number) (d : Value) (s : Clauses) (table : Value)
    (kind : StatementKind) :
    (∀ e, ((statement d s table kind).runFrom ⟨c, []⟩).1 = .error e →
      announces l c d s table kind = []) ∧
    (x.logSql = false → announces l c d s table kind = []) ∧
    (x.logSql = true → ∀ st, ((statement d s table kind).runFrom ⟨c, []⟩).1 = .ok st →
      (announces l c d s table kind = [st.record] ↔ ¬CountsAnother s kind) ∧
      (CountsAnother s kind → ∃ inner, counted c d s = .ok inner ∧ st = Clauses.countOf inner ∧
        announces l c d s table kind = [inner.record, st.record])) := by
  have hcounting : CountsAnother s kind →
      ∀ st, ((statement d s table kind).runFrom ⟨c, []⟩).1 = .ok st →
        ∃ inner, counted c d s = .ok inner ∧ st = Clauses.countOf inner ∧
          announces l c d s table kind = announced x inner ++ announced x st := by
    rintro ⟨rfl, hcustom⟩ st h
    rw [statement, counted_of_count hcustom hx] at h
    cases hinner : counted c d s with
    | error e =>
      rw [hinner] at h
      cases h
    | ok inner =>
      rw [hinner] at h
      cases h
      exact ⟨inner, rfl, rfl, announces_counting hx hdebug hcustom hinner⟩
  refine ⟨fun e h => announces_error hx h, fun hquiet => ?_, fun hlog st h => ?_⟩
  · cases h : ((statement d s table kind).runFrom ⟨c, []⟩).1 with
    | error e => exact announces_error hx h
    | ok st =>
      by_cases hother : CountsAnother s kind
      · obtain ⟨inner, -, -, hboth⟩ := hcounting hother st h
        simp [hboth, announced, hquiet]
      · rw [announces_ok hx hdebug hother h]
        simp [announced, hquiet]
  · by_cases hother : CountsAnother s kind
    · obtain ⟨inner, hinner, hst, hboth⟩ := hcounting hother st h
      have htwo : announces l c d s table kind = [inner.record, st.record] := by
        simp [hboth, announced, hlog]
      exact ⟨by simp [htwo, hother], fun _ => ⟨inner, hinner, hst, htwo⟩⟩
    · have hone : announces l c d s table kind = [st.record] := by
        rw [announces_ok hx hdebug hother h]
        simp [announced, hlog]
      exact ⟨by simp [hone, hother], fun h => absurd h hother⟩

/-- Settings that ask for compiled statements to be written of. -/
def announcing : Configuration := { kept := some { logSql := true } }

theorem announced_once_iff_table :
    announcing.settings.1 = .ok { logSql := true } ∧
      ({} : LogSetup).threshold ≤ Severity.debug.number ∧
      announces {} announcing .null {} (.text "t") .count =
        [Statement.record ⟨"SELECT COUNT(*) FROM t", []⟩] := by
  have hsettings : announcing.settings.1 = .ok { logSql := true } := rfl
  have hdebug : ({} : LogSetup).threshold ≤ Severity.debug.number := by decide
  refine ⟨hsettings, hdebug, ?_⟩
  obtain ⟨-, -, hlogged⟩ := announced_once_iff hsettings hdebug .null {} (.text "t") .count
  exact (hlogged rfl ⟨"SELECT COUNT(*) FROM t", []⟩ rfl).1.mpr fun h => nomatch h.2

/-- Custom SQL whose rows are counted. -/
def customOne : Clauses := { customSql := .text "SELECT a FROM t" }

/-- Counting over custom SQL announces two statements, of which the call gives the second. -/
theorem counting_announced_twice :
    ((statement .null customOne .null .count).runFrom ⟨announcing, []⟩).1 =
        .ok ⟨"SELECT COUNT(*) FROM (SELECT a FROM t) AS t", []⟩ ∧
      announces {} announcing .null customOne .null .count =
        [Statement.record ⟨"SELECT a FROM t", []⟩,
          Statement.record ⟨"SELECT COUNT(*) FROM (SELECT a FROM t) AS t", []⟩] ∧
      (announces {} announcing .null customOne .null .count).length ≠ 1 := by
  have hsettings : announcing.settings.1 = .ok { logSql := true } := rfl
  have hinner : counted announcing .null customOne = .ok ⟨"SELECT a FROM t", []⟩ := by
    rw [counted, (select_runFrom _ _ _ _ _).1, underSettings_of_ok hsettings,
      Clauses.selectBy_text rfl (by decide), Head.ofCustomSql,
      if_neg (by simp [customOne, Clauses.withoutPaging])]
    rfl
  have hboth : announces {} announcing .null customOne .null .count =
      [Statement.record ⟨"SELECT a FROM t", []⟩,
        Statement.record ⟨"SELECT COUNT(*) FROM (SELECT a FROM t) AS t", []⟩] :=
    announces_counting hsettings (by decide) rfl hinner
  refine ⟨?_, hboth, by simp [hboth]⟩
  rw [statement, counted_of_count rfl hsettings, hinner]
  rfl

end Compile

end FluentQuery
