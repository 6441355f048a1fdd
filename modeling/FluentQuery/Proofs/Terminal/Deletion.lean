import FluentQuery.Proofs.Terminal.Validation

/-!
# Deletions

A deletion removes no more rows than the conditions of its query say. Joins, a projection and custom
SQL, which would get lost in the statement, are refused, and so is a query without conditions unless
the whole table is meant.

* **`Query.Deletable`** — clauses that say which rows to delete;
* **`Clauses.deletion`** — the text of the statement: all conditions, and nothing else;
* **`Session.delete_within_conditions`** — what a deletion hands to its adapter.
-/

namespace FluentQuery

/-- No table is given: it counts as false, or nothing is in it. -/
def Value.IsMissingTable (table : Value) : Prop :=
  table.isTruthy = false ∨ (∃ s, table = .text s ∧ Text.isBlank s = true) ∨
    ∃ b, table = .bytes b ∧ isBlankBytes b = true

theorem tableText_of_missing {table : Value} (h : table.IsMissingTable) :
    tableText table = .error (.builder .tableMissing) := by
  unfold tableText
  cases htruthy : table.isTruthy with
  | false => rfl
  | true =>
    rcases h with hfalse | ⟨s, rfl, hblank⟩ | ⟨b, rfl, hblank⟩
    · rw [htruthy] at hfalse
      cases hfalse
    · simp [hblank]
    · simp [hblank]

namespace Clauses

/-- The text that deletes the rows of a table that meet all conditions. -/
def deletion (s : Clauses) (table : String) : String :=
  "DELETE FROM " ++ table ++
    if s.conditions = [] then "" else " WHERE " ++ joinWith " AND " (s.conditions.map Condition.sql)

theorem deleteFrom_eq_ok {s : Clauses} {table : Value} {st : Statement}
    (h : s.deleteFrom table = .ok st) :
    st = ⟨s.deletion table.plain, s.conditions.map Condition.value⟩ := by
  unfold deleteFrom at h
  cases htable : tableText table with
  | error e =>
    rw [htable] at h
    cases h
  | ok t =>
    rw [htable] at h
    cases h
    rw [tableText_eq_ok htable]
    unfold filterParts deletion params predicates
    cases s.conditions with
    | nil => simp [joinWith]
    | cons c rest =>
      have hword : " " ++ "WHERE " = " WHERE " := rfl
      simp only [List.isEmpty_cons, joinWith, String.append_assoc, reduceCtorEq, if_false]
      rw [← hword, String.append_assoc]

end Clauses

namespace Query

variable {q : Query} {s : Clauses} {table : Value} {allowFullTable : Bool}

/-- Clauses say which rows to delete: by conditions alone, or it is the whole table that is
meant. -/
structure Deletable (s : Clauses) (allowFullTable : Bool) : Prop where
  notCustom : s.isCustom = false
  notJoined : s.joins = []
  notProjected : s.selected = []
  conditional : s.conditions = [] → allowFullTable = true

theorem deleteRefusal?_eq_none_iff :
    deleteRefusal? s allowFullTable = none ↔ Deletable s allowFullTable := by
  unfold deleteRefusal?
  constructor
  · intro h
    split at h
    · cases h
    · next hcustom =>
      split at h
      · cases h
      · next hjoins =>
        split at h
        · cases h
        · next hselected =>
          split at h
          · cases h
          · next hconditions =>
            refine ⟨by simpa using hcustom, by simpa using hjoins, by simpa using hselected, ?_⟩
            intro hnone
            simpa [hnone] using hconditions
  · rintro ⟨hcustom, hjoins, hselected, hconditional⟩
    rw [hcustom, hjoins, hselected, if_neg (by decide), if_neg (by decide), if_neg (by decide)]
    refine if_neg ?_
    cases hconditions : s.conditions with
    | nil => simp [hconditional hconditions]
    | cons c rest => simp

/-- A deletion that is refused, or has no table, fails as the builder does. -/
theorem delete_fails (hrefused : ¬Deletable q.clauses allowFullTable ∨ table.IsMissingTable)
    (j : Journaled Context) :
    ∃ b, ((Session.terminal q (.delete table allowFullTable)).runFrom j).1 =
      .error (.builder b) := by
  -- The clauses are looked at first, the table when the statement is compiled.
  cases hrefusal : deleteRefusal? q.clauses allowFullTable with
  | some reason =>
    rw [delete_refused hrefusal]
    exact ⟨_, rfl⟩
  | none =>
    rcases hrefused with hnot | hmissing
    · exact absurd (deleteRefusal?_eq_none_iff.mp hrefusal) hnot
    · have hnone : q.statement table .delete = .error (.builder .tableMissing) := by
        show q.clauses.deleteFrom table = _
        unfold Clauses.deleteFrom
        rw [tableText_of_missing hmissing]
        rfl
      have hcompiled := Compile.statement_outcome q.dialect q.clauses table .delete
        ⟨j.state.configuration, j.journal⟩
      rw [show q.clauses.statementBy (Compile.inspector q.dialect) table .delete = _ from hnone]
        at hcompiled
      rw [delete_allowed hrefusal, Action.runFrom_bind]
      unfold Context.compile
      rw [Action.runFrom_zoom, show (Action.runFrom (Compile.delete q.clauses table) _).1 = _ from
        hcompiled]
      exact ⟨_, rfl⟩

/-- The exchanges of a deletion: its statement, if it is allowed. -/
theorem delete_exchanges {xs : List Exchange} {r : Except Failure Reply}
    (h : Conducts q (.delete table allowFullTable) xs r) :
    xs = [] ∨ ∃ reply, xs = [⟨.executeUpdate (q.clauses.deletion table.plain)
      (.list (q.clauses.conditions.map Condition.value)), reply⟩] := by
  have hasks : ∀ st, q.statement table .delete = .ok st →
      TerminalCall.asks (.delete table allowFullTable) st =
        .executeUpdate (q.clauses.deletion table.plain)
          (.list (q.clauses.conditions.map Condition.value)) := by
    intro st hst
    rw [Clauses.deleteFrom_eq_ok hst]
    rfl
  cases h with
  | refused => exact .inl rfl
  | failed hst he => exact .inr ⟨_, by rw [hasks _ hst]⟩
  | answered hpage hst hr => exact .inr ⟨_, by rw [hasks _ hst]⟩
  | empty hpage => cases hpage
  | paged hpage => cases hpage

end Query

namespace Session

/-- **A deletion removes no more than the conditions say.** It hands its adapter at most one
statement, and that only if the query has no custom SQL, no joins and no projection, and either has
a condition or the whole table is meant. The statement deletes from the table by the conjunction of
all conditions, with their values bound in order, and sort keys and bounds do not matter; so
without conditions it is handed over only if the whole table is meant. A deletion that is refused,
or has no table, fails as the builder does before any call of the driver. All queries stay as they
are. -/
theorem delete_within_conditions {s : Session} {name adapter : String} {q : Query} {a : Adapter}
    (hq : s.queries.lookup name = some q) (ha : s.adapters.lookup adapter = some a)
    (table : Value) (allowFullTable : Bool) :
    (s.run (.terminal name adapter (.delete table allowFullTable))).2.queries = s.queries ∧
    ∃ xs made, (s.run (.terminal name adapter (.delete table allowFullTable))).2.adapters.lookup
        adapter = some (a.after made) ∧
      Exchanges a xs (a.after made) ∧ (xs = [] → made = []) ∧
      (made.filter DriverCall.handsStatement).length ≤ 1 ∧
      (xs = [] ∨ Query.Deletable q.clauses allowFullTable ∧
        ∃ reply, xs = [⟨.executeUpdate (q.clauses.deletion table.plain)
          (.list (q.clauses.conditions.map Condition.value)), reply⟩]) ∧
      (¬Query.Deletable q.clauses allowFullTable ∨ table.IsMissingTable →
        xs = [] ∧ ∃ b, (s.run (.terminal name adapter (.delete table allowFullTable))).1.result =
          .error (.builder b)) := by
  obtain ⟨hresult, hadapter⟩ := run_terminal hq ha (.delete table allowFullTable)
  obtain ⟨xs, hxs, hconducts⟩ :=
    Query.terminal_conducts q (.delete table allowFullTable) ⟨⟨s.configuration, a⟩, []⟩
  obtain ⟨hstatements, hlength⟩ := hconducts.statements
  obtain ⟨made, hmade, hnone, hcalls⟩ := hxs.calls hstatements
  have hrefused : ¬Query.Deletable q.clauses allowFullTable ∨ table.IsMissingTable →
      xs = [] ∧ ∃ b, ((terminal q (.delete table allowFullTable)).runFrom
        ⟨⟨s.configuration, a⟩, []⟩).1 = .error (.builder b) := by
    intro h
    obtain ⟨b, hb⟩ := Query.delete_fails h ⟨⟨s.configuration, a⟩, []⟩
    exact ⟨hconducts.nil_of_builder hb, b, hb⟩
  rw [hmade] at hadapter hxs
  rw [hresult]
  refine ⟨run_queries _ s, xs, made, hadapter, hxs, hnone, hcalls.trans hlength, ?_, hrefused⟩
  by_cases hdeletable : Query.Deletable q.clauses allowFullTable
  · rcases Query.delete_exchanges hconducts with hnil | hone
    · exact .inl hnil
    · exact .inr ⟨hdeletable, hone⟩
  · exact .inl (hrefused (.inl hdeletable)).1

/-- A session with a query for one row, sorted and bounded, a query for all rows, and an adapter. -/
def clearing : Session where
  configuration := { kept := some {} }
  queries := [
    ("one", { clauses := {
      conditions := [⟨"id", .eq, .int 7⟩]
      order := [⟨"id", true⟩]
      limit := some 1 } }),
    ("all", {})]
  adapters := [("a", {
    engine := .sqlite, options := .dict [], connection := some 0, connected := true, opened := 1 })]

theorem delete_within_conditions_one_row :
    ∃ one all a, clearing.queries.lookup "one" = some one ∧
      clearing.queries.lookup "all" = some all ∧
      clearing.adapters.lookup "a" = some a ∧
      (∃ xs made, Exchanges a xs (a.after made) ∧
        (made.filter DriverCall.handsStatement).length ≤ 1 ∧
        (xs = [] ∨ ∃ reply, xs = [⟨.executeUpdate "DELETE FROM t WHERE id = ?" (.list [.int 7]),
          reply⟩])) ∧
      (clearing.run (.terminal "all" "a" (.delete (.text "t") false))).2.adapters.lookup "a" =
        some a ∧
      ∃ b, (clearing.run (.terminal "all" "a" (.delete (.text "t") false))).1.result =
        .error (.builder b) := by
  obtain ⟨-, xs, made, -, hxs, -, hlength, hone, -⟩ :=
    @delete_within_conditions clearing "one" "a" _ _ rfl rfl (.text "t") false
  obtain ⟨-, xs', made', hadapter, -, hnone, -, -, hrefused⟩ :=
    @delete_within_conditions clearing "all" "a" _ _ rfl rfl (.text "t") false
  have hwhole : ¬Query.Deletable {} false := fun h => nomatch h.conditional rfl
  obtain ⟨hnil, b, hb⟩ := hrefused (.inl hwhole)
  rw [hnone hnil, Adapter.after_nil] at hadapter
  refine ⟨_, _, _, rfl, rfl, rfl, ⟨xs, made, hxs, hlength, ?_⟩, hadapter, b, hb⟩
  rcases hone with hempty | ⟨-, reply, hreply⟩
  · exact .inl hempty
  · exact .inr ⟨reply, hreply⟩

end Session

end FluentQuery
