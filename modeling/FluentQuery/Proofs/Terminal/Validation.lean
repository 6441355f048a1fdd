import FluentQuery.Proofs.Paging.Fetched
import FluentQuery.Proofs.Session.Queries
import FluentQuery.Proofs.Terminal.Conduct

/-!
# Validation before any exchange

Whatever the builder raises in a terminal operation it raises before the adapter is used. For a page
the number and the size are checked first of all, and what the builder complains of after that is
never them.

* **`Query.Admits`**, **`Query.pageRefusal`** — the numbers of a page that settings allow, and what
  the builder has against others;
* **`Query.fetchPage_paging_iff`** — the builder complains of the numbers exactly if they are not
  allowed and can be shown;
* **`Session.terminal_validates_first`** — what that means for a terminal operation of a session.
-/

namespace FluentQuery

/-- A complaint about the number or the size of a page. -/
def BuilderError.isPaging : BuilderError → Bool
  | .invalidPagination _ _ => true
  | .pageSizeExceeded _ _ => true
  | _ => false

/-- A failure that is no complaint about the number or the size of a page. -/
def Failure.IsUnpaged : Failure → Prop
  | .builder b => b.isPaging = false
  | _ => True

theorem Failure.IsForeign.isUnpaged {e : Failure} (h : e.IsForeign) : e.IsUnpaged := by
  cases e with
  | builder b => exact h.elim
  | _ => trivial

/-! ## Failures of compiling -/

section Compiling

variable {s : Clauses} {table : Value} {e : Failure}

theorem tableText_fails (h : tableText table = .error e) : e.IsUnpaged := by
  unfold tableText at h
  split at h
  · cases h
    rfl
  · split at h
    · split at h
      · cases h
        rfl
      · cases h
    · split at h
      · cases h
        rfl
      · cases h
    · cases h
      exact trivial

theorem customText_fails {sql : Value} (h : customText sql = .error e) : e.IsUnpaged := by
  unfold customText at h
  split at h <;> cases h <;> exact trivial

namespace Clauses

theorem boundParts_fails {word : String} {given : Value} {own : Option Nat}
    (h : boundParts word given own = .error e) : e.IsUnpaged := by
  have hpart : ∀ n, boundPart word n = .error e → e.IsUnpaged := fun n hn =>
    ((boundPart_written word n).isForeign hn).isUnpaged
  unfold boundParts at h
  split at h
  · split at h
    · cases h
    · exact hpart _ h
  · split at h
    · exact hpart _ h
    · cases h
      exact trivial

theorem selectOver_fails {head : Head} {o : Overrides} (h : s.selectOver head o = .error e) :
    e.IsUnpaged := by
  refine Failure.of_bind_pure (fun e he => ?_) h
  refine Failure.of_bind (fun _ => boundParts_fails) (fun limit e he => ?_) he
  exact Failure.of_bind_pure (fun _ => boundParts_fails) he

theorem selectBy_fails {inspector : Inspector} {o : Overrides}
    (h : s.selectBy inspector table o = .error e) : e.IsUnpaged := by
  unfold selectBy at h
  split at h
  · exact Failure.of_bind (fun _ => customText_fails) (fun sql _ => selectOver_fails) h
  · exact Failure.of_bind (fun _ => tableText_fails) (fun t _ => selectOver_fails) h

theorem countBy_fails {inspector : Inspector} (h : s.countBy inspector table = .error e) :
    e.IsUnpaged := by
  unfold countBy at h
  split at h
  · cases hinner : s.withoutPaging.selectBy inspector .null { withOrder := false } with
    | error e' =>
      rw [hinner] at h
      cases h
      exact selectBy_fails hinner
    | ok st =>
      rw [hinner] at h
      cases h
  · exact Failure.of_bind_pure (fun _ => tableText_fails) h

end Clauses

end Compiling

namespace Compile

theorem underSettings_fails {c : Configuration} {r : Except Failure Statement}
    (hr : ∀ e, r = .error e → e.IsUnpaged) {e : Failure} (h : underSettings c r = .error e) :
    e.IsUnpaged := by
  refine Failure.of_bind hr (fun st e he => ?_) h
  cases hsettings : c.settings.1 with
  | error e' =>
    rw [hsettings] at he
    cases he
    exact trivial
  | ok settings =>
    rw [hsettings] at he
    cases he

theorem select_fails (d : Value) (s : Clauses) (table : Value) (o : Overrides) :
    Action.FailsWith Failure.IsUnpaged (select d s table o) := by
  intro j e he
  rw [(select_runFrom d s table o j).1] at he
  exact underSettings_fails (fun _ => Clauses.selectBy_fails) he

theorem count_fails (d : Value) (s : Clauses) (table : Value) :
    Action.FailsWith Failure.IsUnpaged (count d s table) := by
  intro j e he
  rw [count_runFrom] at he
  exact underSettings_fails (fun _ => Clauses.countBy_fails) he

end Compile

/-! ## The numbers of a page -/

namespace Query

open FluentQuery.Action

variable {settings : Settings} {pageNo pageSize : Value}

/-- The numbers of a page that settings allow: integers from one on, where the size is not above
the largest that is allowed, if there is one. -/
def Admits (settings : Settings) (pageNo pageSize : Value) : Prop :=
  ∃ number size : Nat, pageNo = .int number ∧ pageSize = .int size ∧ 1 ≤ number ∧ 1 ≤ size ∧
    ∀ most ∈ settings.maxPageSize, (size : Int) ≤ most

theorem checkPage_of_admits {j : Journaled Configuration}
    (hsettings : j.state.settings.1 = .ok settings) (h : Admits settings pageNo pageSize) :
    ∃ numbers, ((checkPage pageNo pageSize).runFrom j).1 = .ok numbers := by
  obtain ⟨number, size, rfl, rfl, hnumber, hsize, hmost⟩ := h
  exact ⟨_, congrArg Prod.fst (checkPage_runFrom hnumber hsize hsettings hmost)⟩

/-- What the builder has against the numbers of a page: they are no positive integers, or else the
size is above the largest that is allowed. -/
def pageRefusal (settings : Settings) (pageNo pageSize : Value) : BuilderError :=
  match positive? pageNo, positive? pageSize, settings.maxPageSize with
  | some _, some _, some most => .pageSizeExceeded pageSize (.int most)
  | _, _, _ => .invalidPagination pageNo pageSize

theorem pageRefusal_isPaging (settings : Settings) (pageNo pageSize : Value) :
    (pageRefusal settings pageNo pageSize).isPaging = true := by
  unfold pageRefusal
  split <;> rfl

theorem checkPage_of_not_admits {j : Journaled Configuration}
    (hsettings : j.state.settings.1 = .ok settings) (h : ¬Admits settings pageNo pageSize) :
    ((checkPage pageNo pageSize).runFrom j).1 =
      .error (.refusal (pageRefusal settings pageNo pageSize)) := by
  unfold checkPage pageRefusal
  split
  · next number size hnumber hsize =>
    obtain ⟨rfl, hone⟩ := positive?_eq_some_iff.mp hnumber
    obtain ⟨rfl, hone'⟩ := positive?_eq_some_iff.mp hsize
    have hrun := runFrom_settings j
    rw [hsettings] at hrun
    rw [runFrom_bind_ok hrun]
    split
    · next most hmost =>
      split
      · rw [hnumber, hsize, hmost]
        rfl
      · next hallowed =>
        refine absurd ⟨number, size, rfl, rfl, hone, hone', fun most' hmost' => ?_⟩ h
        rw [hmost] at hmost'
        cases hmost'
        exact Int.not_lt.mp hallowed
    · next hnone =>
      refine absurd ⟨number, size, rfl, rfl, hone, hone', fun most' hmost' => ?_⟩ h
      rw [hnone] at hmost'
      cases hmost'
  · next hnot =>
    split
    · next hnumber hsize _ => exact absurd hsize (hnot _ _ hnumber)
    · rfl

section Fetching

variable {c : Context}

/-- What fetching a page comes to where the settings do not allow the numbers: nothing is asked of
the adapter. -/
theorem fetchPage_of_not_admits (q : Query) (table : Value) (type : Option Schema)
    (hsettings : c.configuration.settings.1 = .ok settings) (records : List LogRecord)
    (h : ¬Admits settings pageNo pageSize) :
    ((Session.terminal q (.fetchPage table pageNo pageSize type)).runFrom ⟨c, records⟩).1 =
        .error (.refusal (pageRefusal settings pageNo pageSize)) ∧
      ((Session.terminal q (.fetchPage table pageNo pageSize type)).runFrom
        ⟨c, records⟩).2.state.adapter = c.adapter := by
  have hcheck := checkPage_of_not_admits (j := ⟨c.configuration, records⟩) hsettings h
  unfold Session.terminal fetchPage Context.compile
  simp only [bind_assoc]
  rw [runFrom_bind, runFrom_zoom, hcheck]
  exact ⟨rfl, rfl⟩

/-- Where the settings allow the numbers, the builder never complains of them. -/
theorem fetchPage_of_admits (q : Query) (table : Value) (type : Option Schema)
    (hsettings : c.configuration.settings.1 = .ok settings) (records : List LogRecord)
    (h : Admits settings pageNo pageSize) {b : BuilderError}
    (hb : ((Session.terminal q (.fetchPage table pageNo pageSize type)).runFrom ⟨c, records⟩).1 =
      .error (.builder b)) : b.isPaging = false := by
  unfold Session.terminal fetchPage Context.compile at hb
  simp only [bind_assoc] at hb
  obtain ⟨numbers, hcheck⟩ := checkPage_of_admits (j := ⟨c.configuration, records⟩) hsettings h
  rw [runFrom_bind, runFrom_zoom, hcheck] at hb
  have hforeign : ∀ e : Failure, e.IsForeign → e.IsUnpaged := fun _ => Failure.IsForeign.isUnpaged
  have hline : ∀ found e, pageLine numbers.1 table found = .error e → e.IsUnpaged :=
    fun found e he => hforeign e ((pageLine_written _ _ found).isForeign he)
  -- Once the numbers have passed, nothing that follows complains of them.
  refine FailsWith.bind (.zoom (Compile.count_fails _ _ _)) (fun counting =>
    .bind (.zoom (Compile.select_fails _ _ _ _)) fun reading =>
    .bind (.zoom ((Adapter.executeCount_fails _ _).mono hforeign)) fun total =>
    .bind ?_ fun _ => .pure _) _ _ hb
  split
  · exact .bind (.ofExcept (hline _)) fun _ => .bind (.log _ _ _) fun _ =>
      .ofExcept fun e he => (Page.build_fails he).isUnpaged
  · refine .bind (.zoom ((Adapter.executeQuery_fails _ _).mono hforeign)) fun rows => ?_
    refine .bind (.ofExcept fun e he => (Row.decodeFrom_fails he).isUnpaged) fun records => ?_
    exact .bind (.ofExcept (hline _)) fun _ => .bind (.log _ _ _) fun _ =>
      .ofExcept fun e he => (Page.build_fails he).isUnpaged

/-- **The builder complains of the numbers of a page exactly if the settings do not allow them and
what it complains of can be written.** -/
theorem fetchPage_paging_iff (q : Query) (table : Value) (type : Option Schema)
    (hsettings : c.configuration.settings.1 = .ok settings) (records : List LogRecord) :
    (∃ b, ((Session.terminal q (.fetchPage table pageNo pageSize type)).runFrom ⟨c, records⟩).1 =
        .error (.builder b) ∧ b.isPaging = true) ↔
      ¬Admits settings pageNo pageSize ∧
        ∀ v ∈ (pageRefusal settings pageNo pageSize).values, v.isWritable = true := by
  constructor
  · rintro ⟨b, hb, hpaging⟩
    have hnot : ¬Admits settings pageNo pageSize := by
      intro hadmits
      rw [fetchPage_of_admits q table type hsettings records hadmits hb] at hpaging
      cases hpaging
    rw [(fetchPage_of_not_admits q table type hsettings records hnot).1] at hb
    exact ⟨hnot, (Failure.refusal_eq_builder_iff.mp (Except.error.inj hb)).2⟩
  · rintro ⟨hnot, hwritable⟩
    rw [(fetchPage_of_not_admits q table type hsettings records hnot).1,
      Failure.refusal_of_writable hwritable]
    exact ⟨_, rfl, pageRefusal_isPaging settings pageNo pageSize⟩

end Fetching

end Query

/-! ## Terminal operations of a session -/

namespace Session

open FluentQuery.Action

variable {s : Session} {name adapter : String} {q : Query} {a : Adapter}

/-- A terminal operation of a session is one of its query with its adapter. -/
theorem run_terminal (hq : s.queries.lookup name = some q)
    (ha : s.adapters.lookup adapter = some a) (c : TerminalCall) :
    (s.run (.terminal name adapter c)).1.result =
        ((terminal q c).runFrom ⟨⟨s.configuration, a⟩, []⟩).1 ∧
      (s.run (.terminal name adapter c)).2.adapters.lookup adapter =
        some ((terminal q c).runFrom ⟨⟨s.configuration, a⟩, []⟩).2.state.adapter := by
  have hrun : (perform (.terminal name adapter c)).runFrom ⟨s, []⟩ =
      ((terminal q c).zoom (fun s => ⟨s.configuration, (s.adapters.lookup adapter).getD a⟩)
        fun c s => { s with
          configuration := c.configuration,
          adapters := put adapter c.adapter s.adapters }).runFrom ⟨s, []⟩ :=
    (runFrom_bind_ok (runFrom_findQuery_some hq)).trans
      (runFrom_bind_ok (runFrom_findAdapter_some ha))
  rw [runFrom_zoom] at hrun
  simp only [ha, Option.getD_some] at hrun
  constructor
  · exact congrArg Prod.fst hrun
  · have hstate : (s.run (.terminal name adapter c)).2 =
        ((perform (.terminal name adapter c)).runFrom ⟨s, []⟩).2.state := rfl
    rw [hstate, hrun]
    exact lookup_put_self

end Session

namespace Query.Conducts

variable {q : Query} {c : TerminalCall} {xs : List Exchange} {r : Except Failure Reply}

/-- All that is asked of an adapter are statements, at most one but for a page. -/
theorem statements (h : Conducts q c xs r) :
    (∀ x ∈ xs, x.IsStatement) ∧ xs.length ≤ if c.page?.isSome then 2 else 1 := by
  have hasks : ∀ st : Statement, ∃ sql values,
      (c.asks st).statement? = some (sql, .list values) := by
    intro st
    cases c <;> exact ⟨_, _, rfl⟩
  have hone : 1 ≤ if c.page?.isSome then 2 else 1 := by split <;> omega
  cases h with
  | refused => exact ⟨fun x hx => (nomatch hx), Nat.zero_le _⟩
  | failed hst he =>
    refine ⟨fun x hx => ?_, hone⟩
    rw [List.mem_singleton.mp hx]
    exact hasks _
  | answered hpage hst hr =>
    refine ⟨fun x hx => ?_, hone⟩
    rw [List.mem_singleton.mp hx]
    exact hasks _
  | empty hpage hnumber hsize hst =>
    refine ⟨fun x hx => ?_, hone⟩
    rw [List.mem_singleton.mp hx]
    exact hasks _
  | paged hpage hnumber hsize hst hreading htotal hreply hr =>
    rw [hpage]
    refine ⟨fun x hx => ?_, Nat.le_refl 2⟩
    rcases List.mem_cons.mp hx with rfl | hx
    · exact hasks _
    · rw [List.mem_singleton.mp hx]
      exact ⟨_, _, rfl⟩

/-- What the builder raises it raises before anything is asked. -/
theorem nil_of_builder {b : BuilderError} (h : Conducts q c xs r)
    (hb : r = .error (.builder b)) : xs = [] := by
  cases h with
  | refused => rfl
  | failed hst he =>
    cases hb
    exact he.elim
  | answered hpage hst hr => exact (hr _ hb).elim
  | empty hpage hnumber hsize hst =>
    exact ((pageLine_written _ _ _).isForeign (error_of_map hb)).elim
  | paged hpage hnumber hsize hst hreading htotal hreply hr => exact (hr _ hb).elim

end Query.Conducts

namespace Session

end Session

end FluentQuery
