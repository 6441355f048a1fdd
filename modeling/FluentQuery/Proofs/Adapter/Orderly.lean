import Mathlib.Data.List.Basic
import FluentQuery.Proofs.Adapter.Course

/-!
# The order of the calls of an execution

An execution makes at most six calls, each once: it takes a cursor, hands over the statement,
fetches, commits, rolls back and releases the cursor. Which of them are made, and in what order,
depends on what each of them raises.

* **`Adapter.Comes`** — among calls, one comes right behind some others, with what it raises;
* **`Adapter.Orderly`** — the rules that the calls of an execution and its result keep;
* **`Adapter.execute_orderly`** — every execution on a connected adapter keeps them, whatever its
  driver does.
-/

namespace FluentQuery

/-- Whether a call does the work of a statement, which the others undo or clean up after. -/
def DriverCall.works : DriverCall → Bool
  | .cursor _ | .execute _ _ _ | .fetchAll _ | .commit _ => true
  | _ => false

namespace Adapter

variable {a : Adapter} {n : Nat} {c : DriverCall} {r : Option Fault} {text : String}
  {given : List Value}

/-! ## Calls by their place -/

/-- Among calls that an adapter makes, one comes right behind some others, and this is what it
raises, if anything. -/
def Comes (a : Adapter) (made front : List DriverCall) (c : DriverCall) (r : Option Fault) : Prop :=
  front ++ [c] <+: made ∧ a.driver.fault (a.calls ++ front ++ [c]) = r

theorem Comes.mem {made front : List DriverCall} (h : a.Comes made front c r) : c ∈ made :=
  h.1.subset (List.mem_append_right _ (List.mem_singleton.mpr rfl))

theorem exists_comes_of_mem {made : List DriverCall} (h : c ∈ made) :
    ∃ front r, a.Comes made front c r := by
  obtain ⟨front, back, rfl⟩ := List.append_of_mem h
  exact ⟨front, _, ⟨back, by simp⟩, rfl⟩

theorem not_comes_nil {front : List DriverCall} : ¬a.Comes [] front c r := fun h => nomatch h.mem

theorem comes_singleton {x : DriverCall} {front : List DriverCall} :
    a.Comes [x] front c r ↔ front = [] ∧ c = x ∧ a.driver.fault (a.calls ++ [x]) = r := by
  constructor
  · rintro ⟨hplace, hfault⟩
    rcases List.prefix_concat_iff.mp (show front ++ [c] <+: [] ++ [x] from hplace) with hall | hnil
    · obtain ⟨rfl, hlast⟩ := List.append_inj' hall rfl
      obtain rfl : c = x := by simpa using hlast
      exact ⟨rfl, rfl, by simpa using hfault⟩
    · have := hnil.length_le
      simp at this
  · rintro ⟨rfl, rfl, hfault⟩
    exact ⟨List.prefix_refl _, by simpa using hfault⟩

/-- A call among two lists of calls is in the first or, behind all of that, in the second. -/
theorem comes_append {xs ys front : List DriverCall} :
    a.Comes (xs ++ ys) front c r ↔
      a.Comes xs front c r ∨ ∃ back, front = xs ++ back ∧ (a.after xs).Comes ys back c r := by
  constructor
  · rintro ⟨hplace, hfault⟩
    rcases Nat.lt_or_ge front.length xs.length with hlt | hge
    · refine .inl ⟨List.prefix_of_prefix_length_le hplace (List.prefix_append xs ys) ?_, hfault⟩
      simpa using Nat.succ_le_of_lt hlt
    · obtain ⟨back, rfl⟩ := List.prefix_of_prefix_length_le (List.prefix_append xs ys)
        ((List.prefix_append front [c]).trans hplace) hge
      rw [List.append_assoc] at hplace
      refine .inr ⟨back, rfl, (List.prefix_append_right_inj xs).mp hplace, ?_⟩
      rw [after_driver, after_calls]
      simpa only [List.append_assoc] using hfault
  · rintro (⟨hplace, hfault⟩ | ⟨back, rfl, hplace, hfault⟩)
    · exact ⟨hplace.trans (List.prefix_append xs ys), hfault⟩
    · rw [after_driver, after_calls] at hfault
      refine ⟨?_, by simpa only [List.append_assoc] using hfault⟩
      rw [List.append_assoc]
      exact (List.prefix_append_right_inj xs).mpr hplace

/-- A plan is carried out from its front on: before a call that is made nothing has raised, and one
that raises is the last. -/
theorem comes_attempted {plan front : List DriverCall} (h : a.Comes (a.attempted plan) front c r) :
    front ++ [c] <+: plan ∧ a.raised front = none ∧
      ∀ f, r = some f → a.raised plan = some f ∧ a.attempted plan = front ++ [c] := by
  -- By induction on the plan: its first call raises and ends it, or the rest is made in the state
  -- behind that call, which is why the adapter changes along the way.
  induction plan generalizing a front with
  | nil => exact (not_comes_nil h).elim
  | cons x rest ih =>
    cases hx : a.driver.fault (a.calls ++ [x]) with
    | some g =>
      rw [attempted_cons_of_some hx, comes_singleton] at h
      obtain ⟨rfl, rfl, hr⟩ := h
      refine ⟨⟨rest, rfl⟩, rfl, fun f hf => ⟨?_, attempted_cons_of_some hx⟩⟩
      rw [raised_cons_of_some hx, ← hx, hr, hf]
    | none =>
      rw [attempted_cons_of_none hx, ← List.singleton_append, comes_append, comes_singleton] at h
      rcases h with ⟨rfl, rfl, hr⟩ | ⟨back, rfl, hback⟩
      · refine ⟨⟨rest, rfl⟩, rfl, fun f hf => ?_⟩
        rw [hx, hf] at hr
        cases hr
      · obtain ⟨hplace, hsmooth, hlast⟩ := ih hback
        refine ⟨List.cons_prefix_cons.mpr ⟨rfl, hplace⟩, ?_, fun f hf => ?_⟩
        · rw [List.singleton_append, raised_cons_of_none hx, hsmooth]
        · obtain ⟨hraised, hall⟩ := hlast f hf
          rw [raised_cons_of_none hx, attempted_cons_of_none hx]
          exact ⟨hraised, by rw [hall]; rfl⟩

theorem plan_goes_on (plan : List DriverCall) : a.attempted plan <+: plan := by
  induction plan generalizing a with
  | nil => exact List.prefix_refl _
  | cons x rest ih =>
    cases hx : a.driver.fault (a.calls ++ [x]) with
    | some f => rw [attempted_cons_of_some hx]; exact ⟨rest, rfl⟩
    | none =>
      rw [attempted_cons_of_none hx]
      exact List.cons_prefix_cons.mpr ⟨rfl, ih⟩

/-- What stops a plan is raised by the last of the calls that are made. -/
theorem exists_comes_of_raised {plan : List DriverCall} {f : Fault} (h : a.raised plan = some f) :
    ∃ front c, a.Comes (a.attempted plan) front c (some f) := by
  induction plan generalizing a with
  | nil => cases h
  | cons x rest ih =>
    cases hx : a.driver.fault (a.calls ++ [x]) with
    | some g =>
      rw [raised_cons_of_some hx] at h
      rw [attempted_cons_of_some hx]
      exact ⟨[], x, comes_singleton.mpr ⟨rfl, rfl, hx.trans h⟩⟩
    | none =>
      rw [raised_cons_of_none hx] at h
      obtain ⟨front, c, hcomes⟩ := ih h
      rw [attempted_cons_of_none hx, ← List.singleton_append]
      exact ⟨[x] ++ front, c, comes_append.mpr (.inr ⟨front, rfl, hcomes⟩)⟩

theorem not_comes_of_unraised {made front : List DriverCall} {f : Fault}
    (h : a.raised made = none) : ¬a.Comes made front c (some f) := by
  intro hcomes
  rw [← attempted_of_raised_none h] at hcomes
  rw [((comes_attempted hcomes).2.2 f rfl).1] at h
  cases h

/-- The first of planned calls is made. -/
theorem mem_attempted_cons (x : DriverCall) (rest : List DriverCall) :
    x ∈ a.attempted (x :: rest) := by
  cases hx : a.driver.fault (a.calls ++ [x]) with
  | some f => rw [attempted_cons_of_some hx]; exact List.mem_singleton.mpr rfl
  | none => rw [attempted_cons_of_none hx]; exact List.mem_cons_self ..

/-! ## The calls of an execution by their place -/

theorem fetching_eq (a : Adapter) (n : Nat) :
    a.fetching n = [] ∧ (a.driver.answer a.calls).columns.getD [] = [] ∨
      a.fetching n = [.fetchAll n] ∧ (a.driver.answer a.calls).columns.getD [] ≠ [] := by
  unfold fetching
  split
  · next hcolumns => exact .inl ⟨rfl, List.isEmpty_iff.mp hcolumns⟩
  · next hcolumns => exact .inr ⟨rfl, fun hnil => hcolumns (List.isEmpty_iff.mpr hnil)⟩

/-- What a plan goes on with once the statement is handed over. -/
theorem plan_eq (a : Adapter) (n : Nat) (text : String) (given : List Value) :
    a.plan n text given = a.withCursor (.cursor n) ++ [handing n text given] ++
      (a.after (a.withCursor (.cursor n) ++ [handing n text given])).collecting n := by
  unfold plan working
  rw [after_after, List.append_assoc, List.singleton_append]

/-- The place of a call in the plan of an execution. -/
inductive InPlan (a : Adapter) (n : Nat) (text : String) (given : List Value) :
    List DriverCall → DriverCall → Prop
  | cursor : a.engine ≠ .duckdb → InPlan a n text given [] (.cursor n)
  | statement : InPlan a n text given (a.withCursor (.cursor n)) (handing n text given)
  | fetch : (a.driver.answer (a.calls ++ (a.withCursor (.cursor n) ++
        [handing n text given]))).columns.getD [] ≠ [] →
      InPlan a n text given (a.withCursor (.cursor n) ++ [handing n text given]) (.fetchAll n)
  | commit {front : List DriverCall} : (a.after front).hasPending = true →
      front = a.withCursor (.cursor n) ++ [handing n text given] ++
        (a.after (a.withCursor (.cursor n) ++ [handing n text given])).fetching n →
      InPlan a n text given front (.commit n)

theorem place_in_plan {front : List DriverCall} (h : front ++ [c] <+: a.plan n text given) :
    InPlan a n text given front c := by
  have hcomes : a.Comes (a.plan n text given) front c _ := ⟨h, rfl⟩
  rw [plan_eq] at hcomes
  unfold collecting at hcomes
  rw [comes_append, comes_append] at hcomes
  rcases hcomes with (hcursor | ⟨back, rfl, hstatement⟩) | ⟨back, rfl, hcollect⟩
  · obtain ⟨rfl, hengine⟩ := mem_withCursor hcursor.mem
    unfold withCursor at hcursor
    rw [if_neg hengine, comes_singleton] at hcursor
    obtain ⟨rfl, -⟩ := hcursor
    exact .cursor hengine
  · rw [comes_singleton] at hstatement
    obtain ⟨rfl, rfl, -⟩ := hstatement
    rw [List.append_nil]
    exact .statement
  · rw [comes_append] at hcollect
    rcases hcollect with hfetch | ⟨back, rfl, hcommit⟩
    · rcases fetching_eq (a.after (a.withCursor (.cursor n) ++ [handing n text given])) n with
        ⟨hnone, -⟩ | ⟨hone, hcolumns⟩
      · rw [hnone] at hfetch
        exact (not_comes_nil hfetch).elim
      · rw [hone, comes_singleton] at hfetch
        obtain ⟨rfl, rfl, -⟩ := hfetch
        rw [List.append_nil]
        exact .fetch hcolumns
    · obtain rfl := mem_ending hcommit.mem
      unfold ending at hcommit
      split at hcommit
      · next hpending =>
        rw [comes_singleton] at hcommit
        obtain ⟨rfl, -⟩ := hcommit
        rw [after_after] at hpending
        rw [List.append_nil]
        exact .commit hpending rfl
      · exact (not_comes_nil hcommit).elim

/-- The calls that are made of a plan do the work of its statement. -/
theorem works_of_attempted {front : List DriverCall}
    (h : a.Comes (a.attempted (a.plan n text given)) front c r) : c.works = true := by
  cases place_in_plan (comes_attempted h).1 <;> rfl

theorem afterwards_eq (a : Adapter) (n : Nat) (plan : List DriverCall) :
    a.afterwards n plan = [] ∨ a.afterwards n plan = [.rollback n] ∧
      ∃ f, a.raised plan = some f ∧ a.engine.owns f = true ∧
        (a.after (a.attempted plan)).hasPending = true := by
  unfold afterwards undoing ending
  split
  · next f hraised =>
    split
    · next howns =>
      split
      · next hpending => exact .inr ⟨rfl, f, hraised, howns, hpending⟩
      · exact .inl rfl
    · exact .inl rfl
  · exact .inl rfl

theorem releasing_eq (a : Adapter) (n : Nat) :
    a.releasing n = [] ∨ a.releasing n = [.closeCursor n] ∧ a.engine ≠ .duckdb ∧
      a.driver.fault (a.calls ++ [.cursor n]) = none := by
  unfold releasing
  split
  · exact .inl rfl
  · next hraised =>
    unfold withCursor at hraised ⊢
    split at hraised
    · next hengine => exact .inl (if_pos hengine)
    · next hengine =>
      refine .inr ⟨if_neg hengine, hengine, ?_⟩
      cases hfault : a.driver.fault (a.calls ++ [.cursor n]) with
      | none => rfl
      | some f =>
        rw [raised_cons_of_some hfault] at hraised
        cases hraised

theorem attempted_releasing (a b : Adapter) (n : Nat) :
    b.attempted (a.releasing n) = a.releasing n := by
  rcases releasing_eq a n with hnone | ⟨hone, -⟩
  · rw [hnone]; rfl
  · rw [hone, attempted_singleton]

/-- The cursor is not released before the end. -/
theorem closeCursor_not_before : .closeCursor n ∉
    a.attempted (a.plan n text given) ++ a.afterwards n (a.plan n text given) := by
  intro hmem
  rcases List.mem_append.mp hmem with hplan | hundo
  · rcases mem_plan (attempted_subset _ hplan) with hc | hc | hc | hc <;> cases hc
  · rcases afterwards_eq a n (a.plan n text given) with hnone | ⟨hone, -⟩
    · rw [hnone] at hundo
      cases hundo
    · rw [hone] at hundo
      cases List.mem_singleton.mp hundo

/-- The place of each call of an execution: in its plan, or undoing that, or at the end. -/
theorem place_in_execution {front : List DriverCall}
    (h : a.Comes (a.executionCalls n text given) front c r) :
    a.Comes (a.attempted (a.plan n text given)) front c r ∨
      (c = .rollback n ∧ front = a.attempted (a.plan n text given) ∧
        ∃ f, a.raised (a.plan n text given) = some f ∧ a.engine.owns f = true ∧
          (a.after (a.attempted (a.plan n text given))).hasPending = true) ∨
      (c = .closeCursor n ∧ a.executionCalls n text given = front ++ [.closeCursor n]) := by
  unfold executionCalls at h ⊢
  rw [comes_append, comes_append] at h
  rcases h with (hplan | ⟨back, rfl, hundo⟩) | ⟨back, rfl, hrelease⟩
  · exact .inl hplan
  · rcases afterwards_eq a n (a.plan n text given) with hnone | ⟨hone, hwhy⟩
    · rw [hnone] at hundo
      exact (not_comes_nil hundo).elim
    · rw [hone, comes_singleton] at hundo
      obtain ⟨rfl, rfl, -⟩ := hundo
      exact .inr (.inl ⟨rfl, List.append_nil _, hwhy⟩)
  · rcases releasing_eq a n with hnone | ⟨hone, -⟩
    · rw [hnone] at hrelease
      exact (not_comes_nil hrelease).elim
    · rw [hone, comes_singleton] at hrelease
      obtain ⟨rfl, rfl, -⟩ := hrelease
      exact .inr (.inr ⟨rfl, by rw [hone, List.append_nil]⟩)

/-- A call that does the work of the statement is one of its plan. -/
theorem Comes.in_plan {front : List DriverCall}
    (h : a.Comes (a.executionCalls n text given) front c r) (hworks : c.works = true) :
    a.Comes (a.attempted (a.plan n text given)) front c r := by
  rcases place_in_execution h with hplan | ⟨rfl, -⟩ | ⟨rfl, -⟩
  · exact hplan
  · cases hworks
  · cases hworks

theorem comes_of_attempted {front : List DriverCall}
    (h : a.Comes (a.attempted (a.plan n text given)) front c r) :
    a.Comes (a.executionCalls n text given) front c r := by
  unfold executionCalls
  rw [comes_append, comes_append]
  exact .inl (.inl h)

/-- All that an execution can do, in order. -/
def courseOf (n : Nat) (text : String) (given : List Value) : List DriverCall :=
  [.cursor n, handing n text given, .fetchAll n, .commit n, .rollback n, .closeCursor n]

theorem withCursor_sublist (a : Adapter) (c : DriverCall) : (a.withCursor c).Sublist [c] := by
  refine List.sublist_singleton.mpr ?_
  unfold withCursor
  split
  · exact .inl rfl
  · exact .inr rfl

theorem ending_sublist (a : Adapter) (c : DriverCall) : (a.ending c).Sublist [c] := by
  refine List.sublist_singleton.mpr ?_
  unfold ending
  split
  · exact .inr rfl
  · exact .inl rfl

theorem plan_sublist (a : Adapter) (n : Nat) (text : String) (given : List Value) :
    (a.plan n text given).Sublist [.cursor n, handing n text given, .fetchAll n, .commit n] := by
  have hfetch : ∀ b : Adapter, (b.fetching n).Sublist [.fetchAll n] := fun b =>
    List.sublist_singleton.mpr ((fetching_eq b n).imp And.left And.left)
  unfold plan working collecting
  exact (withCursor_sublist a _).append
    (((hfetch _).append (ending_sublist _ _)).cons_cons (handing n text given))

theorem executionCalls_sublist (a : Adapter) (n : Nat) (text : String) (given : List Value) :
    (a.executionCalls n text given).Sublist (courseOf n text given) := by
  have hplan := (plan_goes_on (a := a) _).sublist.trans (plan_sublist a n text given)
  have hundo : (a.afterwards n (a.plan n text given)).Sublist [.rollback n] :=
    List.sublist_singleton.mpr ((afterwards_eq a n _).imp id And.left)
  have hrelease : (a.releasing n).Sublist [.closeCursor n] :=
    List.sublist_singleton.mpr ((releasing_eq a n).imp id And.left)
  exact (hplan.append hundo).append hrelease

/-! ## The rules -/

/-- The rules that the calls of one execution keep, with its result. -/
structure Orderly (a : Adapter) (n : Nat) (text : String) (given : List Value)
    (made : List DriverCall) (r : Except Failure Execution) : Prop where
  /-- No other calls are made, none of them twice, and they come in this order. -/
  ordered : made.Sublist (courseOf n text given)
  /-- Rows are fetched exactly if the statement succeeds and has columns. -/
  fetches_iff : .fetchAll n ∈ made ↔ ∃ front, a.Comes made front (handing n text given) none ∧
    (a.driver.answer (a.calls ++ front ++ [handing n text given])).columns.getD [] ≠ []
  /-- A commit comes when no call has failed, behind a statement that was handed over and the fetch
  of its rows if it has columns. -/
  commits_behind : ∀ front, front ++ [.commit n] <+: made → a.raised front = none ∧
    ∃ before, a.Comes front before (handing n text given) none ∧
      ((a.driver.answer (a.calls ++ before ++ [handing n text given])).columns.getD [] ≠ [] →
        .fetchAll n ∈ front)
  /-- What the engine's own driver raises in the work of the statement is answered by a rollback, if
  there is pending work, and nothing else is. -/
  rolls_back_iff : .rollback n ∈ made ↔ ∃ front c f, a.Comes made front c (some f) ∧
    c.works = true ∧ a.engine.owns f = true ∧ (a.after (front ++ [c])).hasPending = true
  /-- A transaction is ended where there is pending work: with SQLite if one is open, with DuckDB
  never. -/
  pending : ∀ front c, front ++ [c] <+: made → c = .commit n ∨ c = .rollback n →
    (a.after front).hasPending = true
  /-- The cursor is released exactly if it was obtained. -/
  releases_iff : .closeCursor n ∈ made ↔ ∃ front, a.Comes made front (.cursor n) none
  /-- No call is made behind the release. -/
  releases_last : ∀ front, front ++ [.closeCursor n] <+: made → made = front ++ [.closeCursor n]
  /-- DuckDB has no cursors. -/
  cursorless : a.engine = .duckdb → .cursor n ∉ made
  /-- What the engine's own driver raises in the work of the statement is wrapped, if nothing is
  raised behind it. -/
  wraps : ∀ front c f, a.Comes made front c (some f) → c.works = true → a.engine.owns f = true →
    (∀ front' c' g, a.Comes made front' c' (some g) → c'.works = true) →
    r = .error (.statement
      ⟨a.engine.name ++ " statement failed: " ++ f.message, a.engine.name, some (.fault f)⟩)
  /-- There is a result only if no call fails. -/
  returns : ∀ x, r = .ok x → ∀ front c f, ¬a.Comes made front c (some f)

theorem comes_of_unraised {made front : List DriverCall} (hplace : front ++ [c] <+: made)
    (h : a.raised made = none) : a.Comes made front c none := by
  refine ⟨hplace, ?_⟩
  cases hfault : a.driver.fault (a.calls ++ front ++ [c]) with
  | none => rfl
  | some f => exact (not_comes_of_unraised h ⟨hplace, hfault⟩).elim

theorem Comes.trans {front made before : List DriverCall} (h : a.Comes front before c r)
    (hfront : front <+: made) : a.Comes made before c r := ⟨h.1.trans hfront, h.2⟩

theorem raised_concat_of_none {front : List DriverCall} (h : a.raised front = none)
    (hc : a.driver.fault (a.calls ++ front ++ [c]) = none) : a.raised (front ++ [c]) = none := by
  rw [raised_append, h, Option.none_or, raised_cons_of_none (by exact hc)]
  rfl

section Rules

/-- Once the statement has succeeded, its rows are fetched if it has columns. -/
theorem fetchAll_mem_iff :
    .fetchAll n ∈ a.executionCalls n text given ↔
      ∃ front, a.Comes (a.executionCalls n text given) front (handing n text given) none ∧
        (a.driver.answer (a.calls ++ front ++ [handing n text given])).columns.getD [] ≠ [] := by
  constructor
  · intro hmem
    obtain ⟨front, r, hcomes⟩ := exists_comes_of_mem (a := a) hmem
    obtain ⟨hplace, hsmooth, -⟩ := comes_attempted (hcomes.in_plan rfl)
    cases place_in_plan hplace with
    | fetch hcolumns =>
      have hstatement := comes_of_unraised (List.prefix_refl _) hsmooth
      refine ⟨_, hstatement.trans ((List.prefix_append _ _).trans hcomes.1), ?_⟩
      rwa [List.append_assoc]
  · rintro ⟨front, hcomes, hcolumns⟩
    obtain ⟨hplace, hsmooth, -⟩ := comes_attempted (hcomes.in_plan rfl)
    cases place_in_plan hplace with
    | statement =>
      have hraised := raised_concat_of_none hsmooth hcomes.2
      rcases fetching_eq (a.after (a.withCursor (.cursor n) ++ [handing n text given])) n with
        ⟨-, hnone⟩ | ⟨hfetch, -⟩
      · rw [after_driver, after_calls, ← List.append_assoc] at hnone
        exact absurd hnone hcolumns
      · -- The fetch is the next call of the plan, so it is made.
        obtain ⟨rest, hcollect⟩ : ∃ rest,
            (a.after (a.withCursor (.cursor n) ++ [handing n text given])).collecting n =
              .fetchAll n :: rest := by
          unfold collecting
          rw [hfetch]
          exact ⟨_, rfl⟩
        unfold executionCalls
        rw [plan_eq, attempted_append_of_none hraised, hcollect]
        exact List.mem_append_left _ (List.mem_append_left _
          (List.mem_append_right _ (mem_attempted_cons _ _)))

/-- Behind a commit there is the statement, and the fetch of its rows if it has columns. -/
theorem commit_behind {front : List DriverCall}
    (h : front ++ [.commit n] <+: a.executionCalls n text given) :
    a.raised front = none ∧ ∃ before, a.Comes front before (handing n text given) none ∧
      ((a.driver.answer (a.calls ++ before ++ [handing n text given])).columns.getD [] ≠ [] →
        .fetchAll n ∈ front) := by
  have hcomes : a.Comes (a.executionCalls n text given) front (.commit n) _ := ⟨h, rfl⟩
  obtain ⟨hplace, hsmooth, -⟩ := comes_attempted (hcomes.in_plan rfl)
  cases place_in_plan hplace with
  | commit hpending hfront =>
    refine ⟨hsmooth, _, comes_of_unraised ⟨_, hfront.symm⟩ hsmooth, fun hcolumns => ?_⟩
    rcases fetching_eq (a.after (a.withCursor (.cursor n) ++ [handing n text given])) n with
      ⟨-, hnone⟩ | ⟨hfetch, -⟩
    · rw [after_driver, after_calls, ← List.append_assoc] at hnone
      exact absurd hnone hcolumns
    · rw [hfront, hfetch]
      exact List.mem_append_right _ (List.mem_singleton.mpr rfl)

theorem rollback_mem_iff :
    .rollback n ∈ a.executionCalls n text given ↔ ∃ front c f,
      a.Comes (a.executionCalls n text given) front c (some f) ∧ c.works = true ∧
        a.engine.owns f = true ∧ (a.after (front ++ [c])).hasPending = true := by
  constructor
  · intro hmem
    obtain ⟨front, r, hcomes⟩ := exists_comes_of_mem (a := a) hmem
    rcases place_in_execution hcomes with hplan | ⟨-, -, f, hraised, howns, hpending⟩ | ⟨hc, -⟩
    · cases works_of_attempted hplan
    · -- What has stopped the plan is raised by the last call made of it.
      obtain ⟨before, c, hlast⟩ := exists_comes_of_raised hraised
      rw [((comes_attempted hlast).2.2 f rfl).2] at hpending
      exact ⟨before, c, f, comes_of_attempted hlast, works_of_attempted hlast, howns, hpending⟩
    · cases hc
  · rintro ⟨front, c, f, hcomes, hworks, howns, hpending⟩
    obtain ⟨hraised, hall⟩ := (comes_attempted (hcomes.in_plan hworks)).2.2 f rfl
    rw [← hall] at hpending
    unfold executionCalls afterwards
    rw [hraised]
    refine List.mem_append_left _ (List.mem_append_right _ ?_)
    show _ ∈ (a.after (a.attempted (a.plan n text given))).undoing n f
    unfold undoing ending
    rw [after_engine, if_pos howns, if_pos hpending]
    exact List.mem_singleton.mpr rfl

theorem pending_of_ends {front : List DriverCall}
    (h : front ++ [c] <+: a.executionCalls n text given) (hc : c = .commit n ∨ c = .rollback n) :
    (a.after front).hasPending = true := by
  have hcomes : a.Comes (a.executionCalls n text given) front c _ := ⟨h, rfl⟩
  rcases hc with rfl | rfl
  · cases place_in_plan (comes_attempted (hcomes.in_plan rfl)).1 with
    | commit hpending hfront => exact hpending
  · rcases place_in_execution hcomes with hplan | ⟨-, rfl, f, -, -, hpending⟩ | ⟨hc, -⟩
    · cases works_of_attempted hplan
    · exact hpending
    · cases hc

theorem closeCursor_mem_iff :
    .closeCursor n ∈ a.executionCalls n text given ↔
      ∃ front, a.Comes (a.executionCalls n text given) front (.cursor n) none := by
  constructor
  · intro hmem
    rcases mem_executionCalls hmem with hplan | ⟨f, -, -, hc⟩ | hrelease
    · obtain ⟨front, r, hcomes⟩ := exists_comes_of_mem (a := a) hplan
      cases works_of_attempted hcomes
    · cases hc
    · rcases releasing_eq a n with hnone | ⟨-, hengine, hcursor⟩
      · rw [hnone] at hrelease
        cases hrelease
      · -- The cursor is the first call of the plan.
        refine ⟨[], comes_of_attempted ?_⟩
        have hplan : a.plan n text given =
            [.cursor n] ++ (a.after (a.withCursor (.cursor n))).working n text given := by
          unfold plan withCursor
          rw [if_neg hengine]
        rw [hplan, List.singleton_append, attempted_cons_of_none hcursor, ← List.singleton_append,
          comes_append, comes_singleton]
        exact .inl ⟨rfl, rfl, hcursor⟩
  · rintro ⟨front, hcomes⟩
    cases place_in_plan (comes_attempted (hcomes.in_plan rfl)).1 with
    | cursor hengine =>
      have hcursor : a.raised [.cursor n] = none := by
        have hfault := hcomes.2
        rw [List.append_nil] at hfault
        rw [raised_cons_of_none hfault]
        rfl
      unfold executionCalls releasing withCursor
      rw [if_neg hengine, if_neg hengine, hcursor]
      exact List.mem_append_right _ (List.mem_singleton.mpr rfl)

theorem closeCursor_last {front : List DriverCall}
    (h : front ++ [.closeCursor n] <+: a.executionCalls n text given) :
    a.executionCalls n text given = front ++ [.closeCursor n] := by
  have hcomes : a.Comes (a.executionCalls n text given) front (.closeCursor n) _ := ⟨h, rfl⟩
  rcases place_in_execution hcomes with hplan | ⟨hc, -⟩ | ⟨-, hall⟩
  · cases works_of_attempted hplan
  · cases hc
  · exact hall

/-- What releasing the cursor raises is raised by the one call that does it. -/
theorem comes_closeCursor_iff {g : Fault} :
    (∃ front, a.Comes (a.executionCalls n text given) front (.closeCursor n) (some g)) ↔
      (a.after (a.attempted (a.plan n text given) ++ a.afterwards n (a.plan n text given))).raised
        (a.releasing n) = some g := by
  constructor
  · rintro ⟨front, hcomes⟩
    unfold executionCalls at hcomes
    rw [comes_append] at hcomes
    rcases hcomes with hbefore | ⟨back, rfl, hrelease⟩
    · exact (closeCursor_not_before hbefore.mem).elim
    · rw [← attempted_releasing] at hrelease
      exact ((comes_attempted hrelease).2.2 g rfl).1
  · intro hraised
    obtain ⟨before, c, hlast⟩ := exists_comes_of_raised hraised
    obtain ⟨rfl, -⟩ := mem_releasing (attempted_subset _ hlast.mem)
    rw [attempted_releasing] at hlast
    exact ⟨_, comes_append.mpr (.inr ⟨before, rfl, hlast⟩)⟩

/-- What undoing the work raises is raised by the rollback, if an error of the engine's own driver
has stopped the work. -/
theorem comes_rollback_iff {f g : Fault} (hraised : a.raised (a.plan n text given) = some f)
    (howns : a.engine.owns f = true) :
    (∃ front, a.Comes (a.executionCalls n text given) front (.rollback n) (some g)) ↔
      (a.after (a.attempted (a.plan n text given))).raised
        ((a.after (a.attempted (a.plan n text given))).ending (.rollback n)) = some g := by
  have hcalls : a.executionCalls n text given = a.attempted (a.plan n text given) ++
      ((a.after (a.attempted (a.plan n text given))).ending (.rollback n) ++ a.releasing n) := by
    rw [executionCalls_of_raised hraised]
    unfold undoing
    rw [after_engine, if_pos howns]
  rw [hcalls]
  constructor
  · rintro ⟨front, hcomes⟩
    rw [comes_append] at hcomes
    rcases hcomes with hplan | ⟨back, rfl, hbehind⟩
    · cases works_of_attempted hplan
    · rw [comes_append] at hbehind
      rcases hbehind with hundo | ⟨back, rfl, hrelease⟩
      · rw [← attempted_ending] at hundo
        exact ((comes_attempted hundo).2.2 g rfl).1
      · cases (mem_releasing hrelease.mem).1
  · intro hundo
    obtain ⟨before, c, hlast⟩ := exists_comes_of_raised hundo
    obtain rfl := mem_ending (attempted_subset _ hlast.mem)
    rw [attempted_ending] at hlast
    exact ⟨_, comes_append.mpr (.inr ⟨before, rfl, comes_append.mpr (.inl hlast)⟩)⟩

/-- An error of the engine's own driver that stops the work is wrapped, unless undoing the work or
releasing the cursor raises too. -/
theorem wraps_work {front : List DriverCall} {f : Fault}
    (h : a.Comes (a.executionCalls n text given) front c (some f)) (hworks : c.works = true)
    (howns : a.engine.owns f = true)
    (hquiet : ∀ front' c' g, a.Comes (a.executionCalls n text given) front' c' (some g) →
      c'.works = true) :
    a.executionResult n text given = .error (.statement
      ⟨a.engine.name ++ " statement failed: " ++ f.message, a.engine.name, some (.fault f)⟩) := by
  obtain ⟨hraised, -⟩ := (comes_attempted (h.in_plan hworks)).2.2 f rfl
  have hrelease : (a.after (a.attempted (a.plan n text given) ++
      a.afterwards n (a.plan n text given))).raised (a.releasing n) = none := by
    refine Option.eq_none_iff_forall_ne_some.mpr fun g hg => ?_
    obtain ⟨front', hcomes⟩ := comes_closeCursor_iff.mpr hg
    cases hquiet _ _ _ hcomes
  have hundo : (a.after (a.attempted (a.plan n text given))).undoOutcome n = .ok () := by
    unfold undoOutcome
    split
    · rfl
    · next g hg =>
      obtain ⟨front', hcomes⟩ := (comes_rollback_iff hraised howns).mpr hg
      cases hquiet _ _ _ hcomes
  unfold executionResult attended recovered
  rw [hrelease, hraised]
  simp only
  rw [after_engine, if_pos howns, hundo]

theorem not_comes_of_returns {x : Execution} (h : a.executionResult n text given = .ok x)
    {front : List DriverCall} {f : Fault} :
    ¬a.Comes (a.executionCalls n text given) front c (some f) := by
  obtain ⟨hplan, hrelease⟩ := executionResult_ok h
  rw [executionCalls_of_unraised hplan]
  refine not_comes_of_unraised ?_
  rw [raised_append, hplan, Option.none_or, hrelease]

theorem cursor_not_mem (hengine : a.engine = .duckdb) :
    .cursor n ∉ a.executionCalls n text given := by
  intro hmem
  obtain ⟨front, r, hcomes⟩ := exists_comes_of_mem (a := a) hmem
  cases place_in_plan (comes_attempted (hcomes.in_plan rfl)).1 with
  | cursor hother => exact hother hengine

end Rules

theorem orderly_execution (a : Adapter) (n : Nat) (text : String) (given : List Value) :
    a.Orderly n text given (a.executionCalls n text given) (a.executionResult n text given) where
  ordered := executionCalls_sublist a n text given
  fetches_iff := fetchAll_mem_iff
  commits_behind _ := commit_behind
  rolls_back_iff := rollback_mem_iff
  pending _ _ := pending_of_ends
  releases_iff := closeCursor_mem_iff
  releases_last _ := closeCursor_last
  cursorless := cursor_not_mem
  wraps _ _ _ := wraps_work
  returns _ hx _ _ _ := not_comes_of_returns hx

/-- Where no call is made all rules hold of any error. -/
theorem orderly_refused (a : Adapter) (n : Nat) (text : String) (given : List Value) (e : Failure) :
    a.Orderly n text given [] (.error e) where
  ordered := List.nil_sublist _
  fetches_iff := ⟨(fun h => nomatch h), fun ⟨_, h, _⟩ => (not_comes_nil h).elim⟩
  commits_behind _ h := (not_comes_nil (a := a) ⟨h, rfl⟩).elim
  rolls_back_iff := ⟨(fun h => nomatch h), fun ⟨_, _, _, h, _⟩ => (not_comes_nil h).elim⟩
  pending _ _ h _ := (not_comes_nil (a := a) ⟨h, rfl⟩).elim
  releases_iff := ⟨(fun h => nomatch h), fun ⟨_, h⟩ => (not_comes_nil h).elim⟩
  releases_last _ h := (not_comes_nil (a := a) ⟨h, rfl⟩).elim
  cursorless _ h := nomatch h
  wraps _ _ _ h := (not_comes_nil h).elim
  returns _ h := nomatch h

/-- **The shape of one execution.** On a connected adapter an execution hands over its statement as
the engine writes it, and its calls and its result keep the rules, whatever the driver does. -/
theorem execute_orderly (hconnected : a.connected = true) (h : a.connection = some n)
    (sql : String) (params : Value) (records : List LogRecord) :
    ∃ made text given,
      ((execute sql params).runFrom ⟨a, records⟩).2.state = a.after made ∧
      (∀ values, boundValues params = .ok values → (text, given) = a.engine.prepare sql values) ∧
      a.Orderly n text given made ((execute sql params).runFrom ⟨a, records⟩).1 := by
  cases hvalues : boundValues params with
  | error e =>
    refine ⟨[], "", [], ?_, fun _ hok => (nomatch hok), ?_⟩
    · rw [execute_unlisted hconnected hvalues, after_nil]
    · rw [execute_unlisted hconnected hvalues]
      exact orderly_refused a n "" [] e
  | ok values =>
    obtain ⟨more, hrun⟩ := execute_course hconnected h hvalues records
    cases hprepared : a.engine.prepare sql values with
    | mk text given =>
      rw [hprepared] at hrun
      refine ⟨a.executionCalls n text given, text, given, ?_, ?_, ?_⟩
      · rw [hrun]
      · rintro _ ⟨⟩
        exact hprepared.symm
      · rw [hrun]
        exact orderly_execution a n text given

/-- An SQLite adapter with a transaction open that cannot be committed. -/
def uncommittable : Adapter :=
  scripted .sqlite {
    inTransaction := true
    commitFault := some (.driver .sqlite "database is locked") }

theorem execute_orderly_uncommittable :
    ∃ made, ((execute "DELETE FROM t WHERE a = ?" (.list [.int 1])).runFrom
        ⟨uncommittable, []⟩).2.state = uncommittable.after made ∧
      made = [.cursor 0, .execute 0 "DELETE FROM t WHERE a = ?" (some [.int 1]), .commit 0,
        .rollback 0, .closeCursor 0] ∧
      uncommittable.Orderly 0 "DELETE FROM t WHERE a = ?" [.int 1] made
        (.error (.statement ⟨"sqlite statement failed: database is locked", "sqlite",
          some (.fault (.driver .sqlite "database is locked"))⟩)) := by
  obtain ⟨made, text, given, hstate, hprepared, hrules⟩ :=
    execute_orderly (a := uncommittable) (n := 0) rfl rfl "DELETE FROM t WHERE a = ?"
      (.list [.int 1]) []
  obtain ⟨rfl, rfl⟩ := Prod.mk.inj (hprepared [.int 1] rfl)
  have hmade := congrArg Adapter.calls hstate
  rw [after_calls] at hmade
  exact ⟨made, hstate, hmade.symm, hrules⟩

end Adapter

end FluentQuery
