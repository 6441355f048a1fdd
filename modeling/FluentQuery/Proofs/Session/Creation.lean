import FluentQuery.Proofs.Adapter.Failures
import FluentQuery.Proofs.Adapter.Registered
import FluentQuery.Proofs.Adapter.Wrapping
import FluentQuery.Proofs.Session.Operations
import FluentQuery.Proofs.Session.Queries

/-!
# Creating adapters

An adapter is created in two steps: it is made from its options, and it is connected if that is
asked for. Either can fail. What fails leaves nothing behind, neither a connection that is open nor
an adapter under the name.

* **`Adapter.make_fails`**, **`Adapter.connect_error`** — what making and connecting fail with, and
  that no connection was opened then;
* **`Session.runFrom_making_ok`**, **`Session.runFrom_making_error`**,
  **`Session.runFrom_settle_true`** — the two steps in a session;
* **`Session.run_of_same_make`** — where the kind of an adapter comes from counts only by what is
  made of it;
* **`Session.run_creating_error`**, **`Session.engine_of_created`** — what a failure leaves, and what
  is there without one.
-/

namespace FluentQuery

open FluentQuery.Action

/-- The failure that there is nothing under a name. -/
def Failure.IsMissing : Failure → Prop
  | .missing _ _ => True
  | _ => False

theorem Failure.IsWrapped.not_isMissing {e : Failure} (h : e.IsWrapped) : ¬e.IsMissing := by
  cases e with
  | missing kind name => exact fun _ => h
  | _ => exact id

/-! ## Making and connecting -/

namespace Adapter

variable {a : Adapter} {engine : Engine} {config : List (Value × Value)} {driver : Driver}
  {files : Path.Files} {e : Failure}

theorem required_dict_fails {name : String} (h : Options.required (.dict config) name = .error e) :
    ¬e.IsMissing := by
  unfold Options.required at h
  cases hv : Entries.get? (.text name) config with
  | some v =>
    simp only [hv] at h
    cases h
  | none =>
    simp only [hv] at h
    cases h
    exact id

theorem checkSqlite_fails (h : checkSqlite engine (.dict config) files = .error e) :
    ¬e.IsMissing := by
  refine Failure.of_bind (P := fun e => ¬e.IsMissing) (fun e he => by cases he)
    (fun found e he => ?_) h
  cases found with
  | false =>
    cases he
    exact id
  | true =>
    refine Failure.of_bind (fun e he => required_dict_fails he) (fun database e he => ?_) he
    split at he
    · refine Failure.of_bind (P := fun e => ¬e.IsMissing) (fun e he => by cases he)
        (fun create e he => ?_) he
      split at he
      · cases he
        exact id
      · cases he
    · cases he

theorem checkPostgres_fails (h : checkPostgres engine (.dict config) = .error e) :
    ¬e.IsMissing := by
  refine Failure.of_bind (P := fun e => ¬e.IsMissing) (fun e he => by cases he)
    (fun found e he => ?_) h
  cases found with
  | true => cases he
  | false =>
    refine Failure.of_bind (P := fun e => ¬e.IsMissing) (fun e he => ?_)
      (fun missing e he => ?_) he
    · -- No name is refused by a dictionary.
      have hfound := filterM_ok (fun name => !(Entries.get? (.text name) config).isSome)
        ["host", "database", "user"]
      cases hfound.symm.trans he
    · split at he
      · cases he
        exact id
      · cases he

theorem make_fails (h : make engine (.dict config) driver files = .error e) : ¬e.IsMissing := by
  have hchecked : ∀ {check : Except Failure Unit} {b : Adapter},
      (∀ e, check = .error e → ¬e.IsMissing) → (check >>= fun _ => pure b) = .error e →
      ¬e.IsMissing := fun hcheck he => Failure.of_bind_pure hcheck he
  unfold make at h
  cases engine with
  | sqlite => exact hchecked (fun _ he => checkSqlite_fails he) h
  | other => exact hchecked (fun _ he => checkSqlite_fails he) h
  | postgres => exact hchecked (fun _ he => checkPostgres_fails he) h
  | duckdb =>
    refine Failure.of_bind_pure (P := fun e => ¬e.IsMissing) (fun e he => ?_) h
    split at he <;> cases he
  | fake => cases h

/-- The options of an adapter that was made from a dictionary are one too. -/
theorem dictionary_of_make (h : make engine (.dict config) driver files = .ok a) :
    ∃ entries, a.options = .dict entries := by
  have hchecked : ∀ {check : Except Failure Unit} {b : Adapter},
      (check >>= fun _ => pure b) = .ok a → b = a := by
    intro check b hb
    cases check with
    | error e => cases hb
    | ok u =>
      cases hb
      rfl
  unfold make at h
  cases engine with
  | sqlite => exact ⟨config, hchecked h ▸ rfl⟩
  | other => exact ⟨config, hchecked h ▸ rfl⟩
  | postgres => exact ⟨config, hchecked h ▸ rfl⟩
  | fake =>
    cases h
    exact ⟨config, rfl⟩
  | duckdb =>
    simp only at h
    split at h
    · cases h
      exact ⟨config, rfl⟩
    · cases h
      exact ⟨[], rfl⟩

/-- What was made from a dictionary can be described, and where it has nowhere to connect to it says
no more than that. -/
theorem connectable_of_make (h : make engine (.dict config) driver files = .ok a) :
    (∃ v, a.describe = .ok v) ∧ ∀ e, a.target = .error e → ¬e.IsMissing := by
  obtain ⟨entries, hentries⟩ := dictionary_of_make h
  have hpostgres : a.engine = .postgres → checkPostgres .postgres (.dict entries) = .ok () := by
    intro hkind
    obtain ⟨options, rfl⟩ := make_eq h
    cases hkind
    rw [← hentries]
    exact checkPostgres_of_make h
  refine ⟨describe_ok hentries hpostgres, fun e he => ?_⟩
  rcases target_error hentries hpostgres he with hwrapped | ⟨-, hplace⟩
  · exact hwrapped.not_isMissing
  · unfold Path.readOnlyTarget at hplace
    split at hplace
    · cases hplace
    · cases hplace
      exact id

/-- **To connect in vain opens no connection.** -/
theorem connect_error (hdescribed : ∃ v, a.describe = .ok v)
    (htarget : ∀ e, a.target = .error e → ¬e.IsMissing) {records : List LogRecord}
    (h : (connect.runFrom ⟨a, records⟩).1 = .error e) :
    ¬e.IsMissing ∧
      a.driver.opens (connect.runFrom ⟨a, records⟩).2.state.calls = a.driver.opens a.calls := by
  unfold connect at h ⊢
  rw [runFrom_bind_ok (runFrom_current _)] at h ⊢
  cases hconnected : a.connected with
  | true =>
    rw [hconnected] at h
    cases h
  | false =>
    simp only [hconnected] at h ⊢
    rw [if_neg (by decide), runFrom_bind_ok (runFrom_attempt _ _), openConnection_runFrom] at h ⊢
    cases hplace : a.target with
    | error e' =>
      -- The driver was not called at all.
      have hnot := htarget e' hplace
      simp only [hplace] at h ⊢
      cases hown : a.engine.ownFault? e' with
      | some f =>
        simp only [hown] at h ⊢
        cases h
        exact ⟨id, rfl⟩
      | none =>
        simp only [hown] at h ⊢
        cases h
        exact ⟨hnot, rfl⟩
    | ok found =>
      obtain ⟨positional, keywords⟩ := found
      simp only [hplace] at h ⊢
      cases hfault : a.driver.fault (a.calls ++ [.connect positional keywords]) with
      | some f =>
        have hopens : a.driver.opens (a.calls ++ [.connect positional keywords]) =
            a.driver.opens a.calls := by
          rw [Driver.opens_concat, Driver.opensAt, hfault, if_neg (by simp), Nat.add_zero]
        simp only [hfault] at h ⊢
        cases hown : a.engine.ownFault? (.fault f) with
        | some g =>
          simp only [hown] at h ⊢
          cases h
          exact ⟨id, hopens⟩
        | none =>
          simp only [hown] at h ⊢
          cases h
          exact ⟨id, hopens⟩
      | none =>
        -- With the connection open nothing is left that could fail.
        obtain ⟨place, hplace⟩ := hdescribed
        simp only [hfault, hplace] at h
        cases h

end Adapter

/-- Wherever the kind of an adapter comes from, it is made from its options or there is none. -/
theorem AdapterSource.make_cases (source : AdapterSource) (r : Registry) (options : Value)
    (driver : Driver) (files : Path.Files) :
    (∃ k, source.make r options driver files = Adapter.make k options driver files) ∨
      ∃ e, source.make r options driver files = .error e ∧ ¬e.IsMissing := by
  cases source with
  | engine k => exact .inl ⟨k, rfl⟩
  | registered name =>
    cases name with
    | text n =>
      cases h : r.resolve? n with
      | some k => exact .inl ⟨k, Registry.make_of_resolve?_some h⟩
      | none => exact .inr ⟨_, Registry.make_of_resolve?_none h, id⟩
    | _ => exact .inr ⟨_, rfl, id⟩

/-! ## In a session -/

namespace Session

variable {s : Session} {name : String} {source : AdapterSource} {options : Value}
  {connect : Bool} {driver : Driver} {files : Path.Files} {a : Adapter} {e : Failure}

theorem runFrom_making_error (hmade : source.make s.registry options driver files = .error e) :
    (perform (.adapter name source options connect driver files)).runFrom ⟨s, []⟩ =
      (.error e, ⟨{ s with adapters := erase name s.adapters }, []⟩) := by
  refine (runFrom_bind_ok (runFrom_update _ _)).trans ?_
  refine (runFrom_bind_ok (runFrom_current _)).trans (runFrom_bind_error ?_)
  rw [runFrom_ofExcept]
  exact congrArg (·, _) hmade

theorem runFrom_keepAdapter (name : String) (a : Adapter) (j : Journaled Session) :
    (keepAdapter name a).runFrom j =
      (.ok (), { j with state := { j.state with adapters := put name a j.state.adapters } }) := rfl

/-- What is left of creating an adapter once it is kept under its name. -/
def settle (name : String) (connect : Bool) : Action Session Reply := do
  if connect then onAdapter name Adapter.connect
  return .adapter (← findAdapter name)

theorem runFrom_making_ok (hmade : source.make s.registry options driver files = .ok a) :
    (perform (.adapter name source options connect driver files)).runFrom ⟨s, []⟩ =
      (settle name connect).runFrom
        ⟨{ s with adapters := put name a (erase name s.adapters) }, []⟩ := by
  refine (runFrom_bind_ok (runFrom_update _ _)).trans ?_
  refine (runFrom_bind_ok (runFrom_current _)).trans ?_
  have hread : (ofExcept (source.make s.registry options driver files)).runFrom
      ⟨{ s with adapters := erase name s.adapters }, []⟩ =
      (.ok a, ⟨{ s with adapters := erase name s.adapters }, []⟩) := by
    rw [runFrom_ofExcept, hmade]
  exact (runFrom_bind_ok hread).trans (runFrom_bind_ok (runFrom_keepAdapter name a _))

theorem runFrom_settle_false {j : Journaled Session} (h : j.state.adapters.lookup name = some a) :
    (settle name false).runFrom j = (.ok (.adapter a), j) :=
  runFrom_bind_ok (runFrom_findAdapter_some h)

/-- An adapter that is to be connected comes to what connecting it comes to. -/
theorem runFrom_settle_true (h : s.adapters.lookup name = some a) :
    (settle name true).runFrom ⟨s, []⟩ =
      ((Adapter.connect.runFrom ⟨a, []⟩).1.map fun _ =>
          .adapter (Adapter.connect.runFrom ⟨a, []⟩).2.state,
        ⟨{ s with adapters := put name (Adapter.connect.runFrom ⟨a, []⟩).2.state s.adapters },
          (Adapter.connect.runFrom ⟨a, []⟩).2.journal⟩) := by
  have hconnect : (onAdapter name Adapter.connect).runFrom ⟨s, []⟩ =
      ((Adapter.connect.runFrom ⟨a, []⟩).1,
        ⟨{ s with adapters := put name (Adapter.connect.runFrom ⟨a, []⟩).2.state s.adapters },
          (Adapter.connect.runFrom ⟨a, []⟩).2.journal⟩) := by
    refine (runFrom_bind_ok (runFrom_findAdapter_some h)).trans ?_
    rw [runFrom_zoom]
    simp only [h, Option.getD_some]
  have hsettle : (settle name true).runFrom ⟨s, []⟩ =
      (onAdapter name Adapter.connect >>= fun _ => settle name false).runFrom ⟨s, []⟩ := rfl
  rw [hsettle, runFrom_bind, hconnect]
  cases (Adapter.connect.runFrom ⟨a, []⟩).1 with
  | error e => rfl
  | ok u => exact runFrom_settle_false lookup_put_self

/-- All that counts about where the kind of an adapter comes from is what is made. -/
theorem run_of_same_make {source' : AdapterSource}
    (h : source.make s.registry options driver files =
      source'.make s.registry options driver files) :
    s.run (.adapter name source options connect driver files) =
      s.run (.adapter name source' options connect driver files) := by
  have hperform : (perform (.adapter name source options connect driver files)).runFrom ⟨s, []⟩ =
      (perform (.adapter name source' options connect driver files)).runFrom ⟨s, []⟩ := by
    cases hmade : source.make s.registry options driver files with
    | error e => rw [runFrom_making_error hmade, runFrom_making_error (h.symm.trans hmade)]
    | ok a => rw [runFrom_making_ok hmade, runFrom_making_ok (h.symm.trans hmade)]
  rw [run_eq, run_eq, hperform]
  -- What is made of the outcome looks at the name of the adapter alone.
  generalize (perform (.adapter name source' options connect driver files)).runFrom ⟨s, []⟩ = left
  obtain ⟨r, j⟩ := left
  cases r <;> rfl

/-- What a failure of creating an adapter leaves: nothing under the name, and the calls of what was
made. -/
theorem run_of_error {j : Journaled Session} (hnamed : ¬e.IsMissing)
    (hrun : (perform (.adapter name source options connect driver files)).runFrom ⟨s, []⟩ =
      (.error e, j)) :
    (s.run (.adapter name source options connect driver files)).1.result = .error e ∧
      (s.run (.adapter name source options connect driver files)).1.calls =
        some (callsOf name j.state) ∧
      (s.run (.adapter name source options connect driver files)).2 =
        { j.state with adapters := erase name j.state.adapters } := by
  rw [run_eq, hrun]
  refine ⟨rfl, ?_, rfl⟩
  cases e with
  | missing kind other => exact absurd trivial hnamed
  | _ => rfl

/-- **A failure leaves nothing behind.** When an adapter cannot be created the session stays as it
was, but for the name, under which there is no adapter; and no connection was opened. -/
theorem run_creating_error {config : List (Value × Value)}
    (h : (s.run (.adapter name source (.dict config) connect driver files)).1.result = .error e) :
    (s.run (.adapter name source (.dict config) connect driver files)).2 =
        { s with adapters := erase name s.adapters } ∧
      ∃ calls, (s.run (.adapter name source (.dict config) connect driver files)).1.calls =
        some calls ∧ driver.opens calls = 0 := by
  cases hmade : source.make s.registry (.dict config) driver files with
  | error e' =>
    have hnamed : ¬e'.IsMissing := by
      rcases source.make_cases s.registry (.dict config) driver files with ⟨k, hk⟩ | ⟨e'', he, hnot⟩
      · rw [hk] at hmade
        exact Adapter.make_fails hmade
      · rw [he] at hmade
        cases hmade
        exact hnot
    obtain ⟨-, hcalls, hleft⟩ := run_of_error hnamed (runFrom_making_error hmade)
    rw [hcalls, hleft]
    refine ⟨by rw [erase_erase], [], ?_, rfl⟩
    simp only [callsOf, lookup_erase_self, Option.map_none, Option.getD_none]
  | ok a =>
    obtain ⟨k, hk⟩ : ∃ k, Adapter.make k (.dict config) driver files = .ok a := by
      rcases source.make_cases s.registry (.dict config) driver files with ⟨k, hk⟩ | ⟨e', he, -⟩
      · exact ⟨k, hk ▸ hmade⟩
      · rw [he] at hmade
        cases hmade
    cases connect with
    | false =>
      have hrun : (perform (.adapter name source (.dict config) false driver files)).runFrom
          ⟨s, []⟩ = _ := runFrom_making_ok hmade
      rw [runFrom_settle_false lookup_put_self] at hrun
      rw [run_eq, hrun] at h
      cases h
    | true =>
      have hrun : (perform (.adapter name source (.dict config) true driver files)).runFrom
          ⟨s, []⟩ = _ := runFrom_making_ok hmade
      rw [runFrom_settle_true lookup_put_self] at hrun
      cases hconnect : (Adapter.connect.runFrom ⟨a, []⟩).1 with
      | ok u =>
        rw [run_eq, hrun, hconnect] at h
        cases h
      | error e' =>
        obtain ⟨hdescribed, htarget⟩ := Adapter.connectable_of_make hk
        obtain ⟨hnamed, hopens⟩ := Adapter.connect_error hdescribed htarget hconnect
        rw [hconnect] at hrun
        obtain ⟨-, hcalls, hleft⟩ := run_of_error hnamed hrun
        rw [hcalls, hleft]
        refine ⟨by rw [erase_put, erase_put, erase_erase], _, rfl, ?_⟩
        -- The adapter was new, so all calls are those of connecting it.
        obtain ⟨options, rfl⟩ := Adapter.make_eq hk
        simp only [callsOf, lookup_put_self, Option.map_some, Option.getD_some]
        exact hopens

/-- An adapter that was created is of the engine that it was made for. -/
theorem engine_of_created {k : Engine} {r : Reply}
    (hmake : source.make s.registry options driver files = Adapter.make k options driver files)
    (h : (s.run (.adapter name source options connect driver files)).1.result = .ok r) :
    ∃ a, r = .adapter a ∧ a.engine = k := by
  cases hmade : Adapter.make k options driver files with
  | error e =>
    rw [run_eq, runFrom_making_error (hmake.trans hmade)] at h
    cases h
  | ok a =>
    obtain ⟨options', ha⟩ := Adapter.make_eq hmade
    have hrun : (perform (.adapter name source options connect driver files)).runFrom ⟨s, []⟩ = _ :=
      runFrom_making_ok (hmake.trans hmade)
    cases connect with
    | false =>
      rw [runFrom_settle_false lookup_put_self] at hrun
      rw [run_eq, hrun] at h
      cases h
      exact ⟨a, rfl, by rw [ha]⟩
    | true =>
      rw [runFrom_settle_true lookup_put_self] at hrun
      rw [run_eq, hrun] at h
      have hmoves : Adapter.Moves a .connect (Adapter.connect.runFrom ⟨a, []⟩).2.state :=
        Adapter.connect_moves []
      cases hconnect : (Adapter.connect.runFrom ⟨a, []⟩).1 with
      | error e =>
        rw [hconnect] at h
        cases h
      | ok u =>
        rw [hconnect] at h
        cases h
        exact ⟨_, rfl, hmoves.same_driver.1.trans (by rw [ha])⟩

end Session

end FluentQuery
