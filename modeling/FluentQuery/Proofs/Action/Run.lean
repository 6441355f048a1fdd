import FluentQuery.Action

/-!
# Runs of actions

A run of an action starts from a state and a journal; it gives a result or a failure, and leaves a
state and a journal.

* **`Action.runFrom`** — the run, with one equation for each way to build an action;
* **`Action.Keeps`** — a part of the state that no run of an action changes, whether it fails or
  not; it is closed under all ways to build actions;
* **`Action.Gives`** — from every state with a property an action gives a certain result, or fails
  in a certain way, and leaves a state with that property.
-/

namespace FluentQuery.Action

variable {σ τ α β γ : Type}

/-- What an action gives from a state and a journal, with what it leaves of them. -/
def runFrom (act : Action σ α) (j : Journaled σ) : Except Failure α × Journaled σ := act.run.run j

theorem runFrom_bind (act : Action σ α) (f : α → Action σ β) (j : Journaled σ) :
    (act >>= f).runFrom j =
      match act.runFrom j with
      | (.ok a, j') => (f a).runFrom j'
      | (.error e, j') => (.error e, j') := by
  show ExceptT.bindCont f (act j).1 (act j).2 =
    match act j with
    | (.ok a, j') => f a j'
    | (.error e, j') => (.error e, j')
  cases act j with
  | mk r j' => cases r <;> rfl

theorem runFrom_bind_ok {act : Action σ α} {f : α → Action σ β} {j j' : Journaled σ} {a : α}
    (h : act.runFrom j = (.ok a, j')) : (act >>= f).runFrom j = (f a).runFrom j' := by
  rw [runFrom_bind, h]

theorem runFrom_bind_error {act : Action σ α} {f : α → Action σ β} {j j' : Journaled σ}
    {e : Failure} (h : act.runFrom j = (.error e, j')) :
    (act >>= f).runFrom j = (.error e, j') := by
  rw [runFrom_bind, h]

theorem runFrom_ofExcept (r : Except Failure α) (j : Journaled σ) :
    (ofExcept r : Action σ α).runFrom j = (r, j) := rfl

theorem runFrom_pure (a : α) (j : Journaled σ) : (pure a : Action σ α).runFrom j = (.ok a, j) :=
  rfl

/-- What is made of a result alone. -/
theorem runFrom_bind_pure (act : Action σ α) (f : α → β) (j : Journaled σ) :
    (act >>= fun x => pure (f x)).runFrom j = ((act.runFrom j).1.map f, (act.runFrom j).2) := by
  rw [runFrom_bind]
  cases act.runFrom j with
  | mk r j' => cases r <;> rfl

theorem runFrom_throw (e : Failure) (j : Journaled σ) :
    (throw e : Action σ α).runFrom j = (.error e, j) := rfl

theorem runFrom_current (j : Journaled σ) : current.runFrom j = (.ok j.state, j) := rfl

theorem runFrom_update (f : σ → σ) (j : Journaled σ) :
    (update f).runFrom j = (.ok (), { j with state := f j.state }) := rfl

theorem runFrom_log (source : LogSource) (severity : Severity) (text : String)
    (j : Journaled σ) :
    (log source severity text : Action σ Unit).runFrom j =
      (.ok (), { j with journal := j.journal ++ [⟨source, severity, text⟩] }) := rfl

/-- Behind a line that may fail to be written stands a result that is there already. -/
theorem outcome_told (source : LogSource) (severity : Severity) (line : Except Failure String)
    (r : Except Failure α) (j : Journaled σ) :
    ((ofExcept line >>= fun text => log source severity text >>= fun _ => ofExcept r).runFrom j).1 =
      line >>= fun _ => r := by
  rw [runFrom_bind, runFrom_ofExcept]
  cases line with
  | error e => rfl
  | ok text => exact congrArg Prod.fst (runFrom_bind_ok (runFrom_log source severity text j))

theorem runFrom_attempt (act : Action σ α) (j : Journaled σ) :
    act.attempt.runFrom j = (.ok (act.runFrom j).1, (act.runFrom j).2) := rfl

theorem runFrom_zoom (part : τ → σ) (put : σ → τ → τ) (act : Action σ α) (j : Journaled τ) :
    (act.zoom part put).runFrom j =
      ((act.runFrom ⟨part j.state, j.journal⟩).1,
        ⟨put (act.runFrom ⟨part j.state, j.journal⟩).2.state j.state,
          (act.runFrom ⟨part j.state, j.journal⟩).2.journal⟩) := rfl

/-! ## Parts of a state that stay -/

/-- No run of an action changes a part of the state. -/
def Keeps (part : σ → γ) (act : Action σ α) : Prop :=
  ∀ j, part (act.runFrom j).2.state = part j.state

namespace Keeps

variable {part : σ → γ} {act : Action σ α}

/-- What follows an action adds nothing to what the action does to a part that it keeps. -/
theorem behind {f : α → Action σ β} (hf : ∀ a, Keeps part (f a)) (j : Journaled σ) :
    part ((act >>= f).runFrom j).2.state = part (act.runFrom j).2.state := by
  rw [runFrom_bind]
  cases act.runFrom j with
  | mk r j' =>
    cases r with
    | ok a => exact hf a j'
    | error e => rfl

theorem bind {f : α → Action σ β} (h : Keeps part act) (hf : ∀ a, Keeps part (f a)) :
    Keeps part (act >>= f) := fun j => (behind hf j).trans (h j)

theorem pure (a : α) : Keeps part (pure a : Action σ α) := fun _ => rfl

theorem throw (e : Failure) : Keeps part (throw e : Action σ α) := fun _ => rfl

theorem ofExcept (r : Except Failure α) : Keeps part (ofExcept r : Action σ α) := fun _ => rfl

theorem current : Keeps part (current : Action σ σ) := fun _ => rfl

theorem log (source : LogSource) (severity : Severity) (text : String) :
    Keeps part (log source severity text : Action σ Unit) := fun _ => rfl

theorem update {f : σ → σ} (h : ∀ s, part (f s) = part s) : Keeps part (update f) :=
  fun j => h j.state

/-- An action on one part of a state keeps what putting that part back keeps. -/
theorem zoom {whole : τ → γ} {get : τ → σ} {put : σ → τ → τ}
    (h : ∀ s t, whole (put s t) = whole t) : Keeps whole (act.zoom get put) :=
  fun j => h _ j.state

end Keeps

/-- What follows an action without touching the state can be left out of account. -/
theorem state_bind {act : Action σ α} {f : α → Action σ β} (hf : ∀ a, Keeps id (f a))
    (j : Journaled σ) : ((act >>= f).runFrom j).2.state = (act.runFrom j).2.state :=
  Keeps.behind hf j

/-! ## Failures that can occur -/

/-- Every failure of an action has a property. -/
def FailsWith (P : Failure → Prop) (act : Action σ α) : Prop :=
  ∀ j e, (act.runFrom j).1 = .error e → P e

namespace FailsWith

variable {P : Failure → Prop} {act : Action σ α}

theorem mono {Q : Failure → Prop} (h : FailsWith P act) (hPQ : ∀ e, P e → Q e) : FailsWith Q act :=
  fun j e he => hPQ e (h j e he)

theorem pure (a : α) : FailsWith P (pure a : Action σ α) := fun _ _ h => nomatch h

theorem throw {e : Failure} (h : P e) : FailsWith P (throw e : Action σ α) := by
  intro j e' he
  cases he
  exact h

theorem ofExcept {r : Except Failure α} (h : ∀ e, r = .error e → P e) :
    FailsWith P (ofExcept r : Action σ α) := fun _ e he => h e he

theorem current : FailsWith P (current : Action σ σ) := fun _ _ h => nomatch h

theorem log (source : LogSource) (severity : Severity) (text : String) :
    FailsWith P (log source severity text : Action σ Unit) := fun _ _ h => nomatch h

theorem bind {f : α → Action σ β} (h : FailsWith P act) (hf : ∀ a, FailsWith P (f a)) :
    FailsWith P (act >>= f) := by
  intro j e he
  rw [runFrom_bind] at he
  cases hrun : act.runFrom j with
  | mk r j' =>
    rw [hrun] at he
    cases r with
    | ok a => exact hf a j' e he
    | error e' =>
      cases he
      exact h j e (congrArg Prod.fst hrun)

/-- What is made of a failure may fail with it again. -/
theorem attempt_bind {f : Except Failure α → Action σ β} (h : FailsWith P act)
    (hok : ∀ a, FailsWith P (f (.ok a))) (herror : ∀ e, P e → FailsWith P (f (.error e))) :
    FailsWith P (act.attempt >>= f) := by
  intro j e he
  rw [runFrom_bind_ok (runFrom_attempt act j)] at he
  cases hrun : act.runFrom j with
  | mk r j' =>
    rw [hrun] at he
    cases r with
    | ok a => exact hok a j' e he
    | error e' => exact herror e' (h j e' (congrArg Prod.fst hrun)) j' e he

theorem zoom {get : τ → σ} {put : σ → τ → τ} (h : FailsWith P act) :
    FailsWith P (act.zoom get put) := fun _ e he => h _ e he

end FailsWith

/-! ## Results that are certain -/

/-- From every state with a property an action comes to a result or a failure, and the state that it
leaves has the property again. -/
def Gives (I : σ → Prop) (act : Action σ α) (r : Except Failure α) : Prop :=
  ∀ j, I j.state → ∃ j', act.runFrom j = (r, j') ∧ I j'.state

namespace Gives

variable {I : σ → Prop} {act : Action σ α} {f : α → Action σ β}

/-- What an action and what follows it come to, one after the other. -/
theorem bind {r : Except Failure α} {next : α → Except Failure β} (h : Gives I act r)
    (hf : ∀ x, r = .ok x → Gives I (f x) (next x)) : Gives I (act >>= f) (r >>= next) := by
  intro j hj
  obtain ⟨j', hrun, hj'⟩ := h j hj
  cases r with
  | error e => exact ⟨j', by rw [runFrom_bind_error hrun]; rfl, hj'⟩
  | ok x =>
    obtain ⟨j'', hrun', hj''⟩ := hf x rfl j' hj'
    exact ⟨j'', by rw [runFrom_bind_ok hrun, hrun']; rfl, hj''⟩

/-- What follows an action that gives a result. -/
theorem bind_ok {x : α} {r : Except Failure β} (h : Gives I act (.ok x)) (hf : Gives I (f x) r) :
    Gives I (act >>= f) r := by
  intro j hj
  obtain ⟨j', hrun, hj'⟩ := h j hj
  rw [runFrom_bind_ok hrun]
  exact hf j' hj'

theorem ofExcept (r : Except Failure α) : Gives I (ofExcept r : Action σ α) r :=
  fun j hj => ⟨j, rfl, hj⟩

theorem log (source : LogSource) (severity : Severity) (text : String) :
    Gives I (log source severity text : Action σ Unit) (.ok ()) :=
  fun j hj => ⟨_, runFrom_log source severity text j, hj⟩

end Gives

end FluentQuery.Action
