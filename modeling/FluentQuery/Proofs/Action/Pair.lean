import FluentQuery.Proofs.Action.Run

/-!
# Pairs of runs

Two actions that are run side by side, on states that are related and with the same journal, may
come out alike: both give results that are related, or both fail in the same way, the states that
they leave are related again, and the journals are the same.

* **`Action.Alike`** — outcomes that are results in a relation, or the same failure;
* **`Action.Agree`** — two actions come out alike from related states; closed under all ways to
  build actions;
* **`Action.AgreeUpTo`** — the same but for what is left out of account of failures.
-/

namespace FluentQuery.Action

variable {σ τ α α' β β' : Type}

/-- Two outcomes are results in a relation, or the same failure. -/
inductive Alike (S : α → α' → Prop) : Except Failure α → Except Failure α' → Prop
  | ok {x : α} {y : α'} : S x y → Alike S (.ok x) (.ok y)
  | error (e : Failure) : Alike S (.error e) (.error e)

theorem Alike.refl (r : Except Failure α) : Alike Eq r r := by
  cases r with
  | ok x => exact .ok rfl
  | error e => exact .error e

theorem Alike.eq {r r' : Except Failure α} (h : Alike Eq r r') : r = r' := by
  cases h with
  | ok hxy => rw [hxy]
  | error e => rfl

/-- What two runs come to: outcomes that are alike, related states, the same journal. -/
structure Pair (R : σ → σ → Prop) (S : α → α' → Prop) (run : Except Failure α × Journaled σ)
    (run' : Except Failure α' × Journaled σ) : Prop where
  outcome : Alike S run.1 run'.1
  state : R run.2.state run'.2.state
  journal : run.2.journal = run'.2.journal

/-- Two actions, run from related states and the same journal, come out alike. -/
def Agree (R : σ → σ → Prop) (S : α → α' → Prop) (act : Action σ α) (act' : Action σ α') : Prop :=
  ∀ s s' records, R s s' → Pair R S (act.runFrom ⟨s, records⟩) (act'.runFrom ⟨s', records⟩)

namespace Agree

variable {R : σ → σ → Prop} {S : α → α' → Prop} {T : β → β' → Prop} {act : Action σ α}
  {act' : Action σ α'}

/-- What an action does depends on nothing but the state and the journal. -/
theorem refl (act : Action σ α) : Agree Eq Eq act act := by
  rintro s s' records rfl
  exact ⟨.refl _, rfl, rfl⟩

theorem pure {x : α} {y : α'} (h : S x y) : Agree R S (pure x) (pure y) :=
  fun _ _ _ hs => ⟨.ok h, hs, rfl⟩

theorem throw (e : Failure) : Agree R S (throw e : Action σ α) (throw e : Action σ α') :=
  fun _ _ _ hs => ⟨.error e, hs, rfl⟩

theorem ofExcept {r : Except Failure α} {r' : Except Failure α'} (h : Alike S r r') :
    Agree R S (ofExcept r) (ofExcept r') := fun _ _ _ hs => ⟨h, hs, rfl⟩

theorem current : Agree R R (current : Action σ σ) current := fun _ _ _ hs => ⟨.ok hs, hs, rfl⟩

theorem log (source : LogSource) (severity : Severity) (text : String) :
    Agree R Eq (log source severity text : Action σ Unit) (log source severity text) :=
  fun _ _ _ hs => ⟨.ok rfl, hs, rfl⟩

theorem bind {f : α → Action σ β} {f' : α' → Action σ β'} (h : Agree R S act act')
    (hf : ∀ x y, S x y → Agree R T (f x) (f' y)) : Agree R T (act >>= f) (act' >>= f') := by
  intro s s' records hs
  have hpair := h s s' records hs
  rw [runFrom_bind, runFrom_bind]
  generalize act.runFrom ⟨s, records⟩ = run at hpair
  generalize act'.runFrom ⟨s', records⟩ = run' at hpair
  obtain ⟨r, j⟩ := run
  obtain ⟨r', j'⟩ := run'
  obtain ⟨houtcome, hstate, hjournal⟩ := hpair
  cases houtcome with
  | error e => exact ⟨.error e, hstate, hjournal⟩
  | ok hxy =>
    obtain ⟨t, more⟩ := j
    obtain ⟨t', more'⟩ := j'
    cases hjournal
    exact hf _ _ hxy t t' more hstate

/-- A line that may fail to be written is told alike. -/
theorem told (source : LogSource) (severity : Severity) (line : Except Failure String)
    {act : Action σ β} {act' : Action σ β'} (h : Agree R T act act') :
    Agree R T
      (Action.ofExcept line >>= fun text => Action.log source severity text >>= fun _ => act)
      (Action.ofExcept line >>= fun text => Action.log source severity text >>= fun _ => act') := by
  refine .bind (.ofExcept (.refl line)) ?_
  rintro text _ rfl
  exact .bind (.log _ _ _) fun _ _ _ => h

theorem attempt (h : Agree R S act act') : Agree R (Alike S) act.attempt act'.attempt := by
  intro s s' records hs
  obtain ⟨houtcome, hstate, hjournal⟩ := h s s' records hs
  exact ⟨.ok houtcome, hstate, hjournal⟩

/-- Actions on parts of states that are related. -/
theorem zoom {Q : τ → τ → Prop} {part part' : τ → σ} {put put' : σ → τ → τ}
    (h : Agree R S act act') (hpart : ∀ t t', Q t t' → R (part t) (part' t'))
    (hput : ∀ s s' t t', R s s' → Q t t' → Q (put s t) (put' s' t')) :
    Agree Q S (act.zoom part put) (act'.zoom part' put') := by
  intro t t' records ht
  obtain ⟨houtcome, hstate, hjournal⟩ := h _ _ records (hpart t t' ht)
  exact ⟨houtcome, hput _ _ t t' hstate ht, hjournal⟩

/-- A change of the state that keeps states related. -/
theorem update {f f' : σ → σ} (h : ∀ s s', R s s' → R (f s) (f' s')) :
    Agree R Eq (update f) (update f') := fun s s' _ hs => ⟨.ok rfl, h s s' hs, rfl⟩

/-- States may be related in one of several ways, each of which is kept. -/
theorem or {R' : σ → σ → Prop} (h : Agree R S act act') (h' : Agree R' S act act') :
    Agree (fun s s' => R s s' ∨ R' s s') S act act' := by
  rintro s s' records (hs | hs)
  · obtain ⟨houtcome, hstate, hjournal⟩ := h s s' records hs
    exact ⟨houtcome, .inl hstate, hjournal⟩
  · obtain ⟨houtcome, hstate, hjournal⟩ := h' s s' records hs
    exact ⟨houtcome, .inr hstate, hjournal⟩

end Agree

/-! ## Failures that are told in another way -/

theorem runFrom_adapt (tell : Failure → Failure) (act : Action σ α) (j : Journaled σ) :
    runFrom (ExceptT.adapt tell act) j = ((act.runFrom j).1.mapError tell, (act.runFrom j).2) :=
  rfl

/-- Actions come out alike once their failures are told in the same way. -/
def AgreeUpTo (tell : Failure → Failure) (R : σ → σ → Prop) (S : α → α' → Prop)
    (act : Action σ α) (act' : Action σ α') : Prop :=
  Agree R S (ExceptT.adapt tell act) (ExceptT.adapt tell act')

namespace AgreeUpTo

variable {tell : Failure → Failure} {R : σ → σ → Prop} {S : α → α' → Prop} {T : β → β' → Prop}
  {act : Action σ α} {act' : Action σ α'}

theorem of_agree (h : Agree R S act act') : AgreeUpTo tell R S act act' := by
  intro s s' records hs
  obtain ⟨houtcome, hstate, hjournal⟩ := h s s' records hs
  refine ⟨?_, hstate, hjournal⟩
  rw [runFrom_adapt, runFrom_adapt]
  generalize (act.runFrom ⟨s, records⟩).1 = r at houtcome
  generalize (act'.runFrom ⟨s', records⟩).1 = r' at houtcome
  cases houtcome with
  | ok hxy => exact .ok hxy
  | error e => exact .error (tell e)

/-- Where failures are told as they are, nothing is left out of account. -/
theorem agree (h : AgreeUpTo id R S act act') : Agree R S act act' := by
  have hsame : ∀ {γ : Type} (a : Action σ γ), ExceptT.adapt id a = a := by
    intro γ a
    funext j
    show ((a j).1.mapError id, (a j).2) = a j
    cases a j with
    | mk r j' => cases r <;> rfl
  unfold AgreeUpTo at h
  rwa [hsame, hsame] at h

theorem adapt_bind (f : α → Action σ β) :
    ExceptT.adapt tell (act >>= f) = (ExceptT.adapt tell act >>= fun x => ExceptT.adapt tell (f x) :
      Action σ β) := by
  funext j
  show runFrom (ExceptT.adapt tell (act >>= f)) j =
    runFrom (ExceptT.adapt tell act >>= fun x => ExceptT.adapt tell (f x)) j
  rw [runFrom_adapt, runFrom_bind, runFrom_bind, runFrom_adapt]
  cases act.runFrom j with
  | mk r j' => cases r <;> rfl

theorem bind {f : α → Action σ β} {f' : α' → Action σ β'} (h : AgreeUpTo tell R S act act')
    (hf : ∀ x y, S x y → AgreeUpTo tell R T (f x) (f' y)) :
    AgreeUpTo tell R T (act >>= f) (act' >>= f') := by
  unfold AgreeUpTo
  rw [adapt_bind, adapt_bind]
  exact Agree.bind h hf

/-- Actions on parts of states that are related. -/
theorem zoom {Q : τ → τ → Prop} {part : τ → σ} {put : σ → τ → τ} (h : AgreeUpTo tell R S act act')
    (hpart : ∀ t t', Q t t' → R (part t) (part t'))
    (hput : ∀ s s' t t', R s s' → Q t t' → Q (put s t) (put s' t')) :
    AgreeUpTo tell Q S (act.zoom part put) (act'.zoom part put) := Agree.zoom h hpart hput

end AgreeUpTo

end FluentQuery.Action
