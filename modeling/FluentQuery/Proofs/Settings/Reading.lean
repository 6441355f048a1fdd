import FluentQuery.Proofs.Session.Operations
import FluentQuery.Proofs.Statement.Compiled

/-!
# Reading the settings

All that an action has to do with the configuration is to read the settings in force. Whether it
comes to that does not depend on the configuration. If it does, it fails where the settings cannot
be read, goes the same way wherever the same settings are in force, and leaves behind what reading
them leaves.

* **`Settings.load_dialect_known`** — a dialect in settings that can be read is known;
* **`Action.Consults`** — what an action does from one state under all configurations;
* **`Action.Configurable`** — that, from every state; the ways to build actions keep it;
* **`Session.perform_configurable`** — it holds of every operation that does not change the
  environment.
-/

namespace FluentQuery

namespace Configuration

variable {c : Configuration}

theorem settings_of_kept {x : Settings} (h : c.kept = some x) : c.settings = (.ok x, c) := by
  simp only [settings, h]

/-- Settings that cannot be read are not kept. -/
theorem settings_of_error {e : Invalid} (h : c.settings.1 = .error e) : c.settings.2 = c := by
  unfold settings at h ⊢
  cases hkept : c.kept with
  | some x => simp only [hkept, reduceCtorEq] at h
  | none =>
    simp only [hkept] at h ⊢
    cases hload : Settings.load c.environment with
    | error e' => simp only
    | ok x => simp only [hload, reduceCtorEq] at h

/-- What was read once is read again. -/
theorem settings_again (c : Configuration) : c.settings.2.settings = c.settings := by
  cases hfound : c.settings.1 with
  | error e => rw [settings_of_error hfound]
  | ok x =>
    unfold settings
    cases hkept : c.kept with
    | some y => simp only [hkept]
    | none => cases hload : Settings.load c.environment <;> simp only [hkept, hload]

end Configuration

/-! ## Settings that can be read -/

/-- What a record has under a name is what fits there in the row, or a default. -/
theorem Schema.mem_fitFields {strict required : Bool} {row : Entries} {name : String} {v : Value}
    {fields : List (String × Schema × Option Value)}
    (h : (name, v) ∈ (fitFields strict required row fields).1) :
    ∃ schema default, (name, schema, default) ∈ fields ∧
      ((∃ w, row.get? (.text name) = some w ∧ fit strict schema w = .ok v) ∨ default = some v) := by
  induction fields with
  | nil =>
    rw [fitFields] at h
    cases h
  | cons field rest ih =>
    obtain ⟨n, schema, default⟩ := field
    have hrest : (name, v) ∈ (fitFields strict required row rest).1 →
        ∃ schema' default', (name, schema', default') ∈ (n, schema, default) :: rest ∧
          ((∃ w, row.get? (.text name) = some w ∧ fit strict schema' w = .ok v) ∨
            default' = some v) := by
      intro hfound
      obtain ⟨schema', default', hmem, hv⟩ := ih hfound
      exact ⟨schema', default', List.mem_cons_of_mem _ hmem, hv⟩
    rw [fitFields] at h
    simp only at h
    cases hcolumn : row.get? (.text n) with
    | some w =>
      rw [hcolumn] at h
      cases hfit : fit strict schema w with
      | error issues =>
        simp only [hfit, Fitted.under] at h
        exact hrest h
      | ok w' =>
        simp only [hfit, Fitted.under] at h
        obtain hfirst | h := List.mem_cons.mp h
        · cases hfirst
          exact ⟨schema, default, .head _, .inl ⟨w, hcolumn, hfit⟩⟩
        · exact hrest h
    | none =>
      rw [hcolumn] at h
      cases default with
      | some d =>
        obtain hfirst | h := List.mem_cons.mp h
        · cases hfirst
          exact ⟨schema, some v, .head _, .inr rfl⟩
        · exact hrest h
      | none =>
        simp only at h
        split at h <;> exact hrest h

namespace Settings

variable {e : Environment} {x : Settings}

/-- What stands under a name among the texts that are given for settings was given for it. -/
theorem given_get? {name : String} {v : Value}
    (h : Entries.get? (.text name) (given e) = some v) :
    ∃ t, v = .text t ∧ given? e name = some t := by
  unfold given at h
  generalize fields = fs at h
  induction fs with
  | nil => cases h
  | cons field rest ih =>
    rw [List.filterMap_cons] at h
    cases hgiven : given? e field.1 with
    | none =>
      rw [hgiven] at h
      exact ih h
    | some t =>
      rw [hgiven] at h
      simp only [Option.map_some, Entries.get?, Value.equals_text] at h
      split at h
      · next hname =>
        cases h
        rw [beq_iff_eq] at hname
        exact ⟨t, rfl, hname ▸ hgiven⟩
      · exact ih h

theorem load_eq_ok (h : load e = .ok x) :
    dialectIssues (given? e "sql_dialect") = [] ∧
      x = ofFields (Schema.fitFields false true (given e) fields).1 := by
  unfold load schema at h
  rw [Schema.fit] at h
  simp only [Schema.entries?, Schema.fitExtra, List.append_nil] at h
  cases hissues : (Schema.fitFields false true (given e) fields).2 with
  | cons i rest => simp only [hissues, reduceCtorEq] at h
  | nil =>
    simp only [hissues] at h
    split at h
    · next hwrong =>
      cases h
      exact ⟨List.isEmpty_iff.mp hwrong, rfl⟩
    · cases h

/-- A dialect that was found was given: there is none by default. -/
theorem given_of_sqlDialect {d : String}
    (h : (ofFields (Schema.fitFields false true (given e) fields).1).sqlDialect = some d) :
    given? e "sql_dialect" = some d := by
  unfold ofFields at h
  simp only at h
  split at h
  · next hfound =>
    cases h
    obtain ⟨front, back, hsplit, -⟩ := List.lookup_eq_some_iff.mp hfound
    have hmem : ("sql_dialect", Value.text d) ∈
        (Schema.fitFields false true (given e) fields).1 := by
      rw [hsplit]
      exact List.mem_append_right front (.head back)
    obtain ⟨schema, default, hfield, hv⟩ := Schema.mem_fitFields hmem
    obtain ⟨rfl, rfl⟩ : schema = .optional .text ∧ default = some .null := by
      simpa [fields] using hfield
    obtain ⟨w, hw, hfit⟩ | hnull := hv
    · obtain ⟨t, rfl, hgiven⟩ := given_get? hw
      have hsame : Schema.fit false (.optional .text) (.text t) = .ok (.text t) := by
        simp only [Schema.fit, Convert.toText, Schema.fitScalar]
      rw [hsame] at hfit
      cases hfit
      exact hgiven
    · cases hnull
  · cases h

/-- **A dialect in settings that can be read is known.** -/
theorem load_dialect_known (h : load e = .ok x) {d : String} (hd : x.sqlDialect = some d) :
    Sql.isKnownDialect (.text d) = true := by
  obtain ⟨hissues, rfl⟩ := load_eq_ok h
  unfold dialectIssues at hissues
  rw [given_of_sqlDialect hd] at hissues
  simp only at hissues
  split at hissues
  · next hknown => exact hknown
  · cases hissues

end Settings

namespace Action

variable {σ τ α β γ : Type}

section Configurable

variable {put : Configuration → σ → σ} {act : Action σ α}

/-- A state with another configuration, and its journal. -/
def Journaled.under (put : Configuration → σ → σ) (c : Configuration) (j : Journaled σ) :
    Journaled σ := ⟨put c j.state, j.journal⟩

/-- What an action does from a state, whatever the configuration is: it never looks at it, or it
reads the settings, fails if they cannot be read, and goes the same way for the same settings. -/
inductive Consults (put : Configuration → σ → σ) (act : Action σ α) (j : Journaled σ) : Prop
  | never (r : Except Failure α) (left : Journaled σ) :
      (∀ c, act.runFrom (Journaled.under put c j) = (r, Journaled.under put c left)) →
      Consults put act j
  | always :
      (∀ found : Except Invalid Settings, ∃ (r : Except Failure α) (left : Journaled σ),
        (∀ c, c.settings.1 = found → act.runFrom (Journaled.under put c j) =
          (r, Journaled.under put c.settings.2 left)) ∧
        ∀ e, found = .error e → r = .error (.invalid e)) →
      Consults put act j

/-- An action that works with the configuration only by reading the settings in force. -/
def Configurable (put : Configuration → σ → σ) (act : Action σ α) : Prop :=
  ∀ j, Consults put act j

namespace Configurable

theorem pure (x : α) : Configurable put (pure x) := fun j => .never (.ok x) j fun _ => rfl

theorem throw (e : Failure) : Configurable put (throw e : Action σ α) :=
  fun j => .never (.error e) j fun _ => rfl

theorem log (source : LogSource) (severity : Severity) (text : String) :
    Configurable put (log source severity text : Action σ Unit) :=
  fun j => .never (.ok ()) { j with journal := j.journal ++ [⟨source, severity, text⟩] }
    fun _ => rfl

theorem update {f : σ → σ} (h : ∀ c s, f (put c s) = put c (f s)) :
    Configurable put (update f) :=
  fun j => .never (.ok ()) { j with state := f j.state } fun c =>
    congrArg (fun s => (Except.ok (), (⟨s, j.journal⟩ : Journaled σ))) (h c j.state)

/-- What follows an action reads the same settings, if the action has read any. -/
theorem bind {f : α → Action σ β} (h : Configurable put act) (hf : ∀ x, Configurable put (f x)) :
    Configurable put (act >>= f) := by
  intro j
  cases h j with
  | never r left hrun =>
    cases r with
    | error e => exact .never (.error e) left fun c => runFrom_bind_error (hrun c)
    | ok x =>
      cases hf x left with
      | never r left' hrun' =>
        exact .never r left' fun c => (runFrom_bind_ok (hrun c)).trans (hrun' c)
      | always hrun' =>
        refine .always fun found => ?_
        obtain ⟨r, left', hsame, herror⟩ := hrun' found
        exact ⟨r, left', fun c hc => (runFrom_bind_ok (hrun c)).trans (hsame c hc), herror⟩
  | always hrun =>
    refine .always fun found => ?_
    obtain ⟨r, left, hsame, herror⟩ := hrun found
    cases r with
    | error e =>
      refine ⟨.error e, left, fun c hc => runFrom_bind_error (hsame c hc), fun e' he' => ?_⟩
      cases herror e' he'
      rfl
    | ok x =>
      have hread : ∀ e, found ≠ .error e := fun e he => nomatch herror e he
      cases hf x left with
      | never r left' hrun' =>
        exact ⟨r, left', fun c hc => (runFrom_bind_ok (hsame c hc)).trans (hrun' _),
          fun e he => absurd he (hread e)⟩
      | always hrun' =>
        obtain ⟨r, left', hsame', -⟩ := hrun' found
        refine ⟨r, left', fun c hc => ?_, fun e he => absurd he (hread e)⟩
        have hagain := c.settings_again
        rw [runFrom_bind_ok (hsame c hc), hsame' c.settings.2 (by rw [hagain, hc]), hagain]

theorem closed (put : Configuration → σ → σ) :
    Closed (σ := σ) fun act => Configurable put act := ⟨pure, throw, log, bind⟩

/-- To look at a part of the state that has nothing to do with the configuration. -/
theorem view (part : σ → γ) {f : γ → Action σ α} (hpart : ∀ c s, part (put c s) = part s)
    (hf : ∀ x, Configurable put (f x)) : Configurable put (current >>= fun s => f (part s)) := by
  intro j
  have hrun : ∀ c, (current >>= fun s => f (part s)).runFrom (Journaled.under put c j) =
      (f (part j.state)).runFrom (Journaled.under put c j) := by
    intro c
    rw [runFrom_bind_ok (runFrom_current _)]
    exact congrArg (fun x => (f x).runFrom (Journaled.under put c j)) (hpart c j.state)
  cases hf (part j.state) j with
  | never r left hsame => exact .never r left fun c => (hrun c).trans (hsame c)
  | always hsame =>
    refine .always fun found => ?_
    obtain ⟨r, left, hsame, herror⟩ := hsame found
    exact ⟨r, left, fun c hc => (hrun c).trans (hsame c hc), herror⟩

variable {put' : Configuration → τ → τ} {part : τ → σ} {back : σ → τ → τ}

/-- An action on a part of the state that holds the configuration. -/
theorem zoom (h : Configurable put act) (hpart : ∀ c t, part (put' c t) = put c (part t))
    (hback : ∀ c c' s t, back (put c s) (put' c' t) = put' c (back s t)) :
    Configurable put' (act.zoom part back) := by
  intro j
  have hrun : ∀ c c' r left,
      act.runFrom (Journaled.under put c ⟨part j.state, j.journal⟩) =
        (r, Journaled.under put c' left) →
      (act.zoom part back).runFrom (Journaled.under put' c j) =
        (r, Journaled.under put' c' ⟨back left.state j.state, left.journal⟩) := by
    intro c c' r left hsame
    rw [runFrom_zoom]
    have hstart : (⟨part (Journaled.under put' c j).state, (Journaled.under put' c j).journal⟩ :
        Journaled σ) = Journaled.under put c ⟨part j.state, j.journal⟩ :=
      congrArg (Journaled.mk · j.journal) (hpart c j.state)
    rw [hstart, hsame]
    exact congrArg (fun t => (r, (⟨t, left.journal⟩ : Journaled τ))) (hback c' c left.state j.state)
  cases h ⟨part j.state, j.journal⟩ with
  | never r left hsame => exact .never r _ fun c => hrun c c r left (hsame c)
  | always hsame =>
    refine .always fun found => ?_
    obtain ⟨r, left, hsame, herror⟩ := hsame found
    exact ⟨r, _, fun c hc => hrun c c.settings.2 r left (hsame c hc), herror⟩

/-- An action on a part of the state beside the configuration. -/
theorem beside (act : Action σ α) (hpart : ∀ c t, part (put' c t) = part t)
    (hback : ∀ c s t, back s (put' c t) = put' c (back s t)) :
    Configurable put' (act.zoom part back) := by
  intro j
  refine .never (act.runFrom ⟨part j.state, j.journal⟩).1
    ⟨back (act.runFrom ⟨part j.state, j.journal⟩).2.state j.state,
      (act.runFrom ⟨part j.state, j.journal⟩).2.journal⟩ fun c => ?_
  have hstart : (⟨part (Journaled.under put' c j).state, (Journaled.under put' c j).journal⟩ :
      Journaled σ) = ⟨part j.state, j.journal⟩ :=
    congrArg (Journaled.mk · j.journal) (hpart c j.state)
  rw [runFrom_zoom, hstart]
  exact congrArg (fun t => (_, (⟨t, _⟩ : Journaled τ))) (hback c _ j.state)

end Configurable

end Configurable

/-! ## Actions on the configuration alone -/

/-- Another configuration in place of one. -/
def anew (c : Configuration) (_ : Configuration) : Configuration := c

theorem settings_configurable : Configurable anew settings := by
  intro j
  refine .always fun found => ⟨found.mapError .invalid, j, fun c hc => ?_, fun e he => ?_⟩
  · rw [runFrom_settings, ← hc]
    rfl
  · rw [he]
    rfl

end Action

/-! ## Terminal operations -/

open FluentQuery.Action

/-- A context with another configuration. -/
def Context.under (c : Configuration) (x : Context) : Context := { x with configuration := c }

theorem Session.terminal_configurable (q : Query) (c : TerminalCall) :
    Configurable Context.under (terminal q c) :=
  Closed.terminal (Configurable.closed anew) settings_configurable
    (Configurable.closed Context.under)
    (fun h => .zoom h (fun _ _ => rfl) fun _ _ _ _ => rfl)
    (fun act => .beside act (fun _ _ => rfl) fun _ _ _ => rfl) q c

/-! ## Operations of a session -/

/-- Whether an operation changes the environment, or drops the settings that are kept. -/
def Operation.changesEnvironment : Operation → Bool
  | .environment _ _ _ => true
  | _ => false

namespace Session

/-- A session with another configuration. -/
def under (c : Configuration) (s : Session) : Session := { s with configuration := c }

/-- What was found under a name, or the failure that nothing was. -/
def orMissing {α : Type} (kind name : String) : Option α → Action Session α
  | some x => pure x
  | none => throw (.missing kind name)

theorem orMissing_configurable {α : Type} (kind name : String) (found : Option α) :
    Configurable under (orMissing kind name found) := by
  cases found with
  | none => exact .throw _
  | some x => exact .pure x

theorem findAdapter_configurable (name : String) : Configurable under (findAdapter name) := by
  have heq : findAdapter name =
      current >>= fun s => orMissing "adapter" name (s.adapters.lookup name) :=
    bind_congr fun s => by cases s.adapters.lookup name <;> rfl
  rw [heq]
  exact .view (fun s : Session => s.adapters.lookup name) (f := orMissing "adapter" name)
    (fun _ _ => rfl) (orMissing_configurable _ _)

theorem onAdapter_configurable {α : Type} (name : String) (act : Action Adapter α) :
    Configurable under (onAdapter name act) :=
  .bind (findAdapter_configurable name) fun _ =>
    .beside act (fun _ _ => rfl) fun _ _ _ => rfl

theorem hereditary_configurable :
    Hereditary (fun act => Configurable anew act) (fun act => Configurable under act) where
  toClosed := Configurable.closed under
  configured h := .zoom h (fun _ _ => rfl) fun _ _ _ _ => rfl
  findQuery name := by
    have heq : findQuery name =
        current >>= fun s => orMissing "wrapper" name (s.queries.lookup name) :=
      bind_congr fun s => by cases s.queries.lookup name <;> rfl
    rw [heq]
    exact .view (fun s : Session => s.queries.lookup name) (f := orMissing "wrapper" name)
      (fun _ _ => rfl) (orMissing_configurable _ _)
  keepQuery _ _ := .update fun _ _ => rfl
  logging hf := .view Session.logging (fun _ _ => rfl) hf
  setLogging _ := .update fun _ _ => rfl
  registry hf := .view Session.registry (fun _ _ => rfl) hf
  register _ _ := .update fun _ _ => rfl
  adapterCall name _ _ := onAdapter_configurable name _
  onContext name q c := .bind (findAdapter_configurable name) fun _ =>
    .zoom (terminal_configurable q c) (fun _ _ => rfl) fun _ _ _ _ => rfl

theorem performAdapter_configurable (name : String) (source : AdapterSource) (options : Value)
    (connect : Bool) (driver : Driver) (files : Path.Files) :
    Configurable under (perform (.adapter name source options connect driver files)) := by
  have hdone : Configurable under (do return Reply.adapter (← findAdapter name)) :=
    .bind (findAdapter_configurable name) fun _ => .pure _
  have hkeep : ∀ a, Configurable under (keepAdapter name a) := fun a => .update fun _ _ => rfl
  have herase : Configurable under
      (Action.update fun s : Session => { s with adapters := erase name s.adapters }) :=
    .update fun _ _ => rfl
  refine .bind herase fun _ => ?_
  refine .view Session.registry (f := fun r => do
    keepAdapter name (← Action.ofExcept (source.make r options driver files))
    if connect then onAdapter name Adapter.connect
    return Reply.adapter (← findAdapter name)) (fun _ _ => rfl) fun r => ?_
  refine .bind ((Configurable.closed under).ofExcept _) fun a => .bind (hkeep a) fun _ => ?_
  cases connect with
  | false => exact hdone
  | true => exact .bind (onAdapter_configurable name _) fun _ => hdone

theorem perform_steady_configurable {op : Operation} (h : op.isSteady = true) :
    Configurable under (perform op) :=
  hereditary_configurable.perform (Configurable.closed anew) settings_configurable h

/-- **All that an operation has to do with the configuration is to read the settings**, if it does
not change the environment. -/
theorem perform_configurable {op : Operation} (h : op.changesEnvironment = false) :
    Configurable under (perform op) := by
  cases op with
  | environment => cases h
  | adapter name source options connect driver files =>
    exact performAdapter_configurable name source options connect driver files
  | _ => exact perform_steady_configurable rfl

end Session

end FluentQuery
