import FluentQuery.Proofs.Session.Lineage
import FluentQuery.Proofs.Settings.Reading
import FluentQuery.Proofs.Statement.Announced
import FluentQuery.Proofs.Terminal.Validation

/-!
# Settings as a snapshot

The settings that a session works with are those of the environment in which they were first read
since they were last dropped. That environment is kept track of from operation to operation, without
regard to what the session keeps of the settings.

* **`Session.Reads`** — whether an operation reads the settings: it fails if they cannot be read;
* **`Snapshot`** — the environment as it is, and the one in which the settings were read;
* **`Snapshot.Governs`** — what a session keeps are the settings of its snapshot; every operation
  keeps this, hence every run does;
* **`Session.Dialects`** — the dialects that queries were made with, kept track of likewise;
* **`Snapshot.Rules`** — what it is for a session to work with a snapshot;
* **`Session.settings_are_snapshots`** — after any operations every session does.
-/

namespace FluentQuery

open FluentQuery.Action

/-! ## Operations that read the settings -/

/-- Whether an operation answers with a compiled statement. -/
def Operation.compiles : Operation → Bool
  | .build _ _ _ => true
  | .compile _ _ _ _ _ => true
  | _ => false

namespace Session

variable {s : Session} {op : Operation}

/-- What an operation does from a session, whatever the configuration is. -/
inductive Heeds (s : Session) (op : Operation) : Prop
  | never (response : Response) (left : Session) :
      (∀ c, (s.under c).run op = (response, left.under c)) → Heeds s op
  | always :
      (∀ found : Except Invalid Settings, ∃ (response : Response) (left : Session),
        (∀ c, c.settings.1 = found → (s.under c).run op = (response, left.under c.settings.2)) ∧
        ∀ e, found = .error e → response.result = .error (.invalid e)) → Heeds s op

theorem run_under {c c' : Configuration} {r : Except Failure Reply} {left : Journaled Session}
    (h : (perform op).runFrom ⟨s.under c, []⟩ = (r, ⟨left.state.under c', left.journal⟩)) :
    (s.under c).run op =
      ({ result := r
         after := clausesAfter? op left.state
         calls := callsDuring op r s left.state
         records := left.journal.filter left.state.logging.shows },
        (dropFailed op r left.state).under c') := by
  have hafter : clausesAfter? op (left.state.under c') = clausesAfter? op left.state := by
    cases op <;> rfl
  have hdrop : dropFailed op r (left.state.under c') = (dropFailed op r left.state).under c' := by
    cases op <;> cases r <;> rfl
  rw [run_eq, h, hafter, hdrop]
  rfl

theorem heeds (s : Session) (h : op.changesEnvironment = false) : Heeds s op := by
  cases perform_configurable h ⟨s, []⟩ with
  | never r left hrun => exact .never _ _ fun c => run_under (hrun c)
  | always hrun =>
    refine .always fun found => ?_
    obtain ⟨r, left, hsame, herror⟩ := hrun found
    exact ⟨_, _, fun c hc => run_under (hsame c hc), herror⟩

/-- An operation reads the settings if it fails wherever they cannot be read, with what is wrong
with them. -/
def Reads (s : Session) (op : Operation) : Prop :=
  ∀ c e, c.settings.1 = .error e → ((s.under c).run op).1.result = .error (.invalid e)

/-- A configuration whose settings cannot be read. -/
def unreadable (dialect : String) : Configuration where
  environment := { bindings := [("QUERYWRAPPER_SQL_DIALECT", dialect)] }

/-- Whatever fails for every reason there can be has met with it. -/
theorem not_reads (response : Response)
    (h : ∀ c, ((s.under c).run op).1 = response) : ¬s.Reads op := by
  intro hreads
  have hleft := hreads (unreadable "x") _ rfl
  have hright := hreads (unreadable "y") _ rfl
  rw [h] at hleft hright
  rw [hleft] at hright
  exact absurd (Failure.invalid.inj (Except.error.inj hright)) (by decide)

/-- Whether an operation reads the settings shows in an environment that is empty. -/
theorem reads_iff (s : Session) (op : Operation) :
    s.Reads op ↔ ((s.under {}).run op).2.configuration.kept.isSome = true := by
  cases hop : op.changesEnvironment with
  | true =>
    cases op with
    | environment changes file reset =>
      refine iff_of_false (not_reads ⟨.ok .done, none, none, []⟩ fun c => rfl) ?_
      cases reset <;> exact Bool.false_ne_true
    | _ => cases hop
  | false =>
    cases heeds s hop with
    | never response left hrun =>
      refine iff_of_false (not_reads response fun c => by rw [hrun c]) ?_
      rw [hrun]
      exact Bool.false_ne_true
    | always hrun =>
      refine iff_of_true (fun c e hc => ?_) ?_
      · obtain ⟨response, left, hsame, herror⟩ := hrun (.error e)
        rw [hsame c hc]
        exact herror e rfl
      · obtain ⟨response, left, hsame, -⟩ := hrun (.ok {})
        rw [hsame {} rfl]
        rfl

instance (s : Session) (op : Operation) : Decidable (s.Reads op) :=
  decidable_of_iff _ (reads_iff s op).symm

/-- An operation leaves the configuration as reading the settings does, if it reads them, and else
as it is. -/
theorem configuration_run (s : Session) (h : op.changesEnvironment = false) :
    (s.run op).2.configuration =
      if s.Reads op then s.configuration.settings.2 else s.configuration := by
  cases heeds s h with
  | never response left hrun =>
    rw [if_neg (not_reads response fun c => by rw [hrun c])]
    exact congrArg (fun run => run.2.configuration) (hrun s.configuration)
  | always hrun =>
    have hreads : s.Reads op := by
      intro c e hc
      obtain ⟨response, left, hsame, herror⟩ := hrun (.error e)
      rw [hsame c hc]
      exact herror e rfl
    obtain ⟨response, left, hsame, -⟩ := hrun s.configuration.settings.1
    rw [if_pos hreads]
    exact congrArg (fun run => run.2.configuration) (hsame s.configuration rfl)

/-- Where the same settings are in force an operation does the same. -/
theorem run_same (s : Session) (h : op.changesEnvironment = false) {c c' : Configuration}
    (hc : c.settings.1 = c'.settings.1) :
    ((s.under c).run op).1 = ((s.under c').run op).1 ∧
      ((s.under c).run op).2.under {} = ((s.under c').run op).2.under {} := by
  cases heeds s h with
  | never response left hrun =>
    rw [hrun, hrun]
    exact ⟨rfl, rfl⟩
  | always hrun =>
    obtain ⟨response, left, hsame, -⟩ := hrun c'.settings.1
    rw [hsame c hc, hsame c' rfl]
    exact ⟨rfl, rfl⟩

end Session

/-! ## Snapshots -/

/-- The environment as it is, and the one in which the settings were read, if they have been read
since they were last dropped. -/
structure Snapshot where
  environment : Environment
  source : Option Environment := none
  deriving DecidableEq

namespace Snapshot

/-- The environment that the settings in force are those of. -/
def taken (k : Snapshot) : Environment := k.source.getD k.environment

/-- The snapshot after an operation: an environment is taken down when settings are read in it that
can be read, and none have been since they were last dropped. -/
def step (s : Session) (k : Snapshot) : Operation → Snapshot
  | .environment changes file reset =>
    ⟨Session.changeEnvironment changes file k.environment, if reset then none else k.source⟩
  | op =>
    if k.source = none ∧ s.Reads op ∧ (Settings.load k.environment).isOk = true then
      { k with source := some k.environment }
    else k

/-- What is kept of the settings are those of the snapshot. -/
structure Governs (k : Snapshot) (c : Configuration) : Prop where
  environment : c.environment = k.environment
  unread : k.source = none → c.kept = none
  read : ∀ e, k.source = some e → ∃ x, Settings.load e = .ok x ∧ c.kept = some x

namespace Governs

variable {k : Snapshot} {c : Configuration} {s : Session}

theorem settings (h : Governs k c) : c.settings.1 = Settings.load k.taken := by
  unfold Configuration.settings taken
  cases hsource : k.source with
  | none =>
    rw [h.unread hsource, h.environment]
    simp only [Option.getD_none]
    cases Settings.load k.environment <;> rfl
  | some e =>
    obtain ⟨x, hx, hkept⟩ := h.read e hsource
    rw [hkept]
    exact hx.symm

/-- Settings that cannot be read have not been read. -/
theorem source_eq_none (h : Governs k c) {e : Invalid}
    (he : Settings.load k.taken = .error e) : k.source = none := by
  cases hsource : k.source with
  | none => rfl
  | some environment =>
    obtain ⟨x, hx, -⟩ := h.read environment hsource
    rw [taken, hsource, Option.getD_some, hx] at he
    cases he

theorem eq_of_unread (h : Governs k c) (hsource : k.source = none) : c = ⟨k.environment, none⟩ :=
  congrArg₂ Configuration.mk h.environment (h.unread hsource)

/-- Reading the settings keeps them, if they can be read. -/
theorem reading (h : Governs k c) :
    Governs (if k.source = none ∧ (Settings.load k.environment).isOk = true then
      { k with source := some k.environment } else k) c.settings.2 := by
  unfold Configuration.settings
  cases hsource : k.source with
  | some e =>
    obtain ⟨x, hx, hkept⟩ := h.read e hsource
    simp only [hkept, reduceCtorEq, false_and, if_false]
    exact h
  | none =>
    rw [h.unread hsource, h.environment]
    cases hload : Settings.load k.environment with
    | error e =>
      simp only [Except.isOk, Except.toBool, Bool.false_eq_true, and_false, if_false]
      exact h
    | ok x =>
      simp only [Except.isOk, Except.toBool, and_self, if_true]
      refine ⟨rfl, fun hnone => (nomatch hnone), fun e he => ⟨x, ?_, rfl⟩⟩
      cases he
      exact hload

/-- Every operation keeps the invariant. -/
theorem step (h : Governs k s.configuration) (op : Operation) :
    Governs (k.step s op) (s.run op).2.configuration := by
  cases hop : op.changesEnvironment with
  | true =>
    cases op with
    | environment changes file reset =>
      have hchanged := congrArg (Session.changeEnvironment changes file) h.environment
      cases reset with
      | true => exact ⟨hchanged, fun _ => rfl, fun e he => nomatch he⟩
      | false => exact ⟨hchanged, h.unread, h.read⟩
    | _ => cases hop
  | false =>
    have hstep : k.step s op =
        if k.source = none ∧ s.Reads op ∧ (Settings.load k.environment).isOk = true then
          { k with source := some k.environment } else k := by
      cases op with
      | environment => cases hop
      | _ => rfl
    rw [hstep, s.configuration_run hop]
    by_cases hreads : s.Reads op
    · simp only [hreads, true_and, if_true]
      exact h.reading
    · simp only [hreads, false_and, and_false, if_false]
      exact h

end Governs

end Snapshot

namespace Session

/-- The snapshot after operations, from the one before them. -/
def snapshotFrom (s : Session) (k : Snapshot) : List Operation → Snapshot
  | [] => k
  | op :: rest => snapshotFrom (s.run op).2 (k.step s op) rest

/-- The snapshot after operations on a session that has not read the settings. -/
def snapshot (s : Session) (ops : List Operation) : Snapshot :=
  s.snapshotFrom ⟨s.configuration.environment, none⟩ ops

end Session

/-- Every run keeps the invariant. -/
theorem Snapshot.Governs.run {s : Session} {k : Snapshot} (h : Governs k s.configuration)
    (ops : List Operation) : Governs (s.snapshotFrom k ops) (s.after ops).configuration := by
  induction ops generalizing s k with
  | nil => exact h
  | cons op rest ih => exact ih (h.step op)

/-! ## Dialects of queries -/

namespace Query

theorem call_dialect {q q' : Query} {c : ClauseCall} (h : q.call c = .ok q') :
    q'.dialect = q.dialect := by
  unfold call at h
  cases happly : q.clauses.apply c with
  | error e =>
    rw [happly] at h
    cases h
  | ok s =>
    rw [happly] at h
    cases h
    rfl

theorem chain_dialect (q : Query) (calls : List ClauseCall) :
    (q.chain calls).1.dialect = q.dialect := by
  induction calls generalizing q with
  | nil => rfl
  | cons c rest ih =>
    unfold chain
    cases hc : q.call c with
    | error e => rfl
    | ok q' => exact (ih q').trans (call_dialect hc)

end Query

namespace Session

/-- The dialect that a query is made with: null stands for the one of the settings. -/
def givenDialect? (found : Except Invalid Settings) : Value → Option Value
  | .null => found.toOption.map fun x => (x.sqlDialect.map Value.text).getD .null
  | v => if Sql.isKnownDialect v then some v else none

theorem dialect?_eq (s : Session) (given : Value) :
    s.dialect? given = givenDialect? s.configuration.settings.1 given := by
  show ((Compile.dialect given).runFrom ⟨s.configuration, []⟩).1.toOption = _
  unfold Compile.dialect givenDialect?
  cases given with
  | null =>
    simp only
    rw [runFrom_bind, runFrom_settings]
    cases s.configuration.settings.1 with
    | error e => rfl
    | ok x =>
      obtain ⟨_, _, _, d⟩ := x
      cases d <;> rfl
  | _ =>
    simp only
    split <;> rfl

/-- A query has no dialect or a known one. -/
def Speakable (d : Value) : Prop := d = .null ∨ Sql.isKnownDialect d = true

theorem givenDialect?_speakable {e : Environment} {given d : Value}
    (h : givenDialect? (Settings.load e) given = some d) : Speakable d := by
  unfold givenDialect? at h
  split at h
  · cases hload : Settings.load e with
    | error reason =>
      rw [hload] at h
      cases h
    | ok x =>
      rw [hload] at h
      cases hd : x.sqlDialect with
      | none =>
        simp only [Except.toOption, Option.map_some, hd, Option.map_none, Option.getD_none] at h
        exact .inl (Option.some.inj h).symm
      | some name =>
        simp only [Except.toOption, Option.map_some, hd, Option.getD_some] at h
        cases h
        exact .inr (Settings.load_dialect_known hload hd)
  · split at h
    · next hknown =>
      cases h
      exact .inr hknown
    · cases h

/-- The dialects that queries were made with, by name. -/
abbrev Dialects := String → Option Value

/-- The dialects after an operation: those of a new query and of a copy are fixed once and for
all. -/
def Dialects.step (k : Snapshot) (l : Dialects) (op : Operation) : Dialects :=
  match change? op with
  | some (.start name q) =>
    match givenDialect? (Settings.load k.taken) q.dialect with
    | some d => Function.update l name (some d)
    | none => l
  | some (.copy name target) =>
    match l name with
    | some d => Function.update l target (some d)
    | none => l
  | _ => l

/-- The dialects after operations, from those before them. -/
def dialectsFrom (s : Session) (k : Snapshot) (l : Dialects) : List Operation → Dialects
  | [] => l
  | op :: rest => dialectsFrom (s.run op).2 (k.step s op) (l.step k op) rest

/-- The dialects after operations on a session without queries that has not read the settings. -/
def dialects (s : Session) (ops : List Operation) : Dialects :=
  s.dialectsFrom ⟨s.configuration.environment, none⟩ (fun _ => none) ops

/-- Each query has the dialect that is known of it, which a query may have. -/
structure Speaks (entries : List (String × Query)) (l : Dialects) : Prop where
  same : ∀ name, (entries.lookup name).map Query.dialect = l name
  speakable : ∀ name d, l name = some d → Speakable d

namespace Speaks

variable {entries : List (String × Query)} {l : Dialects} {s : Session} {k : Snapshot}

theorem put (h : Speaks entries l) {q : Query} (hq : Speakable q.dialect) (name : String) :
    Speaks (Session.put name q entries) (Function.update l name (some q.dialect)) where
  same other := by
    by_cases hother : other = name
    · subst hother
      rw [lookup_put_self, Function.update_self, Option.map_some]
    · rw [lookup_put_of_ne hother, Function.update_of_ne hother, h.same]
  speakable other d hd := by
    by_cases hother : other = name
    · subst hother
      rw [Function.update_self] at hd
      cases hd
      exact hq
    · rw [Function.update_of_ne hother] at hd
      exact h.speakable other d hd

theorem found (h : Speaks entries l) {name : String} {q : Query}
    (hq : entries.lookup name = some q) : l name = some q.dialect := by
  rw [← h.same, hq, Option.map_some]

/-- Every operation keeps the invariant. -/
theorem step (h : Speaks s.queries l) (hk : k.Governs s.configuration) (op : Operation) :
    Speaks (s.run op).2.queries (l.step k op) := by
  rw [run_queries]
  unfold Dialects.step
  cases change? op with
  | none => exact h
  | some change =>
    cases change with
    | start name q =>
      simp only [changed, dialect?_eq, hk.settings]
      cases hd : givenDialect? (Settings.load k.taken) q.dialect with
      | none => exact h
      | some d =>
        have hdialect : (({ dialect := d } : Query).chain q.chain).1.dialect = d :=
          Query.chain_dialect _ _
        have hput := h.put (q := (({ dialect := d } : Query).chain q.chain).1)
          (hdialect.symm ▸ givenDialect?_speakable hd) name
        rwa [hdialect] at hput
    | call name c =>
      simp only [changed]
      cases hq : s.queries.lookup name with
      | none => exact h
      | some q =>
        cases hc : q.call c with
        | error e => simpa only [hc] using h
        | ok q' =>
          have hdialect := Query.call_dialect hc
          have hput := h.put (q := q') (hdialect ▸ h.speakable name _ (h.found hq)) name
          rw [hdialect, ← h.found hq, Function.update_eq_self] at hput
          simpa only [hc] using hput
    | copy name target =>
      simp only [changed]
      cases hq : s.queries.lookup name with
      | none =>
        have hnone : l name = none := by rw [← h.same, hq, Option.map_none]
        simpa only [hnone] using h
      | some q =>
        simpa only [h.found hq] using h.put (h.speakable name _ (h.found hq)) target

/-- Every run keeps the invariant. -/
theorem run (h : Speaks s.queries l) (hk : k.Governs s.configuration) (ops : List Operation) :
    Speaks (s.after ops).queries (s.dialectsFrom k l ops) := by
  induction ops generalizing s k l with
  | nil => exact h
  | cons op rest ih => exact ih (h.step hk op) (hk.step op)

end Speaks

/-! ## The log of a compiling operation -/

/-- An action that writes nothing and leaves the settings in force. -/
def Quiet {α : Type} (act : Action Session α) : Prop :=
  ∀ j, (act.runFrom j).2.journal = j.journal ∧
    (act.runFrom j).2.state.configuration.settings.1 = j.state.configuration.settings.1

section Quiet

variable {α β : Type}

theorem Quiet.pure (x : α) : Quiet (pure x) := fun _ => ⟨rfl, rfl⟩

theorem Quiet.throw (e : Failure) : Quiet (throw e : Action Session α) := fun _ => ⟨rfl, rfl⟩

theorem Quiet.bind {act : Action Session α} {f : α → Action Session β} (h : Quiet act)
    (hf : ∀ x, Quiet (f x)) : Quiet (act >>= f) := by
  intro j
  have hfirst := h j
  rw [runFrom_bind]
  cases hrun : act.runFrom j with
  | mk r j' =>
    rw [hrun] at hfirst
    cases r with
    | error e => exact hfirst
    | ok x => exact ⟨(hf x j').1.trans hfirst.1, (hf x j').2.trans hfirst.2⟩

theorem findQuery_quiet (name : String) : Quiet (findQuery name) := by
  refine Quiet.bind (fun _ => ⟨rfl, rfl⟩) fun s => ?_
  split
  · exact .pure _
  · exact .throw _

theorem dialect_quiet (given : Value) : Quiet (configured (Compile.dialect given)) := by
  have hrun : ∀ j : Journaled Configuration,
      ((Compile.dialect given).runFrom j).2.journal = j.journal ∧
        ((Compile.dialect given).runFrom j).2.state.settings.1 = j.state.settings.1 := by
    intro j
    unfold Compile.dialect
    split
    · rw [runFrom_bind, runFrom_settings]
      have hagain := j.state.settings_settings
      cases hfound : j.state.settings.1 with
      | error e => exact ⟨rfl, hagain.trans hfound⟩
      | ok x => exact ⟨rfl, hagain.trans hfound⟩
    · split <;> exact ⟨rfl, rfl⟩
  exact fun j => hrun ⟨j.state.configuration, j.journal⟩

theorem startOrFind_quiet (name : String) (q : Option QueryStart) : Quiet (startOrFind name q) := by
  cases q with
  | none => exact findQuery_quiet name
  | some q =>
    have hkeep : ∀ q, Quiet (keepQuery name q) := fun _ _ => ⟨rfl, rfl⟩
    refine Quiet.bind (dialect_quiet q.dialect) fun d => Quiet.bind (hkeep _) fun _ => ?_
    split
    · exact .pure _
    · exact .throw _

variable {t : Session} {st : Statement}

theorem eq_ok_of_map_statement {r : Except Failure Statement}
    (h : r.map Reply.statement = .ok (.statement st)) : r = .ok st := by
  obtain ⟨st', rfl, hst⟩ := ok_of_map h
  cases hst
  rfl

/-- Behind what writes nothing a compiled statement is written of exactly if the settings ask for
it. -/
theorem Quiet.record_mem_iff {before : Action Session β} (h : Quiet before) (d : β → Value)
    (clauses : β → Clauses) (table : Value) (kind : StatementKind) {act : Action Session Reply}
    (hact : act = before >>= fun b =>
      configured (Compile.statement (d b) (clauses b) table kind) >>= fun st =>
        Pure.pure (Reply.statement st))
    (hrun : (act.runFrom ⟨t, []⟩).1 = .ok (.statement st)) :
    ∃ x, t.configuration.settings.1 = .ok x ∧
      (st.record ∈ (act.runFrom ⟨t, []⟩).2.journal ↔ x.logSql = true) := by
  have hquiet := h ⟨t, []⟩
  subst hact
  rw [runFrom_bind] at hrun ⊢
  cases hbefore : before.runFrom ⟨t, []⟩ with
  | mk r j =>
    rw [hbefore] at hquiet hrun
    obtain ⟨hjournal, hsettings⟩ := hquiet
    cases r with
    | error e => cases hrun
    | ok b =>
      simp only at hrun ⊢
      rw [runFrom_bind_pure] at hrun ⊢
      have hcompiled : ((Compile.statement (d b) (clauses b) table kind).runFrom
          ⟨j.state.configuration, j.journal⟩).1 = .ok st := eq_ok_of_map_statement hrun
      have houtcome := hcompiled
      rw [Compile.statement_outcome] at houtcome
      obtain ⟨-, x, hx⟩ := Compile.underSettings_eq_ok houtcome
      exact ⟨x, hsettings.symm.trans hx, Compile.record_mem_iff hx hjournal hcompiled⟩

theorem compiles_record_iff {op : Operation} (hop : op.compiles = true)
    (hrun : (t.run op).1.result = .ok (.statement st)) :
    ∃ x, t.configuration.settings.1 = .ok x ∧
      (st.record ∈ (t.run op).1.records ↔
        x.logSql = true ∧ (t.run op).2.logging.shows st.record = true) := by
  have hjournal : ∃ x, t.configuration.settings.1 = .ok x ∧
      (st.record ∈ ((perform op).runFrom ⟨t, []⟩).2.journal ↔ x.logSql = true) := by
    cases op with
    | build name q table =>
      exact (startOrFind_quiet name q).record_mem_iff Query.dialect Query.clauses table (.select {})
        rfl hrun
    | compile name q dialect kind table =>
      have hbefore : Quiet (do
          let q ← startOrFind name q
          let d ← configured (Compile.dialect dialect)
          return (q.clauses, d)) :=
        (startOrFind_quiet name q).bind fun _ => (dialect_quiet dialect).bind fun _ => .pure _
      refine hbefore.record_mem_iff Prod.snd Prod.fst table kind ?_ hrun
      simp only [perform, bind_assoc, pure_bind]
      cases kind <;> rfl
    | _ => cases hop
  obtain ⟨x, hx, hmem⟩ := hjournal
  have hleft : (t.run op).2.logging = ((perform op).runFrom ⟨t, []⟩).2.state.logging := by
    rw [run_eq]
    unfold dropFailed
    split <;> rfl
  refine ⟨x, hx, ?_⟩
  rw [hleft, ← hmem]
  exact List.mem_filter

end Quiet

theorem run_environment (s : Session) (changes : List (String × Option String))
    (file : Option String) (reset : Bool) :
    (s.run (.environment changes file reset)).2 =
      s.under ⟨changeEnvironment changes file s.configuration.environment,
        if reset then none else s.configuration.kept⟩ := by
  cases reset <;> rfl

theorem Reads.steady {s : Session} {op : Operation} (h : s.Reads op) :
    op.changesEnvironment = false := by
  cases op with
  | environment changes file reset =>
    exact absurd h (not_reads ⟨.ok .done, none, none, []⟩ fun c => rfl)
  | _ => rfl

end Session

/-! ## Sessions that work with a snapshot -/

namespace Snapshot

open Session

/-- What it is for a session to work with a snapshot. -/
structure Rules (k : Snapshot) (t : Session) : Prop where
  environment : t.configuration.environment = k.environment
  /-- The settings that are told of are those of the snapshot. -/
  settings : (t.run .settings).1.result =
    ((Settings.load k.taken).mapError Failure.invalid).map Reply.settings
  /-- Every operation goes the way it goes wherever these settings are in force. -/
  response : ∀ op, op.changesEnvironment = false →
    ∀ c : Configuration, c.settings.1 = Settings.load k.taken →
      ((t.under c).run op).1 = (t.run op).1 ∧
        ((t.under c).run op).2.under {} = (t.run op).2.under {}
  /-- Settings that cannot be read are not kept. -/
  failed : ∀ e, Settings.load k.taken = .error e → k.source = none ∧
    ∀ op, t.Reads op → (t.run op).1.result = .error (.invalid e) ∧
      (t.run op).2.configuration = ⟨k.environment, none⟩
  /-- Once they were read, a change of the environment alone makes no difference. -/
  lasting : ∀ changes file op, k.source.isSome = true → op.changesEnvironment = false →
    ((t.run (.environment changes file false)).2.run op).1 = (t.run op).1
  /-- Before, or when they are dropped, the environment counts as it is then. -/
  renewed : ∀ changes file reset op, k.source = none ∨ reset = true →
    op.changesEnvironment = false →
    ((t.run (.environment changes file reset)).2.run op).1 =
      ((t.under ⟨changeEnvironment changes file k.environment, none⟩).run op).1
  /-- Whether a compiled statement is written of is up to the settings of the snapshot. -/
  logged : ∀ op st, op.compiles = true → (t.run op).1.result = .ok (.statement st) →
    ∃ x, Settings.load k.taken = .ok x ∧
      (st.record ∈ (t.run op).1.records ↔
        x.logSql = true ∧ (t.run op).2.logging.shows st.record = true)
  /-- Which numbers of a page are allowed is up to the settings of the snapshot: others are refused,
  and the builder complains of numbers for no other reason. -/
  paged : ∀ name adapter q a table pageNo pageSize type x,
    t.queries.lookup name = some q → t.adapters.lookup adapter = some a →
    Settings.load k.taken = .ok x →
    (¬Query.Admits x pageNo pageSize →
      (t.run (.terminal name adapter (.fetchPage table pageNo pageSize type))).1.result =
        .error (.refusal (Query.pageRefusal x pageNo pageSize))) ∧
    ((∃ b, (t.run (.terminal name adapter (.fetchPage table pageNo pageSize type))).1.result =
        .error (.builder b) ∧ b.isPaging = true) ↔
      ¬Query.Admits x pageNo pageSize ∧
        ∀ v ∈ (Query.pageRefusal x pageNo pageSize).values, v.isWritable = true)

variable {k : Snapshot} {t : Session}

theorem Governs.rules (h : k.Governs t.configuration) : k.Rules t where
  environment := h.environment
  settings := by
    have hrun : (t.run .settings).1.result =
        (((configured Action.settings).runFrom ⟨t, []⟩).1.map Reply.settings) :=
      congrArg Prod.fst (runFrom_bind_pure (configured Action.settings) Reply.settings ⟨t, []⟩)
    rw [hrun, ← h.settings]
    exact congrArg (fun run => Except.map Reply.settings run.1)
      (runFrom_settings ⟨t.configuration, []⟩)
  response op hop c hc := t.run_same hop (hc.trans h.settings.symm)
  failed e he := by
    have hsource := h.source_eq_none he
    refine ⟨hsource, fun op hop => ?_⟩
    have hfound := h.settings.trans he
    refine ⟨hop t.configuration e hfound, ?_⟩
    rw [t.configuration_run hop.steady, if_pos hop, Configuration.settings_of_error hfound,
      h.eq_of_unread hsource]
  lasting changes file op hsource hop := by
    obtain ⟨e, he⟩ := Option.isSome_iff_exists.mp hsource
    obtain ⟨x, -, hkept⟩ := h.read e he
    have hchanged : ∀ environment,
        (⟨environment, t.configuration.kept⟩ : Configuration).settings.1 = .ok x :=
      fun environment => by simp only [Configuration.settings, hkept]
    rw [run_environment]
    refine (t.run_same hop ?_).1
    rw [if_neg Bool.false_ne_true, hchanged, Configuration.settings_of_kept hkept]
  renewed changes file reset op hdropped hop := by
    have hnone : (if reset then none else t.configuration.kept) = none := by
      obtain hsource | hreset := hdropped
      · rw [h.unread hsource, ite_self]
      · rw [if_pos hreset]
    rw [run_environment, hnone, h.environment]
  logged op st hop hrun := by
    rw [← h.settings]
    exact compiles_record_iff hop hrun
  paged name adapter q a table pageNo pageSize type x hq ha hx := by
    rw [(run_terminal hq ha _).1]
    exact ⟨fun hnot => (Query.fetchPage_of_not_admits (c := ⟨t.configuration, a⟩) q table type
        (h.settings.trans hx) [] hnot).1,
      Query.fetchPage_paging_iff (c := ⟨t.configuration, a⟩) q table type (h.settings.trans hx) []⟩

end Snapshot

namespace Session

/-- **Settings are snapshots.** After any operations a session works with the settings of the
environment in which they were first read since they were last dropped, or of the environment as it
is while they have not been read. Each query, copies among them, has the dialect that was fixed when
it was made, which is none or a known one. -/
theorem settings_are_snapshots (s : Session) (hqueries : s.queries = [])
    (hkept : s.configuration.kept = none) (ops : List Operation) :
    (s.snapshot ops).Rules (s.after ops) ∧
    (∀ name, ((s.after ops).queries.lookup name).map Query.dialect = s.dialects ops name) ∧
    ∀ name d, s.dialects ops name = some d → d = .null ∨ Sql.isKnownDialect d = true := by
  have hstart : Snapshot.Governs ⟨s.configuration.environment, none⟩ s.configuration :=
    ⟨rfl, fun _ => hkept, fun _ he => nomatch he⟩
  have hnone : Speaks s.queries fun _ => none :=
    ⟨fun name => by rw [hqueries]; rfl, fun _ _ h => nomatch h⟩
  have hspeaks := hnone.run hstart ops
  exact ⟨(hstart.run ops).rules, hspeaks.same, hspeaks.speakable⟩

/-- Sets the variable of the dialect. -/
def setDialect (name : String) : Operation :=
  .environment [("QUERYWRAPPER_SQL_DIALECT", some name)] none false

/-- A dialect that is not known stops the first query. The second takes what the variable says then,
which the third and a copy keep to although it has changed, until the settings are dropped. -/
def changing : List Operation :=
  [setDialect "nosuch", .new "a" {}, setDialect "sqlite", .new "a" {}, setDialect "duckdb",
    .new "b" {}, .copy "a" "c", .environment [] none true, .new "d" {}, setDialect "mysql"]

set_option maxRecDepth 4000 in
theorem settings_are_snapshots_changing :
    ({} : Session).queries = [] ∧ ({} : Session).configuration.kept = none ∧
    (["a", "b", "c", "d"].map fun name =>
        ((after {} changing).queries.lookup name).map Query.dialect) =
      ["sqlite", "sqlite", "sqlite", "duckdb"].map (fun d => some (Value.text d)) ∧
    ((after {} changing).run .settings).1.result =
      .ok (.settings { sqlDialect := some "duckdb" }) := by
  obtain ⟨hrules, hdialects, -⟩ := settings_are_snapshots {} rfl rfl changing
  refine ⟨rfl, rfl, ?_, ?_⟩
  · simp only [hdialects]
    rfl
  · exact hrules.settings.trans rfl

end Session

end FluentQuery
