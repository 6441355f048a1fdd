import FluentQuery.Proofs.Adapter.Credentials
import FluentQuery.Proofs.Session.Operations

/-!
# Sessions with other credentials

Two sessions run the same operations, but their adapters are made with options that differ in
credentials. All that they answer with is the same, but for what the driver is given to connect.

* **`Session.Beside`** — sessions that are the same but for the credentials of their adapters;
* **`Operation.Conceals`**, **`Response.LooksLike`** — operations and responses that are the same
  but for credentials;
* **`Session.run_looksLike`** — an operation of either session;
* **`Session.credentials_never_show`** — any run of both.
-/

namespace FluentQuery

open FluentQuery.Action

/-! ## Things under names -/

namespace Session

section Names

variable {α β : Type} {R : α → β → Prop} {l : List (String × α)} {l' : List (String × β)}

/-- Entries with the same name and things in a relation. -/
def Entry (R : α → β → Prop) (e : String × α) (e' : String × β) : Prop := e.1 = e'.1 ∧ R e.2 e'.2

theorem lookup_alike (h : List.Forall₂ (Entry R) l l') (name : String) :
    Option.Rel R (l.lookup name) (l'.lookup name) := by
  induction h with
  | nil => exact .none
  | @cons e e' rest rest' he _ ih =>
    obtain ⟨n, x⟩ := e
    obtain ⟨n', y⟩ := e'
    obtain ⟨hn, hxy⟩ := he
    cases hn
    rw [List.lookup_cons, List.lookup_cons]
    cases name == n with
    | true => exact .some hxy
    | false => exact ih

theorem put_alike (h : List.Forall₂ (Entry R) l l') (name : String) {x : α} {y : β} (hxy : R x y) :
    List.Forall₂ (Entry R) (put name x l) (put name y l') := by
  induction h with
  | nil => exact .cons ⟨rfl, hxy⟩ .nil
  | @cons e e' rest rest' he hrest ih =>
    obtain ⟨n, z⟩ := e
    obtain ⟨n', w⟩ := e'
    obtain ⟨hn, hzw⟩ := he
    cases hn
    unfold put
    split
    · exact .cons ⟨rfl, hxy⟩ hrest
    · exact .cons ⟨rfl, hzw⟩ ih

theorem erase_alike (h : List.Forall₂ (Entry R) l l') (name : String) :
    List.Forall₂ (Entry R) (erase name l) (erase name l') :=
  List.rel_filter (fun e e' he => by simp only [he.1]) h

end Names

end Session

/-! ## Adapters in a session -/

namespace Adapter

/-- The same adapter, or one that is the same but for its credentials. -/
def LooksLike (a b : Adapter) : Prop := a = b ∨ Alias a b

variable {a b : Adapter}

namespace LooksLike

theorem engine (h : LooksLike a b) : a.engine = b.engine := by
  rcases h with rfl | h
  · rfl
  · exact h.engine.symm

theorem connected (h : LooksLike a b) : a.connected = b.connected := by
  rcases h with rfl | h
  · rfl
  · exact h.connected.symm

theorem attributes (h : LooksLike a b) : a.attributes = b.attributes := by
  rcases h with rfl | h
  · rfl
  · exact h.attributes_eq

theorem calls (h : LooksLike a b) : List.Forall₂ DriverCall.Conceals a.calls b.calls := by
  rcases h with rfl | h
  · exact DriverCall.Conceals.refl_list _
  · exact h.calls

/-- What does not tell credentials apart does not tell such adapters apart. -/
theorem agree {act : Action Adapter α} (h : Agree Alias Eq act act) :
    Agree LooksLike Eq act act := Agree.or (.refl act) h

theorem serves (p : List Value) : Serves id LooksLike p p := by
  have hvalues := alike_boundValues_self (.list p)
  exact {
    query := fun sql => .of_agree (agree (Alias.bisimulation.executeQuery_agree hvalues sql))
    count := fun sql => .of_agree (agree (Alias.bisimulation.executeCount_agree hvalues sql))
    update := fun sql => .of_agree (agree (Alias.bisimulation.executeUpdate_agree hvalues sql)) }

end LooksLike

/-- Whether the driver can be loaded is set for an operation and restored behind it. -/
theorem installed_agree (c : AdapterCall) (installed : Bool) :
    Agree Alias Eq
      (do
        Action.update fun a => { a with installed }
        let result ← Action.attempt (Session.adapterCall c)
        Action.update fun a => { a with installed := true }
        Action.ofExcept result)
      (do
        Action.update fun a => { a with installed }
        let result ← Action.attempt (Session.adapterCall c)
        Action.update fun a => { a with installed := true }
        Action.ofExcept result) := by
  have hset : ∀ installed, Agree Alias Eq (Action.update fun a => { a with installed })
      (Action.update fun a => { a with installed }) := fun installed =>
    .update fun x y hxy => hxy.update (f := fun a => { a with installed })
      (fun _ => ⟨rfl, rfl, rfl⟩) fun _ _ _ _ => rfl
  refine .bind (hset installed) fun _ _ _ => .bind (Agree.attempt (adapterCall_agree c)) ?_
  intro r r' hr
  rw [hr.eq]
  exact .bind (hset true) fun _ _ _ => .ofExcept (.refl _)

end Adapter

/-! ## Sessions -/

/-- Replies that are the same, or tell of adapters of which all that can be seen is the same. -/
inductive Reply.LooksLike : Reply → Reply → Prop
  | same (r : Reply) : LooksLike r r
  | adapter {a b : Adapter} : a.engine = b.engine → a.connected = b.connected →
      a.attributes = b.attributes → LooksLike (.adapter a) (.adapter b)

/-- The same response, but for the credentials in calls that connect. -/
structure Response.LooksLike (r r' : Response) : Prop where
  result : Action.Alike Reply.LooksLike r.result r'.result
  after : r.after = r'.after
  calls : Option.Rel (List.Forall₂ DriverCall.Conceals) r.calls r'.calls
  records : r.records = r'.records

/-- The same operation, or one that makes an adapter with other credentials. -/
inductive Operation.Conceals : Operation → Operation → Prop
  | same (op : Operation) : Conceals op op
  | adapter (name : String) (source : AdapterSource) {options options' : Value} (connect : Bool)
      {driver driver' : Driver} (files : Path.Files) :
      Options.Conceals options options' → Driver.Alike driver driver' →
      Conceals (.adapter name source options connect driver files)
        (.adapter name source options' connect driver' files)

namespace Session

/-- Sessions that are the same but for the credentials of their adapters. -/
structure Beside (s s' : Session) : Prop where
  rest : s' = { s with adapters := s'.adapters }
  adapters : List.Forall₂ (Entry Adapter.LooksLike) s.adapters s'.adapters

variable {s s' : Session}

namespace Beside

theorem refl (s : Session) : Beside s s :=
  ⟨rfl, List.forall₂_same.mpr fun _ _ => ⟨rfl, .inl rfl⟩⟩

theorem configuration (h : Beside s s') : s.configuration = s'.configuration := by rw [h.rest]

theorem logging (h : Beside s s') : s.logging = s'.logging := by rw [h.rest]

theorem registry (h : Beside s s') : s.registry = s'.registry := by rw [h.rest]

theorem queries (h : Beside s s') : s.queries = s'.queries := by rw [h.rest]

/-- A change that does not touch adapters. -/
theorem update (h : Beside s s') {f : Session → Session}
    (hkeeps : ∀ t : Session, (f t).adapters = t.adapters)
    (hrest : ∀ (t : Session) adapters, f { t with adapters } = { f t with adapters }) :
    Beside (f s) (f s') := by
  refine ⟨?_, ?_⟩
  · rw [hkeeps, ← hrest, ← h.rest]
  · rw [hkeeps, hkeeps]
    exact h.adapters

/-- A change of the adapters alone. -/
theorem withAdapters (h : Beside s s') {l l' : List (String × Adapter)}
    (hadapters : List.Forall₂ (Entry Adapter.LooksLike) l l') :
    Beside { s with adapters := l } { s' with adapters := l' } := by
  refine ⟨?_, hadapters⟩
  rw [h.rest]

/-- The adapters under a name look the same, and so does one that stands in for both. -/
theorem lookup_getD (h : Beside s s') (name : String) {a b : Adapter}
    (hab : Adapter.LooksLike a b) :
    Adapter.LooksLike ((s.adapters.lookup name).getD a) ((s'.adapters.lookup name).getD b) := by
  have hfound := lookup_alike h.adapters name
  generalize s.adapters.lookup name = found at hfound ⊢
  generalize s'.adapters.lookup name = found' at hfound ⊢
  cases hfound with
  | none => exact hab
  | some hxy => exact hxy

theorem callsOf (h : Beside s s') (name : String) :
    List.Forall₂ DriverCall.Conceals (callsOf name s) (Session.callsOf name s') := by
  have hfound := lookup_alike h.adapters name
  unfold Session.callsOf
  generalize s.adapters.lookup name = found at hfound ⊢
  generalize s'.adapters.lookup name = found' at hfound ⊢
  cases hfound with
  | none => exact .nil
  | some hxy => exact hxy.calls

end Beside

theorem findAdapter_agree (name : String) :
    Agree Beside Adapter.LooksLike (findAdapter name) (findAdapter name) := by
  refine .bind .current fun s s' hs => ?_
  have hfound := lookup_alike hs.adapters name
  generalize s.adapters.lookup name = found at hfound ⊢
  generalize s'.adapters.lookup name = found' at hfound ⊢
  cases hfound with
  | none => exact .throw _
  | some hxy => exact .pure hxy

theorem keepAdapter_agree (name : String) {a b : Adapter} (h : Adapter.LooksLike a b) :
    Agree Beside Eq (keepAdapter name a) (keepAdapter name b) :=
  .update fun _ _ hs => hs.withAdapters (put_alike hs.adapters name h)

variable {α : Type}

theorem onAdapter_agree (name : String) {act : Action Adapter α}
    (h : Agree Adapter.LooksLike Eq act act) :
    Agree Beside Eq (onAdapter name act) (onAdapter name act) := by
  refine .bind (findAdapter_agree name) fun a b hab => ?_
  refine .zoom h (fun _ _ hs => hs.lookup_getD name hab) fun x y s s' hxy hs => ?_
  exact hs.withAdapters (put_alike hs.adapters name hxy)

theorem onContext_agree (name : String) {act : Action Context α}
    (h : Agree (Context.Beside Adapter.LooksLike) Eq act act) :
    Agree Beside Eq (onContext name act) (onContext name act) := by
  refine .bind (findAdapter_agree name) fun a b hab => ?_
  refine .zoom h (fun _ _ hs => ⟨hs.configuration, hs.lookup_getD name hab⟩) ?_
  intro x y s s' hxy hs
  rw [hxy.1]
  exact (hs.update (f := fun t => { t with configuration := y.configuration }) (fun _ => rfl)
    fun _ _ => rfl).withAdapters (put_alike hs.adapters name hxy.2)

theorem configured_agree (act : Action Configuration α) :
    Agree Beside Eq (configured act) (configured act) := by
  refine .zoom (.refl act) (fun _ _ hs => hs.configuration) fun c c' s s' hc hs => ?_
  rw [hc]
  exact hs.update (f := fun t => { t with configuration := c' }) (fun _ => rfl) fun _ _ => rfl

/-- What sessions are built from does not tell adapters with other credentials apart. -/
theorem hereditary_agree :
    Hereditary (fun _ => True) (fun act => Agree Beside Eq act act) where
  pure _ := .pure rfl
  throw e := .throw e
  log _ _ _ := .log _ _ _
  bind h hf := .bind h fun x _ hxy => hxy ▸ hf x
  configured _ := configured_agree _
  findQuery name := by
    refine .bind .current fun s s' hs => ?_
    rw [hs.queries]
    cases s'.queries.lookup name with
    | none => exact .throw _
    | some q => exact .pure rfl
  keepQuery name q := .update fun s s' hs =>
    hs.update (f := fun t => { t with queries := put name q t.queries }) (fun _ => rfl)
      fun _ _ => rfl
  logging hf := .bind .current fun s s' hs => hs.logging ▸ hf s.logging
  setLogging l := .update fun s s' hs =>
    hs.update (f := fun t => { t with logging := l }) (fun _ => rfl) fun _ _ => rfl
  registry hf := .bind .current fun s s' hs => hs.registry ▸ hf s.registry
  register name engine := .update fun s s' hs =>
    hs.update (f := fun t => { t with registry := t.registry.register name engine })
      (fun _ => rfl) fun _ _ => rfl
  adapterCall name c installed :=
    onAdapter_agree name (Adapter.LooksLike.agree (Adapter.installed_agree c installed))
  onContext name q c := onContext_agree name
    (Query.terminal_agreeUpTo (Adapter.LooksLike.serves _) rfl c).agree

/-! ## Operations -/

theorem make_looksLike (source : AdapterSource) (r : Registry) {options options' : Value}
    {driver driver' : Driver} (files : Path.Files) (hoptions : Options.Conceals options options')
    (hdriver : Driver.Alike driver driver') :
    Alike Adapter.LooksLike (source.make r options driver files)
      (source.make r options' driver' files) := by
  have hmake : ∀ engine, Alike Adapter.LooksLike (Adapter.make engine options driver files)
      (Adapter.make engine options' driver' files) := by
    intro engine
    have hmade := Adapter.make_alike hoptions hdriver engine files
    generalize Adapter.make engine options driver files = made at hmade ⊢
    generalize Adapter.make engine options' driver' files = made' at hmade ⊢
    cases hmade with
    | ok hab => exact .ok (.inr hab)
    | error e => exact .error e
  cases source with
  | engine e => exact hmake e
  | registered name =>
    unfold AdapterSource.make Registry.make
    cases name with
    | text n =>
      simp only
      cases r.resolve? n with
      | some engine => exact hmake engine
      | none => exact .error _
    | _ => exact .error _

theorem performAdapter_agree (name : String) (source : AdapterSource) {options options' : Value}
    (connect : Bool) {driver driver' : Driver} (files : Path.Files)
    (hmake : ∀ r, Alike Adapter.LooksLike (source.make r options driver files)
      (source.make r options' driver' files)) :
    Agree Beside Reply.LooksLike (perform (.adapter name source options connect driver files))
      (perform (.adapter name source options' connect driver' files)) := by
  have hdone : Agree Beside Reply.LooksLike (do return .adapter (← findAdapter name))
      (do return .adapter (← findAdapter name)) :=
    .bind (findAdapter_agree name) fun _ _ hab =>
      .pure (.adapter hab.engine hab.connected hab.attributes)
  refine .bind (.update fun s s' hs => hs.withAdapters (erase_alike hs.adapters name))
    fun _ _ _ => ?_
  refine .bind .current fun s s' hs => ?_
  rw [hs.registry]
  refine .bind (.ofExcept (hmake _)) fun a b hab => ?_
  refine .bind (keepAdapter_agree name hab) fun _ _ _ => ?_
  cases connect with
  | false => exact hdone
  | true =>
    exact .bind (onAdapter_agree name (Adapter.LooksLike.agree Adapter.connect_agree))
      fun _ _ _ => hdone

/-- Operations that are the same but for credentials come out alike. -/
theorem perform_agree {op op' : Operation} (h : Operation.Conceals op op') :
    Agree Beside Reply.LooksLike (perform op) (perform op') := by
  have hsame : ∀ {act : Action Session Reply}, Agree Beside Eq act act →
      Agree Beside Reply.LooksLike act act := by
    intro act hact s s' records hs
    obtain ⟨houtcome, hstate, hjournal⟩ := hact s s' records hs
    refine ⟨?_, hstate, hjournal⟩
    rw [houtcome.eq]
    cases (act.runFrom ⟨s', records⟩).1 with
    | ok r => exact .ok (.same r)
    | error e => exact .error e
  have hclosed : Closed (σ := Configuration) fun _ => True := ⟨by simp, by simp, by simp, by simp⟩
  cases h with
  | adapter name source connect files hoptions hdriver =>
    exact performAdapter_agree name source connect files
      fun r => make_looksLike source r files hoptions hdriver
  | same =>
    cases op with
    | adapter name source options connect driver files =>
      refine performAdapter_agree name source connect files fun r => ?_
      cases source.make r options driver files with
      | ok a => exact .ok (.inl rfl)
      | error e => exact .error e
    | environment changes file reset =>
      exact hsame (.bind (configured_agree _) fun _ _ _ => .pure rfl)
    | _ => exact hsame (hereditary_agree.perform hclosed trivial rfl)

section Run

variable {op op' : Operation} {r r' : Except Failure Reply} {t t' : Session}

/-- The driver saw the same calls, but for credentials. -/
theorem callsDuring_alike (hop : Operation.Conceals op op') (hr : Alike Reply.LooksLike r r')
    (hs : Beside s s') (ht : Beside t t') :
    Option.Rel (List.Forall₂ DriverCall.Conceals) (callsDuring op r s t)
      (callsDuring op' r' s' t') := by
  have hname : adapterOf? op = adapterOf? op' := by cases hop <;> rfl
  have hmakes : makesAdapter op = makesAdapter op' := by cases hop <;> rfl
  have hmore : ∀ name, List.Forall₂ DriverCall.Conceals
      ((callsOf name t).drop (if makesAdapter op then 0 else (callsOf name s).length))
      ((callsOf name t').drop (if makesAdapter op' then 0 else (callsOf name s').length)) := by
    intro name
    rw [hmakes, (hs.callsOf name).length_eq]
    exact List.forall₂_drop _ (ht.callsOf name)
  unfold callsDuring
  rw [hname]
  cases hr with
  | ok _ =>
    cases adapterOf? op' with
    | none => exact .none
    | some name => exact .some (hmore name)
  | error e =>
    cases e with
    | missing kind name => exact .none
    | _ =>
      cases adapterOf? op' with
      | none => exact .none
      | some name => exact .some (hmore name)

/-- An adapter that could not be made is dropped in both sessions. -/
theorem dropFailed_beside (hop : Operation.Conceals op op') (hr : Alike Reply.LooksLike r r')
    (ht : Beside t t') : Beside (dropFailed op r t) (dropFailed op' r' t') := by
  have hdrop : ∀ name, Beside { t with adapters := erase name t.adapters }
      { t' with adapters := erase name t'.adapters } :=
    fun name => ht.withAdapters (erase_alike ht.adapters name)
  cases hop with
  | adapter name source connect files hoptions hdriver =>
    cases hr with
    | ok _ => exact ht
    | error e => exact hdrop name
  | same =>
    cases op with
    | adapter name source options connect driver files =>
      cases hr with
      | ok _ => exact ht
      | error e => exact hdrop name
    | _ => exact ht

/-- **An operation of either session looks the same**, and the sessions stay beside each other. -/
theorem run_looksLike (hop : Operation.Conceals op op') (hs : Beside s s') :
    Response.LooksLike (s.run op).1 (s'.run op').1 ∧ Beside (s.run op).2 (s'.run op').2 := by
  obtain ⟨houtcome, hstate, hjournal⟩ := perform_agree hop s s' [] hs
  have hafter : ∀ t t' : Session, Beside t t' → clausesAfter? op t = clausesAfter? op' t' := by
    intro t t' ht
    cases hop with
    | adapter => rfl
    | same =>
      unfold clausesAfter?
      rw [ht.queries]
  rw [run_eq, run_eq]
  refine ⟨⟨houtcome, hafter _ _ hstate, callsDuring_alike hop houtcome hs hstate, ?_⟩,
    dropFailed_beside hop houtcome hstate⟩
  simp only [hjournal, hstate.logging]

end Run

/-! ## Runs -/

/-- What a session answers to operations one after another. -/
def responses (s : Session) : List Operation → List Response
  | [] => []
  | op :: rest => (s.run op).1 :: responses (s.run op).2 rest

theorem responses_looksLike {ops ops' : List Operation}
    (hops : List.Forall₂ Operation.Conceals ops ops') (hs : Beside s s') :
    List.Forall₂ Response.LooksLike (s.responses ops) (s'.responses ops') := by
  induction hops generalizing s s' with
  | nil => exact .nil
  | cons hop _ ih =>
    obtain ⟨hresponse, hleft⟩ := run_looksLike hop hs
    exact .cons hresponse (ih hleft)

/-- **Credentials never show.** Two runs of the same operations are made on adapters whose options
differ in the password, or in the connection text where one is given, and whose drivers do the same
whatever credentials they get. Operation by operation both give the same result or fail in the same
way, write the same records and make the same calls, but for the credentials in those that
connect. -/
theorem credentials_never_show (s : Session) {ops ops' : List Operation}
    (h : List.Forall₂ Operation.Conceals ops ops') :
    List.Forall₂ Response.LooksLike (s.responses ops) (s.responses ops') :=
  responses_looksLike h (.refl s)

/-- A server that refuses the first statement, and the rollback behind it. -/
def refusing : Script where
  results := [{ fault := some (.driver .postgres "relation t does not exist") }]
  rollbackFault := some (.driver .postgres "server closed the connection")

/-- Options that name a database and a user. -/
def account : Entries :=
  [(.text "host", .text "localhost"), (.text "database", .text "app"), (.text "user", .text "ann")]

/-- Options that name a database and a user, with a password. -/
def keyed (password : String) : Entries := account ++ [(.text "password", .text password)]

/-- Options with a connection text that has the password in it. -/
def linked (password : String) : Entries :=
  [(.text "dsn", .text ("postgresql://ann:" ++ password ++ "@localhost/app"))]

/-- Connects with options and asks for rows. -/
def visit (options : Entries) : List Operation :=
  [.configureLogging (.text "INFO"),
    .adapter "db" (.registered (.text "postgres")) (.dict options) true refusing.driver {},
    .adapterCall "db" (.executeQuery "SELECT * FROM t" .null) true]

theorem credentials_never_show_visit :
    (List.Forall₂ Response.LooksLike (({} : Session).responses (visit (keyed "hunter2")))
        (({} : Session).responses (visit (keyed "swordfish"))) ∧
      (({} : Session).responses (visit (keyed "hunter2"))).map Response.records =
        [[], [⟨.adapter, .info, "postgres connected: localhost:5432/app"⟩],
          [⟨.postgres, .warning, "PostgreSQL rollback failed: server closed the connection"⟩]]) ∧
    List.Forall₂ Response.LooksLike (({} : Session).responses (visit (linked "hunter2")))
        (({} : Session).responses (visit (linked "swordfish"))) ∧
      (({} : Session).responses (visit (linked "hunter2"))).map Response.records =
        [[], [⟨.adapter, .info, "postgres connected: dsn"⟩],
          [⟨.postgres, .warning, "PostgreSQL rollback failed: server closed the connection"⟩]] := by
  have hconceals : ∀ {options options' : Entries},
      Options.Conceals (.dict options) (.dict options') →
        List.Forall₂ Operation.Conceals (visit options) (visit options') := fun h =>
    .cons (.same _) (.cons (.adapter "db" _ true {} h refusing.alike) (.cons (.same _) .nil))
  exact ⟨⟨credentials_never_show {} (hconceals (.of_password account [] _ _)), rfl⟩,
    credentials_never_show {} (hconceals (.of_dsn [] [] _ _)), rfl⟩

end Session

end FluentQuery
