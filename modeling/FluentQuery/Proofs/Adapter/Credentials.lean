import FluentQuery.Proofs.Terminal.Beside

/-!
# Adapters with other credentials

Of its options an adapter hands the password, or the text that names a server with all that is
needed to get in, on to the driver when it connects. Nothing else is done with either: adapters with
the same options but for these are not told apart by any operation, if their drivers do the same
whatever credentials they are given.

* **`Options.Conceals`** — the same options but for a password or a connection text;
* **`DriverCall.Conceals`** — the same call, but for the credentials in one that connects;
* **`Adapter.Alias`** — adapters that are the same but for credentials;
* **`Adapter.adapterCall_agree`** — every operation of such adapters comes out alike.
-/

namespace FluentQuery

open FluentQuery.Action

/-! ## Options -/

/-- The same options but for the password, or but for the connection text where there is one. -/
inductive Options.Conceals : Value → Value → Prop
  | same (options : Value) : Conceals options options
  | password {entries entries' : Entries} :
      (∀ name, name ≠ "password" →
        Entries.get? (.text name) entries = Entries.get? (.text name) entries') →
      Conceals (.dict entries) (.dict entries')
  | dsn {entries entries' : Entries} :
      (∀ name, name ≠ "dsn" →
        Entries.get? (.text name) entries = Entries.get? (.text name) entries') →
      (Entries.get? (.text "dsn") entries).isSome →
      (Entries.get? (.text "dsn") entries').isSome → Conceals (.dict entries) (.dict entries')

namespace Options.Conceals

section Replaced

variable {name other : String}

theorem get?_of_replaced (h : name ≠ other) (front back : Entries) (v v' : Value) :
    Entries.get? (.text name) (front ++ (.text other, v) :: back) =
      Entries.get? (.text name) (front ++ (.text other, v') :: back) := by
  have hother : (other == name) = false := by simpa using Ne.symm h
  induction front with
  | nil =>
    simp only [List.nil_append, Entries.get?, Value.equals_text, hother, Bool.false_eq_true,
      if_false]
  | cons entry rest ih => simp only [List.cons_append, Entries.get?, ih]

theorem get?_isSome (name : String) (front back : Entries) (v : Value) :
    (Entries.get? (.text name) (front ++ (.text name, v) :: back)).isSome := by
  induction front with
  | nil =>
    simp only [List.nil_append, Entries.get?, Value.equals_text, beq_self_eq_true, if_true,
      Option.isSome_some]
  | cons entry rest ih =>
    rw [List.cons_append, Entries.get?]
    split
    · rfl
    · exact ih

/-- Options with another password in place of one. -/
theorem of_password (front back : Entries) (v v' : Value) :
    Conceals (.dict (front ++ (.text "password", v) :: back))
      (.dict (front ++ (.text "password", v') :: back)) :=
  .password fun _ hname => get?_of_replaced hname front back v v'

/-- Options with another connection text in place of one. -/
theorem of_dsn (front back : Entries) (v v' : Value) :
    Conceals (.dict (front ++ (.text "dsn", v) :: back))
      (.dict (front ++ (.text "dsn", v') :: back)) :=
  .dsn (fun _ hname => get?_of_replaced hname front back v v') (get?_isSome "dsn" front back v)
    (get?_isSome "dsn" front back v')

end Replaced

variable {o o' : Value} (h : Conceals o o')

include h

/-- Whether there is an option can be seen of all but the password. -/
theorem has_eq (name : String) (hname : name ≠ "password") :
    Options.has o name = Options.has o' name := by
  cases h with
  | same => rfl
  | password hsame => exact congrArg (fun v => Except.ok v.isSome) (hsame name hname)
  | dsn hsame hleft hright =>
    by_cases hdsn : name = "dsn"
    · subst hdsn
      exact congrArg Except.ok (hleft.trans hright.symm)
    · exact congrArg (fun v => Except.ok v.isSome) (hsame name hdsn)

/-- To put an empty dictionary in place of options that count as false is nothing to a
dictionary. -/
theorem filled :
    Conceals (if o.isTruthy then o else .dict []) (if o'.isTruthy then o' else .dict []) := by
  have hdict : ∀ entries : Entries,
      (if (Value.dict entries).isTruthy then Value.dict entries else .dict []) = .dict entries := by
    intro entries
    cases entries with
    | nil => rfl
    | cons entry rest => rfl
  cases h with
  | same => exact .same _
  | password hsame =>
    rw [hdict, hdict]
    exact .password hsame
  | dsn hsame hleft hright =>
    rw [hdict, hdict]
    exact .dsn hsame hleft hright

variable (name : String) (hpassword : name ≠ "password") (hdsn : name ≠ "dsn")

include hpassword hdsn

/-- All options but the two are the same. -/
theorem required_eq :
    Options.required o name = Options.required o' name := by
  cases h with
  | same => rfl
  | password hsame => simp only [Options.required, hsame name hpassword]
  | dsn hsame => simp only [Options.required, hsame name hdsn]

theorem optional_eq (default : Value) :
    Options.optional o name default = Options.optional o' name default := by
  cases h with
  | same => rfl
  | password hsame => simp only [Options.optional, hsame name hpassword]
  | dsn hsame => simp only [Options.optional, hsame name hdsn]

end Options.Conceals

/-! ## Calls and drivers -/

/-- The same call, or calls that connect with other credentials. -/
inductive DriverCall.Conceals : DriverCall → DriverCall → Prop
  | same (c : DriverCall) : Conceals c c
  | dsn (v v' : Value) : Conceals (.connect [v] []) (.connect [v'] [])
  | password (front back : List (String × Value)) (v v' : Value) :
      Conceals (.connect [] (front ++ ("password", v) :: back))
        (.connect [] (front ++ ("password", v') :: back))

/-- Drivers that do the same, whatever credentials they are given. -/
structure Driver.Alike (d d' : Driver) : Prop where
  fault : ∀ calls calls', List.Forall₂ DriverCall.Conceals calls calls' →
    d.fault calls = d'.fault calls'
  answer : ∀ calls calls', List.Forall₂ DriverCall.Conceals calls calls' →
    d.answer calls = d'.answer calls'
  inTransaction : ∀ calls calls', List.Forall₂ DriverCall.Conceals calls calls' →
    d.inTransaction calls = d'.inTransaction calls'

theorem DriverCall.Conceals.bare_eq {c c' : DriverCall} (h : Conceals c c') : c.bare = c'.bare := by
  cases h <;> rfl

/-- A driver that follows a script does not look at credentials. -/
theorem Script.alike (s : Script) : Driver.Alike s.driver s.driver where
  fault _ _ h := s.fault_eq (DriverCall.map_bare_eq (fun _ _ hc => hc.bare_eq) h)
  answer _ _ h := s.answer_eq (DriverCall.map_bare_eq (fun _ _ hc => hc.bare_eq) h)
  inTransaction _ _ _ := rfl

theorem DriverCall.Conceals.refl_list (calls : List DriverCall) :
    List.Forall₂ DriverCall.Conceals calls calls := List.forall₂_same.mpr fun c _ => .same c

namespace Adapter

/-- Adapters that are the same but for their credentials, on drivers that do the same. -/
structure Alias (a b : Adapter) : Prop where
  state : b = { a with options := b.options, driver := b.driver, calls := b.calls }
  options : Options.Conceals a.options b.options
  driver : Driver.Alike a.driver b.driver
  calls : List.Forall₂ DriverCall.Conceals a.calls b.calls

variable {a b : Adapter}

namespace Alias

theorem engine (h : Alias a b) : b.engine = a.engine := by rw [h.state]

theorem connected (h : Alias a b) : b.connected = a.connected := by rw [h.state]

theorem option_eq (h : Alias a b) (name : String) (hpassword : name ≠ "password")
    (hdsn : name ≠ "dsn") (default : Value) : a.option name default = b.option name default := by
  unfold option
  rw [h.options.optional_eq name hpassword hdsn]

theorem database_eq (h : Alias a b) : a.database = b.database := by
  unfold database
  rw [h.engine, h.option_eq "database" (by decide) (by decide)]

/-- Adapters that differ in credentials look the same. -/
theorem attributes_eq (h : Alias a b) : a.attributes = b.attributes := by
  unfold attributes
  rw [h.engine, h.database_eq, h.option_eq "read_only" (by decide) (by decide),
    h.option_eq "timeout" (by decide) (by decide),
    h.option_eq "isolation_level" (by decide) (by decide)]

/-- The place that stands in logs has no credentials in it. -/
theorem describe_eq (h : Alias a b) : a.describe = b.describe := by
  unfold describe
  rw [h.engine, h.database_eq, h.options.has_eq "dsn" (by decide),
    h.options.required_eq "host" (by decide) (by decide),
    h.options.required_eq "database" (by decide) (by decide),
    h.options.optional_eq "port" (by decide) (by decide),
    h.options.optional_eq "database" (by decide) (by decide)]

/-- What is passed to the driver to connect is the same, or the same but for the credentials. -/
def Reaches (t t' : List Value × List (String × Value)) : Prop :=
  DriverCall.Conceals (.connect t.1 t.2) (.connect t'.1 t'.2)

theorem reaches_refl (r : Except Failure (List Value × List (String × Value))) :
    Action.Alike Reaches r r := by
  cases r with
  | error e => exact .error e
  | ok t => exact .ok (.same _)

/-- To PostgreSQL the connection text is all that is passed on, or else the password stands among
the keywords. -/
theorem target_alike_postgres (h : Alias a b) (hengine : a.engine = .postgres) :
    Action.Alike Reaches a.target b.target := by
  have hinstalled : b.installed = a.installed := by rw [h.state]
  have hoptions := h.options
  unfold target
  rw [h.engine, hinstalled, hengine]
  generalize a.options = o at hoptions ⊢
  generalize b.options = o' at hoptions ⊢
  cases a.installed with
  | false => exact .error _
  | true =>
    cases hoptions with
    | same => exact reaches_refl _
    | @dsn entries entries' hothers hleft hright =>
      obtain ⟨v, hv⟩ := Option.isSome_iff_exists.mp hleft
      obtain ⟨v', hv'⟩ := Option.isSome_iff_exists.mp hright
      simp only [Options.has, Options.required, hv, hv']
      exact .ok (.dsn v v')
    | @password entries entries' hothers =>
      simp only [Options.has, Options.required, Options.optional, hothers "dsn" (by decide),
        hothers "host" (by decide), hothers "port" (by decide), hothers "database" (by decide),
        hothers "user" (by decide), hothers "sslmode" (by decide),
        hothers "connect_timeout" (by decide)]
      cases Entries.get? (.text "dsn") entries' with
      | some v => exact reaches_refl _
      | none =>
        cases Entries.get? (.text "host") entries' with
        | none => exact .error _
        | some host =>
          cases Entries.get? (.text "database") entries' with
          | none => exact .error _
          | some database =>
            cases Entries.get? (.text "user") entries' with
            | none => exact .error _
            | some user => exact .ok (.password [_, _, _, _] [_, _] _ _)

theorem target_alike (h : Alias a b) : Action.Alike Reaches a.target b.target := by
  by_cases hengine : a.engine = .postgres
  · exact h.target_alike_postgres hengine
  · -- No other engine has an option that holds credentials.
    have hfiles : b.files = a.files := by rw [h.state]
    have hinstalled : b.installed = a.installed := by rw [h.state]
    unfold target
    rw [h.engine, hinstalled, hfiles, ← h.database_eq,
      ← h.option_eq "read_only" (by decide) (by decide),
      ← h.option_eq "timeout" (by decide) (by decide),
      ← h.option_eq "isolation_level" (by decide) (by decide)]
    cases hkind : a.engine with
    | postgres => exact absurd hkind hengine
    | _ => exact reaches_refl _

/-- Adapters that differ in credentials cannot be told apart. -/
theorem bisimulation : Bisimulation DriverCall.Conceals Alias where
  same c _ := .same c
  engine _ _ h := h.engine
  connection _ _ h := by rw [h.state]
  connected _ _ h := h.connected
  fault _ _ _ _ h hc := h.driver.fault _ _ (List.rel_append h.calls (.cons hc .nil))
  answer _ _ h := h.driver.answer _ _ h.calls
  inTransaction _ _ h := h.driver.inTransaction _ _ h.calls
  after x y c c' h hc := by
    refine ⟨?_, h.options, h.driver, List.rel_append h.calls (.cons hc .nil)⟩
    unfold Adapter.after
    rw [h.state]

/-- What changes nothing but whether there is a connection keeps adapters alike. -/
theorem update {f : Adapter → Adapter} (h : Alias a b)
    (hf : ∀ x : Adapter, (f x).options = x.options ∧ (f x).driver = x.driver ∧
      (f x).calls = x.calls)
    (hstate : ∀ (x : Adapter) options driver calls,
      f { x with options, driver, calls } = { f x with options, driver, calls }) :
    Alias (f a) (f b) := by
  obtain ⟨hoptions, hdriver, hcalls⟩ := hf a
  obtain ⟨hoptions', hdriver', hcalls'⟩ := hf b
  refine ⟨?_, ?_, ?_, ?_⟩
  · rw [hoptions', hdriver', hcalls', ← hstate, ← h.state]
  · rw [hoptions, hoptions']
    exact h.options
  · rw [hdriver, hdriver']
    exact h.driver
  · rw [hcalls, hcalls']
    exact h.calls

end Alias

/-! ## Operations -/

theorem openConnection_agree : Agree Alias Eq openConnection openConnection := by
  refine .bind .current fun x y hxy => ?_
  refine .bind (.ofExcept hxy.target_alike) ?_
  rintro ⟨positional, keywords⟩ ⟨positional', keywords'⟩ htarget
  refine .bind (Alias.bisimulation.call_agree htarget) fun _ _ _ => .update fun x y hxy => ?_
  have hopened : y.opened = x.opened := by rw [hxy.state]
  rw [hopened]
  exact hxy.update
    (f := fun a => { a with connection := some x.opened, opened := x.opened + 1 })
    (fun _ => ⟨rfl, rfl, rfl⟩) fun _ _ _ _ => rfl

theorem connect_agree : Agree Alias Eq connect connect := by
  refine .bind .current fun x y hxy => ?_
  rw [hxy.connected, hxy.engine]
  have hend : Agree Alias Eq
      (do
        Action.update fun a => { a with connected := true }
        let place ← Action.ofExcept x.describe
        Action.log .adapter .info (x.engine.name ++ " connected: " ++ place.plain))
      (do
        Action.update fun a => { a with connected := true }
        let place ← Action.ofExcept y.describe
        Action.log .adapter .info (x.engine.name ++ " connected: " ++ place.plain)) := by
    refine .bind (.update fun x y hxy => ?_) fun _ _ _ => ?_
    · exact hxy.update (f := fun a => { a with connected := true }) (fun _ => ⟨rfl, rfl, rfl⟩)
        fun _ _ _ _ => rfl
    · rw [hxy.describe_eq]
      refine .bind (.ofExcept (.refl _)) ?_
      rintro place _ rfl
      exact .log _ _ _
  cases x.connected with
  | true => exact .pure rfl
  | false =>
    refine .bind (Agree.attempt openConnection_agree) fun r r' hr => ?_
    rw [hr.eq]
    cases r' with
    | ok u => exact hend
    | error e =>
      simp only
      split <;> exact .throw _

theorem disconnect_agree : Agree Alias Eq disconnect disconnect := by
  refine .bind .current fun x y hxy => ?_
  rw [hxy.engine, show y.connection = x.connection by rw [hxy.state]]
  refine .bind (.update fun x y hxy => ?_) fun _ _ _ => ?_
  · exact hxy.update (f := fun a => { a with connection := none, connected := false })
      (fun _ => ⟨rfl, rfl, rfl⟩) fun _ _ _ _ => rfl
  · cases x.connection with
    | none => exact .pure rfl
    | some n =>
      refine .bind (Agree.attempt (Alias.bisimulation.call_agree (.same (.close n))))
        fun r r' hr => ?_
      rw [hr.eq]
      cases r' with
      | ok u => exact .pure rfl
      | error e =>
        simp only
        split
        · exact .log _ _ _
        · exact .throw _

theorem alike_boundValues_self (params : Value) :
    Action.Alike (Interchange DriverCall.Conceals) (boundValues params) (boundValues params) := by
  cases boundValues params with
  | error e => exact .error e
  | ok values => exact .ok ⟨rfl, fun _ _ => .same _⟩

/-- **No operation tells credentials apart.** -/
theorem adapterCall_agree (c : AdapterCall) :
    Agree Alias Eq (Session.adapterCall c) (Session.adapterCall c) := by
  have hsame := Alias.bisimulation
  cases c with
  | connect => exact .bind connect_agree fun _ _ _ => .pure rfl
  | disconnect => exact .bind disconnect_agree fun _ _ _ => .pure rfl
  | describe =>
    refine .bind .current fun x y hxy => ?_
    rw [hxy.describe_eq]
    refine .bind (.ofExcept (.refl _)) ?_
    rintro place _ rfl
    exact .pure rfl
  | isConnected =>
    refine .bind .current fun x y hxy => ?_
    rw [hxy.connected]
    exact .pure rfl
  | healthCheck =>
    refine .bind hsame.healthCheck_agree ?_
    rintro healthy _ rfl
    exact .pure rfl
  | execute sql params =>
    refine .bind .current fun x y hxy => ?_
    rw [hxy.engine]
    refine .bind (hsame.execute_agree (alike_boundValues_self params) sql) ?_
    rintro execution _ rfl
    exact .pure rfl
  | executeQuery sql params =>
    refine .bind (hsame.executeQuery_agree (alike_boundValues_self params) sql) ?_
    rintro rows _ rfl
    exact .pure rfl
  | executeCount sql params =>
    refine .bind (hsame.executeCount_agree (alike_boundValues_self params) sql) ?_
    rintro n _ rfl
    exact .pure rfl
  | executeUpdate sql params =>
    refine .bind (hsame.executeUpdate_agree (alike_boundValues_self params) sql) ?_
    rintro affected _ rfl
    exact .pure rfl
  | prepare sql params =>
    refine .bind (.ofExcept (.refl _)) ?_
    rintro values _ rfl
    refine .bind .current fun x y hxy => ?_
    rw [hxy.engine]
    exact .pure rfl
  | executeScript script => exact .bind (hsame.executeScript_agree script) fun _ _ _ => .pure rfl
  | enter => exact .bind connect_agree fun _ _ _ => .pure rfl
  | leave => exact .bind disconnect_agree fun _ _ _ => .pure rfl

/-! ## New adapters -/

section Making

variable {options options' : Value} (h : Options.Conceals options options')

include h

/-- Without a look at credentials options are checked alike. -/
theorem checkSqlite_eq (engine : Engine) (files : Path.Files) :
    checkSqlite engine options files = checkSqlite engine options' files := by
  unfold checkSqlite
  rw [h.has_eq "database" (by decide),
    h.required_eq "database" (by decide) (by decide),
    h.optional_eq "create" (by decide) (by decide)]

theorem checkPostgres_eq (engine : Engine) :
    checkPostgres engine options = checkPostgres engine options' := by
  have hmissing : ["host", "database", "user"].filterM (fun name => do
        return !(← Options.has options name)) =
      ["host", "database", "user"].filterM (fun name => do
        return !(← Options.has options' name)) := by
    simp only [List.filterM, List.filterAuxM, h.has_eq "host" (by decide),
      h.has_eq "database" (by decide), h.has_eq "user" (by decide)]
  unfold checkPostgres
  rw [h.has_eq "dsn" (by decide), hmissing]

/-- Options that differ in credentials are accepted alike, and make adapters that are the same but
for them. -/
theorem make_alike {driver driver' : Driver} (hdriver : Driver.Alike driver driver')
    (engine : Engine) (files : Path.Files) :
    Action.Alike Alias (make engine options driver files) (make engine options' driver' files) := by
  have hnew : ∀ o o', Options.Conceals o o' → Alias { engine, options := o, files, driver }
      { engine, options := o', files, driver := driver' } :=
    fun o o' ho => ⟨rfl, ho, hdriver, .nil⟩
  have hchecked : ∀ r : Except Failure Unit, Action.Alike Alias
      (r >>= fun _ => .ok { engine, options, files, driver })
      (r >>= fun _ => .ok { engine, options := options', files, driver := driver' }) := by
    intro r
    cases r with
    | error e => exact .error e
    | ok u => exact .ok (hnew _ _ h)
  cases engine with
  | sqlite =>
    unfold make
    rw [checkSqlite_eq h]
    exact hchecked _
  | other =>
    unfold make
    rw [checkSqlite_eq h]
    exact hchecked _
  | postgres =>
    unfold make
    rw [checkPostgres_eq h]
    exact hchecked _
  | fake => exact .ok (hnew _ _ h)
  | duckdb =>
    have hfilled := h.filled
    unfold make
    simp only
    rw [hfilled.optional_eq "database" (by decide) (by decide)]
    cases Options.optional (if options'.isTruthy then options' else .dict []) "database" .null with
    | error e => exact .error e
    | ok database => exact .ok (hnew _ _ hfilled)

end Making

end Adapter

end FluentQuery
