import FluentQuery.Proofs.Action.Run
import FluentQuery.Proofs.Value.Written
import FluentQuery.Session.Operation

/-!
# What compiling gives

Compiling is an action: it reads the settings, inspects custom SQL and writes a journal. What it
gives is a function of the clauses, of what the inspector says of custom SQL, and of whether the
settings can be read at all:

* **`Clauses.statementBy`** — the statement of a kind for an inspector, without settings and
  journal;
* **`Compile.statement`** — the action that compiles a statement of a kind;
* **`Compile.statement_outcome`** — the action gives what the function gives, or the failure of the
  settings.

Texts with a separator are taken apart by `led`, which puts the separator in front of each text.
-/

namespace FluentQuery

/-! ## Texts with separators -/

/-- Texts, each behind a separator. -/
def led (separator : String) : List String → String
  | [] => ""
  | s :: rest => separator ++ s ++ led separator rest

theorem joinWith_cons (separator s : String) (rest : List String) :
    joinWith separator (s :: rest) = s ++ led separator rest := by
  induction rest generalizing s with
  | nil => simp [joinWith, led]
  | cons t rest ih => simp [joinWith, led, ih t, String.append_assoc]

theorem led_append (separator : String) (front back : List String) :
    led separator (front ++ back) = led separator front ++ led separator back := by
  induction front with
  | nil => simp [led]
  | cons s front ih => simp [led, ih, String.append_assoc]

/-- The digits of a number are read as the number. -/
theorem ofDigitChars_intText (n : Nat) : Nat.ofDigitChars 10 (intText n).toList 0 = n := by
  unfold intText
  rw [if_neg (by omega), String.toList_ofList]
  exact Nat.ofDigitChars_toDigits (by decide) (by decide)

/-- A result with a given text is a statement. -/
theorem Statement.exists_of_sql {r : Except Failure Statement} {sql : String}
    (h : r.toOption.map Statement.sql = some sql) : ∃ st, r = .ok st ∧ st.sql = sql := by
  cases r with
  | error e => cases h
  | ok st => exact ⟨st, rfl, Option.some.inj h⟩

/-! ## Runs of actions -/

namespace Action

theorem runFrom_settings (j : Journaled Configuration) :
    settings.runFrom j =
      (j.state.settings.1.mapError .invalid, { j with state := j.state.settings.2 }) := by
  unfold runFrom settings
  simp only [ExceptT.run_mk, StateT.run_bind, StateT.run_get, StateT.run_set, StateT.run_pure,
    pure_bind]
  cases j.state.settings.1 <;> rfl

end Action

/-- Settings that were read once are read again with the same result. -/
theorem Configuration.settings_settings (c : Configuration) :
    c.settings.2.settings.1 = c.settings.1 := by
  unfold Configuration.settings
  cases hkept : c.kept with
  | some s => simp [hkept]
  | none => cases hload : Settings.load c.environment <;> simp [hkept, hload]

/-! ## Statements for an inspector -/

/-- What says of custom SQL what is known of it. -/
abbrev Inspector := String → Sql.Inspection

namespace Clauses

/-- The statement that reads rows. -/
def selectBy (inspector : Inspector) (s : Clauses) (table : Value) (o : Overrides) :
    Except Failure Statement :=
  if s.isCustom then do
    let sql ← customText s.customSql
    s.selectOver (.ofCustomSql (inspector sql) s sql) o
  else s.selectFrom table o

theorem isCustom_of_text {s : Clauses} {sql : String} (hsql : s.customSql = .text sql)
    (hne : sql ≠ "") : s.isCustom = true := by
  rw [isCustom, hsql]
  simpa [Value.isTruthy] using hne

/-- Over custom SQL the statement is the one over the head that the inspector gives. -/
theorem selectBy_text {s : Clauses} {sql : String} (hsql : s.customSql = .text sql)
    (hne : sql ≠ "") (inspector : Inspector) (table : Value) (o : Overrides) :
    s.selectBy inspector table o = s.selectOver (.ofCustomSql (inspector sql) s sql) o := by
  unfold selectBy
  rw [if_pos (isCustom_of_text hsql hne), hsql]
  rfl

/-- The statement that counts rows. -/
def countBy (inspector : Inspector) (s : Clauses) (table : Value) : Except Failure Statement :=
  if s.isCustom then
    (s.withoutPaging.selectBy inspector .null { withOrder := false }).map countOf
  else s.countFrom table

/-- The statement of a kind. -/
def statementBy (inspector : Inspector) (s : Clauses) (table : Value) :
    StatementKind → Except Failure Statement
  | .select o => s.selectBy inspector table o
  | .count => s.countBy inspector table
  | .delete => s.deleteFrom table

end Clauses

/-- The text of a table is that of the value. -/
theorem tableText_eq_ok {table : Value} {t : String} (h : tableText table = .ok t) :
    t = table.plain := by
  unfold tableText at h
  split at h
  · cases h
  · split at h
    · split at h
      · cases h
      · cases h
        rfl
    · split at h
      · cases h
      · cases h
        rfl
    · cases h

/-! ## The parts of a statement over a head -/

/-- The bound that a statement has: the query's own where none is given, and else the integer of
the one that is given. It can be written. -/
def TakesBound (given : Value) (own : Option Nat) (bound : Option Int) : Prop :=
  (given = .null ∧ bound = own.map Int.ofNat ∨ ∃ n, given.toInteger = .ok n ∧ bound = some n) ∧
    ∀ n ∈ bound, fitsNumeral n = true

/-- A bound behind its word, if there is one. -/
def boundTexts (word : String) (bound : Option Int) : List String :=
  bound.toList.map fun n => word ++ " " ++ intText n

/-- Where no bound is given, a statement has the query's own. -/
theorem TakesBound.own_of_null {own : Option Nat} {bound : Option Int}
    (h : TakesBound .null own bound) : bound = own.map Int.ofNat := by
  obtain ⟨⟨-, hown⟩ | ⟨n, hn, -⟩, -⟩ := h
  · exact hown
  · cases hn

/-- Where an integer is given, a statement has that one. -/
theorem TakesBound.of_int {n : Int} {own : Option Nat} {bound : Option Int}
    (h : TakesBound (.int n) own bound) : bound = some n := by
  obtain ⟨⟨hnull, -⟩ | ⟨m, hm, hbound⟩, -⟩ := h
  · cases hnull
  · cases hm
    exact hbound

namespace Clauses

theorem boundPart_of_fits {n : Int} (h : fitsNumeral n = true) (word : String) :
    boundPart word n = .ok (boundTexts word (some n)) := by
  rw [boundPart, numeral_of_fits h]
  rfl

theorem boundPart_written (word : String) (n : Int) :
    WrittenIf (fitsNumeral n = true) (boundPart word n) :=
  (numeral_written n).map fun text => [word ++ " " ++ text]

theorem boundPart_eq_ok {word : String} {n : Int} {parts : List String}
    (h : boundPart word n = .ok parts) :
    fitsNumeral n = true ∧ parts = boundTexts word (some n) := by
  have hfits := (boundPart_written word n).of_ok h
  rw [boundPart_of_fits hfits] at h
  exact ⟨hfits, (Except.ok.inj h).symm⟩

theorem boundParts_eq_ok {word : String} {given : Value} {own : Option Nat}
    {parts : List String} (h : boundParts word given own = .ok parts) :
    ∃ bound, TakesBound given own bound ∧ parts = boundTexts word bound := by
  unfold boundParts at h
  split at h
  · cases own with
    | none =>
      cases h
      exact ⟨none, ⟨.inl ⟨rfl, rfl⟩, nofun⟩, rfl⟩
    | some n =>
      obtain ⟨hfits, rfl⟩ := boundPart_eq_ok h
      exact ⟨some n, ⟨.inl ⟨rfl, rfl⟩, fun m hm => Option.some.inj hm ▸ hfits⟩, rfl⟩
  · cases hn : given.toInteger with
    | error e => rw [hn] at h; cases h
    | ok n =>
      rw [hn] at h
      obtain ⟨hfits, rfl⟩ := boundPart_eq_ok h
      exact ⟨some n, ⟨.inr ⟨n, hn, rfl⟩, fun m hm => Option.some.inj hm ▸ hfits⟩, rfl⟩

/-- A bound that is to be had is rendered. -/
theorem boundParts_of_takes {word : String} {given : Value} {own : Option Nat} {bound : Option Int}
    (h : TakesBound given own bound) : boundParts word given own = .ok (boundTexts word bound) := by
  obtain ⟨⟨rfl, rfl⟩ | ⟨n, hn, rfl⟩, hfits⟩ := h
  · cases own with
    | none => rfl
    | some n => exact boundPart_of_fits (hfits n rfl) word
  · unfold boundParts
    split
    · cases hn
    · rw [hn]
      exact boundPart_of_fits (hfits n rfl) word

/-- A bound of the query's own is rendered exactly if it can be written. -/
theorem boundParts_own_written (word : String) (own : Option Nat) :
    WrittenIf (own.all (fun n : Nat => fitsNumeral n) = true) (boundParts word .null own) := by
  cases own with
  | none => exact (WrittenIf.ok []).congr (iff_of_true trivial rfl)
  | some n => exact boundPart_written word n

/-- The joins and the filter behind a head. -/
def body (s : Clauses) (head : Head) : String :=
  head.sql ++ led " " s.joinParts ++ led " " (s.filterParts head.extendsWhere)

/-- The sort keys and the bounds behind a statement. -/
def tail (s : Clauses) (o : Overrides) (limit offset : Option Int) : String :=
  led " " (if o.withOrder then s.orderParts else []) ++ led " " (boundTexts "LIMIT" limit) ++
    led " " (boundTexts "OFFSET" offset)

/-- A statement over a head has the body and the tail for its text and binds the values of the
conditions, with the bounds that it takes. -/
theorem selectOver_of_takes {s : Clauses} {o : Overrides} {limit offset : Option Int}
    (hlimit : TakesBound o.limit s.limit limit) (hoffset : TakesBound o.offset s.offset offset)
    (head : Head) : s.selectOver head o = .ok ⟨s.body head ++ s.tail o limit offset, s.params⟩ := by
  unfold selectOver tailParts
  rw [boundParts_of_takes hlimit, boundParts_of_takes hoffset]
  show Except.ok (Statement.mk _ s.params) = .ok (Statement.mk _ s.params)
  simp [joinWith_cons, led_append, body, tail, String.append_assoc]

/-- A statement over a head comes about where its bounds do. -/
theorem selectOver_written {s : Clauses} {o : Overrides} {p p' : Prop}
    (hlimit : WrittenIf p (boundParts "LIMIT" o.limit s.limit))
    (hoffset : WrittenIf p' (boundParts "OFFSET" o.offset s.offset)) (head : Head) :
    WrittenIf (p ∧ p') (s.selectOver head o) := by
  have htail : WrittenIf (p ∧ p') (s.tailParts head.extendsWhere o) :=
    hlimit.bind fun _ => hoffset.map _
  exact htail.map _

/-- With integers for bounds it comes about exactly if they can be written. -/
theorem selectOver_int_written (s : Clauses) (head : Head) (limit offset : Int) :
    WrittenIf (fitsNumeral limit = true ∧ fitsNumeral offset = true)
      (s.selectOver head { limit := .int limit, offset := .int offset }) :=
  selectOver_written (boundPart_written _ limit) (boundPart_written _ offset) head

/-- Where no bounds are given, it comes about exactly if the query's own can be written. -/
theorem selectOver_own_written (s : Clauses) {o : Overrides} (hlimit : o.limit = .null)
    (hoffset : o.offset = .null) (head : Head) :
    WrittenIf (s.boundsFit = true) (s.selectOver head o) :=
  (selectOver_written (hlimit ▸ boundParts_own_written _ _) (hoffset ▸ boundParts_own_written _ _)
    head).congr Bool.and_eq_true_iff.symm

/-- Where a statement comes about over a head, its text is the body and the tail, and it binds the
values of the conditions. -/
theorem selectOver_eq_ok {s : Clauses} {head : Head} {o : Overrides} {st : Statement}
    (h : s.selectOver head o = .ok st) :
    ∃ limit offset, TakesBound o.limit s.limit limit ∧ TakesBound o.offset s.offset offset ∧
      st = ⟨s.body head ++ s.tail o limit offset, s.params⟩ := by
  unfold selectOver tailParts at h
  cases hlimit : boundParts "LIMIT" o.limit s.limit with
  | error e => rw [hlimit] at h; cases h
  | ok limitParts =>
    cases hoffset : boundParts "OFFSET" o.offset s.offset with
    | error e => rw [hlimit, hoffset] at h; cases h
    | ok offsetParts =>
      rw [hlimit, hoffset] at h
      cases h
      obtain ⟨limit, hl, rfl⟩ := boundParts_eq_ok hlimit
      obtain ⟨offset, ho, rfl⟩ := boundParts_eq_ok hoffset
      refine ⟨limit, offset, hl, ho, ?_⟩
      simp [joinWith_cons, led_append, body, tail, String.append_assoc]

end Clauses

namespace Compile

/-- Compiles a statement of a kind. -/
def statement (dialect : Value) (s : Clauses) (table : Value) :
    StatementKind → Action Configuration Statement
  | .select o => select dialect s table o
  | .count => count dialect s table
  | .delete => delete s table

/-- What reads custom SQL by the rules of a dialect. -/
def inspector (dialect : Value) : Inspector := Sql.inspect (.ofValue dialect)

/-- A statement, where the settings of a configuration can be read. -/
def underSettings (c : Configuration) (r : Except Failure Statement) : Except Failure Statement :=
  r.bind fun st => (c.settings.1.mapError .invalid).map fun _ => st

theorem finish_runFrom (st : Statement) (j : Journaled Configuration) :
    ((finish st).runFrom j).1 = underSettings j.state (.ok st) ∧
      ((finish st).runFrom j).2.state = j.state.settings.2 := by
  unfold finish underSettings
  rw [Action.runFrom_bind, Action.runFrom_settings]
  cases hfound : j.state.settings.1 with
  | error e => exact ⟨rfl, rfl⟩
  | ok settings =>
    have hok : (Except.ok settings : Except Invalid Settings).mapError .invalid =
        (.ok settings : Except Failure Settings) := rfl
    simp only [hok]
    by_cases hlog : settings.logSql = true <;> simp only [hlog] <;> exact ⟨rfl, rfl⟩

/-- Passing on what may have failed: the state that is left has the same settings. -/
theorem finish_of_runFrom (r : Except Failure Statement) (j : Journaled Configuration) :
    ((Action.ofExcept r >>= finish).runFrom j).1 = underSettings j.state r ∧
      ((Action.ofExcept r >>= finish).runFrom j).2.state.settings.1 = j.state.settings.1 := by
  rw [Action.runFrom_bind, Action.runFrom_ofExcept]
  cases r with
  | error e => exact ⟨rfl, rfl⟩
  | ok st =>
    obtain ⟨hgiven, hstate⟩ := finish_runFrom st j
    exact ⟨hgiven, by rw [hstate, Configuration.settings_settings]⟩

/-- Inspecting custom SQL leaves the settings alone: only the journal may grow. -/
theorem customHead_runFrom (d : Value) (s : Clauses) (j : Journaled Configuration) :
    ∃ records, (customHead d s).runFrom j =
      ((customText s.customSql).map fun sql => Head.ofCustomSql (inspector d sql) s sql,
        { j with journal := j.journal ++ records }) := by
  unfold customHead
  rw [Action.runFrom_bind, Action.runFrom_ofExcept]
  cases customText s.customSql with
  | error e => exact ⟨[], by simp [Except.map]⟩
  | ok sql =>
    show ∃ records, (do
      if inspector d sql = .unparsed then
        Action.log .compiler .debug "Could not parse custom SQL, falling back to keyword match"
      return Head.ofCustomSql (inspector d sql) s sql : Action Configuration Head).runFrom j =
        (.ok (Head.ofCustomSql (inspector d sql) s sql),
          { j with journal := j.journal ++ records })
    by_cases hfound : inspector d sql = .unparsed
    · rw [hfound]
      exact ⟨_, rfl⟩
    · rw [if_neg hfound]
      exact ⟨[], by rw [List.append_nil]; rfl⟩

theorem select_runFrom (d : Value) (s : Clauses) (table : Value) (o : Overrides)
    (j : Journaled Configuration) :
    ((select d s table o).runFrom j).1 =
        underSettings j.state (s.selectBy (inspector d) table o) ∧
      ((select d s table o).runFrom j).2.state.settings.1 = j.state.settings.1 := by
  unfold select Clauses.selectBy
  by_cases hcustom : s.isCustom = true
  · obtain ⟨records, hhead⟩ := customHead_runFrom d s j
    rw [if_pos hcustom, if_pos hcustom, Action.runFrom_bind, hhead]
    cases customText s.customSql with
    | error e => exact ⟨rfl, rfl⟩
    | ok sql =>
      show ((Action.ofExcept (s.selectOver (.ofCustomSql (inspector d sql) s sql) o) >>=
          finish).runFrom { j with journal := j.journal ++ records }).1 =
            underSettings j.state (s.selectOver (.ofCustomSql (inspector d sql) s sql) o) ∧ _
      exact finish_of_runFrom _ { j with journal := j.journal ++ records }
  · rw [if_neg hcustom, if_neg hcustom]
    exact finish_of_runFrom _ j

theorem count_runFrom (d : Value) (s : Clauses) (table : Value) (j : Journaled Configuration) :
    ((count d s table).runFrom j).1 = underSettings j.state (s.countBy (inspector d) table) := by
  unfold count Clauses.countBy
  by_cases hcustom : s.isCustom = true
  · rw [if_pos hcustom, if_pos hcustom, Action.runFrom_bind]
    obtain ⟨hinner, hstate⟩ :=
      select_runFrom d s.withoutPaging .null { withOrder := false } j
    cases hrun : (select d s.withoutPaging .null { withOrder := false }).runFrom j with
    | mk r j' =>
      rw [hrun] at hinner hstate
      cases hst : s.withoutPaging.selectBy (inspector d) .null { withOrder := false } with
      | error e =>
        rw [hst] at hinner
        cases hinner
        rfl
      | ok st =>
        rw [hst] at hinner
        simp only [underSettings, Except.bind] at hinner hstate ⊢
        cases hfound : j.state.settings.1 with
        | error e =>
          rw [hfound] at hinner
          cases hinner
          rfl
        | ok settings =>
          rw [hfound] at hinner hstate
          cases hinner
          show ((finish (Clauses.countOf st)).runFrom j').1 = .ok (Clauses.countOf st)
          rw [(finish_runFrom (Clauses.countOf st) j').1]
          simp only [underSettings, Except.bind, hstate]
          rfl
  · rw [if_neg hcustom, if_neg hcustom]
    exact (finish_of_runFrom _ j).1

theorem finish_keeps (st : Statement) : Action.Keeps (fun c => c.settings.1) (finish st) := by
  intro j
  show (finish st |>.runFrom j).2.state.settings.1 = _
  rw [(finish_runFrom st j).2, Configuration.settings_settings]

theorem count_keeps (d : Value) (s : Clauses) (table : Value) :
    Action.Keeps (fun c => c.settings.1) (count d s table) := by
  unfold count
  split
  · exact .bind (fun j => (select_runFrom d _ _ _ j).2) fun inner => finish_keeps _
  · exact .bind (.ofExcept _) finish_keeps

/-- Compiling gives the statement for what the dialect's inspector says, where the settings can be
read. -/
theorem statement_outcome (d : Value) (s : Clauses) (table : Value) (kind : StatementKind)
    (j : Journaled Configuration) :
    ((statement d s table kind).runFrom j).1 =
      underSettings j.state (s.statementBy (inspector d) table kind) := by
  cases kind with
  | select o => exact (select_runFrom d s table o j).1
  | count => exact count_runFrom d s table j
  | delete =>
    exact (finish_of_runFrom (s.deleteFrom table) j).1

/-- Where settings can be read, compiling gives what there is to give. -/
theorem underSettings_of_ok {c : Configuration} {settings : Settings}
    (h : c.settings.1 = .ok settings) (r : Except Failure Statement) : underSettings c r = r := by
  unfold underSettings
  rw [h]
  cases r <;> rfl

theorem underSettings_eq_ok {c : Configuration} {r : Except Failure Statement} {st : Statement}
    (h : underSettings c r = .ok st) : r = .ok st ∧ ∃ settings, c.settings.1 = .ok settings := by
  unfold underSettings at h
  cases r with
  | error e => cases h
  | ok st' =>
    cases hfound : c.settings.1 with
    | error e => rw [hfound] at h; cases h
    | ok settings =>
      rw [hfound] at h
      cases h
      exact ⟨rfl, settings, rfl⟩

end Compile

end FluentQuery
