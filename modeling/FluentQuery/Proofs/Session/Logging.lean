import FluentQuery.Proofs.Session.Lineage
import FluentQuery.Proofs.Settings.Reading

/-!
# Calls that configure logging

A call looks at a value: its argument, or the setting if that is null. If the value is no level the
call fails and leaves both thresholds as they are. What it does to the handlers depends on whether
there is one: the first call that comes to look at a value installs the handler before it finds out
that the value is no level, and the general threshold, which is set along with the handler, then
stays what it was for good.

* **`Value.IsLevel`** — numbers and the names of levels;
* **`LogSetup.configure_eq`** — what looking at a value does;
* **`LogSetup.after_cons`** — what values looked at one after another leave: the first decides on
  the general threshold, the last level among them on the library's;
* **`Interspersed`** — a run of calls with others inserted;
* **`LogSetup.after_eq_iff`** — when inserted values that are no levels make no difference;
* **`Session.run_configureLogging`** — one call in a session;
* **`Session.failing_calls_leave_logging_iff`** — when failing calls change nothing.
-/

namespace FluentQuery

open FluentQuery.Action

/-! ## Levels -/

namespace Threshold

/-- The names of levels. -/
def names : List String :=
  ["CRITICAL", "FATAL", "ERROR", "WARN", "WARNING", "INFO", "DEBUG", "NOTSET"]

theorem exists_ofName?_iff (name : String) : (∃ n, ofName? name = some n) ↔ name ∈ names := by
  unfold ofName? names
  split <;> simp_all

end Threshold

/-- A value is a level: a number, as which a truth value counts too, or a name in letters of either
case. -/
inductive Value.IsLevel : Value → Prop
  | number (n : Int) : IsLevel (.int n)
  | truth (b : Bool) : IsLevel (.bool b)
  | named {s : String} : Text.upper s ∈ Threshold.names → IsLevel (.text s)

namespace Threshold

theorem exists_ofValue_iff (v : Value) : (∃ t, ofValue v = .ok t) ↔ v.IsLevel := by
  constructor
  · rintro ⟨t, h⟩
    unfold ofValue at h
    split at h
    · exact .number _
    · exact .truth _
    · split at h
      · next hname => exact .named ((exists_ofName?_iff _).mp ⟨_, hname⟩)
      · cases h
    · obtain ⟨_, -, h⟩ := ok_of_bind h
      cases h
  · intro h
    cases h with
    | number n => exact ⟨.number n, rfl⟩
    | truth b => exact ⟨.truth b, rfl⟩
    | named hname =>
      obtain ⟨n, hn⟩ := (exists_ofName?_iff _).mpr hname
      exact ⟨.number n, by simp only [ofValue, hn]⟩

theorem exists_ofValue_error {v : Value} (h : ¬v.IsLevel) : ∃ e, ofValue v = .error e := by
  cases hv : ofValue v with
  | ok t => exact absurd ((exists_ofValue_iff v).mp ⟨t, hv⟩) h
  | error e => exact ⟨e, rfl⟩

/-- The threshold that a value stands for, or else the given one. -/
def replacedBy (t : Threshold) (v : Value) : Threshold := (ofValue v).toOption.getD t

theorem replacedBy_ok {v : Value} {u : Threshold} (h : ofValue v = .ok u) (t : Threshold) :
    t.replacedBy v = u := by
  rw [replacedBy, h]
  rfl

theorem replacedBy_error {v : Value} {e : Failure} (h : ofValue v = .error e) (t : Threshold) :
    t.replacedBy v = t := by
  rw [replacedBy, h]
  rfl

theorem replacedBy_of_not_isLevel {v : Value} (h : ¬v.IsLevel) (t : Threshold) :
    t.replacedBy v = t := by
  obtain ⟨e, he⟩ := exists_ofValue_error h
  exact replacedBy_error he t

/-- The threshold that the last level among values stands for, if there is one. -/
def latest (t : Threshold) (levels : List Value) : Threshold := levels.foldl replacedBy t

theorem latest_cons (t : Threshold) (v : Value) (rest : List Value) :
    latest t (v :: rest) = latest (t.replacedBy v) rest := rfl

end Threshold

/-! ## Values looked at -/

/-- A list with elements of a kind inserted into it. -/
inductive Interspersed {α : Type} (P : α → Prop) : List α → List α → Prop
  | nil : Interspersed P [] []
  | keep {xs ys : List α} (a : α) : Interspersed P xs ys → Interspersed P (a :: xs) (a :: ys)
  | insert {xs ys : List α} {a : α} : P a → Interspersed P xs ys → Interspersed P xs (a :: ys)

namespace LogSetup

open Threshold (latest latest_cons)

variable {s : LogSetup} {v : Value}

/-- What values looked at one after another leave. -/
def after (s : LogSetup) (levels : List Value) : LogSetup :=
  levels.foldl (fun s l => (s.configure l).2) s

/-- **What looking at a value does.** It fails for what is no level. Where there is no handler it
installs one and sets both thresholds, else the library's alone, as far as the value is a level. -/
theorem configure_eq (s : LogSetup) (v : Value) :
    s.configure v =
      ((Threshold.ofValue v).map fun _ => (),
        if s.handlers = [] then
          { root := s.root.replacedBy v, library := s.library.replacedBy v, handlers := [.standard] }
        else { s with library := s.library.replacedBy v }) := by
  unfold configure
  simp only [List.isEmpty_iff]
  cases hv : Threshold.ofValue v with
  | ok t =>
    simp only [Threshold.replacedBy_ok hv]
    split <;> rfl
  | error e =>
    simp only [Threshold.replacedBy_error hv]
    split <;> rfl

theorem configure_of_handlers (h : s.handlers ≠ []) (v : Value) :
    (s.configure v).2 = { s with library := s.library.replacedBy v } := by
  rw [configure_eq, if_neg h]

/-- What is no level does nothing but install a handler. -/
theorem configure_of_not_isLevel (h : ¬v.IsLevel) (s : LogSetup) :
    (s.configure v).2 = if s.handlers = [] then { s with handlers := [.standard] } else s := by
  simp only [configure_eq, Threshold.replacedBy_of_not_isLevel h]

theorem configure_error_iff (s : LogSetup) (v : Value) :
    (∃ e, (s.configure v).1 = .error e) ↔ ¬v.IsLevel := by
  rw [configure_eq, ← Threshold.exists_ofValue_iff]
  cases Threshold.ofValue v <;> simp [Except.map]

/-- Once there is a handler, only the latest level counts. -/
theorem after_of_handlers (h : s.handlers ≠ []) (levels : List Value) :
    s.after levels = { s with library := latest s.library levels } := by
  induction levels generalizing s with
  | nil => rfl
  | cons v rest ih =>
    show (s.configure v).2.after rest = _
    rw [configure_of_handlers h, latest_cons]
    exact ih h

/-- The first value looked at installs the handler, whether it is a level or not. -/
theorem after_cons (hbare : s.handlers = []) (v : Value) (rest : List Value) :
    s.after (v :: rest) =
      { root := s.root.replacedBy v
        library := latest s.library (v :: rest)
        handlers := [.standard] } := by
  show (s.configure v).2.after rest = _
  rw [configure_eq, if_pos hbare, after_of_handlers (List.cons_ne_nil _ _)]
  rfl

theorem handlers_after_eq_nil_iff (hbare : s.handlers = []) (levels : List Value) :
    (s.after levels).handlers = [] ↔ levels = [] := by
  cases levels with
  | nil => exact ⟨fun _ => rfl, fun _ => hbare⟩
  | cons v rest => simp [after_cons hbare]

/-! ## Values inserted that are no levels -/

variable {levels more : List Value}

theorem latest_interspersed (h : Interspersed (fun v => ¬v.IsLevel) levels more) (t : Threshold) :
    latest t more = latest t levels := by
  induction h generalizing t with
  | nil => rfl
  | keep v _ ih => exact ih _
  | insert hv _ ih => rw [latest_cons, Threshold.replacedBy_of_not_isLevel hv, ih]

/-- With values inserted, one that is no level comes first, where before there was none at all or
one that sets the general threshold to another than it is at first. -/
def Spoils (root : Threshold) (levels more : List Value) : Prop :=
  ∃ v ∈ more.head?, ¬v.IsLevel ∧
    ∀ w ∈ levels.head?, w.IsLevel ∧ Threshold.ofValue w ≠ .ok root

/-- Values behind one that is no level leave the general threshold as it is at first. -/
theorem after_of_first (hbare : s.handlers = []) {v : Value} {rest : List Value} (hv : ¬v.IsLevel)
    (h : Interspersed (fun v => ¬v.IsLevel) levels (v :: rest)) :
    s.after (v :: rest) =
      { root := s.root, library := (s.after levels).library, handlers := [.standard] } := by
  have hlibrary : (s.after levels).library = latest s.library levels := by
    cases levels with
    | nil => rfl
    | cons w ws => rw [after_cons hbare]
  rw [after_cons hbare, hlibrary, latest_interspersed h, Threshold.replacedBy_of_not_isLevel hv]

theorem after_of_not_spoils (hbare : s.handlers = [])
    (h : Interspersed (fun v => ¬v.IsLevel) levels more) (hgood : ¬Spoils s.root levels more) :
    s.after more = s.after levels := by
  cases h with
  | nil => rfl
  | keep v h => rw [after_cons hbare, after_cons hbare, latest_interspersed (.keep v h)]
  | @insert _ rest v hv h =>
    rw [after_of_first hbare hv (.insert hv h)]
    cases levels with
    | nil => exact absurd ⟨v, rfl, hv, by simp⟩ hgood
    | cons w ws =>
      -- The inserted value took the place of `w`, which therefore must not set that threshold.
      have hroot : s.root.replacedBy w = s.root := by
        by_contra hne
        have hlevel : w.IsLevel := by
          by_contra hw
          exact hne (Threshold.replacedBy_of_not_isLevel hw _)
        refine hgood ⟨v, rfl, hv, ?_⟩
        rintro w' ⟨⟩
        exact ⟨hlevel, fun hw => hne (Threshold.replacedBy_ok hw _)⟩
      rw [after_cons hbare, hroot]

theorem after_of_spoils (hbare : s.handlers = [])
    (h : Interspersed (fun v => ¬v.IsLevel) levels more) (hbad : Spoils s.root levels more) :
    s.after more = { s.after levels with root := s.root, handlers := [.standard] } ∧
      s.after more ≠ s.after levels := by
  obtain ⟨v, hhead, hv, hlevels⟩ := hbad
  obtain ⟨rest, rfl⟩ := List.head?_eq_some_iff.mp hhead
  have hafter := after_of_first hbare hv h
  refine ⟨hafter, ?_⟩
  rw [hafter]
  cases levels with
  | nil => exact fun heq => nomatch (congrArg LogSetup.handlers heq).trans hbare
  | cons w ws =>
    obtain ⟨hw, hother⟩ := hlevels w rfl
    obtain ⟨t, ht⟩ := (Threshold.exists_ofValue_iff w).mpr hw
    intro heq
    have hroot := congrArg LogSetup.root heq
    rw [after_cons hbare, Threshold.replacedBy_ok ht] at hroot
    exact hother (hroot ▸ ht)

theorem after_eq_iff (hbare : s.handlers = [])
    (h : Interspersed (fun v => ¬v.IsLevel) levels more) :
    s.after more = s.after levels ↔ ¬Spoils s.root levels more :=
  ⟨fun heq hbad => (after_of_spoils hbare h hbad).2 heq, after_of_not_spoils hbare h⟩

end LogSetup

/-! ## Calls in a session -/

namespace Configuration

/-- The value that a call with an argument looks at: null stands for the setting, if that can be
read. -/
def level? (c : Configuration) : Value → Option Value
  | .null => c.settings.1.toOption.map fun x => .text x.logLevel
  | v => some v

/-- A call with an argument comes to look at a level. -/
def GivesLevel (c : Configuration) (v : Value) : Prop := ∃ l ∈ c.level? v, l.IsLevel

variable {c : Configuration}

theorem level?_of_ne_null {v : Value} (h : v ≠ .null) (c : Configuration) :
    c.level? v = some v := by
  cases v with
  | null => exact absurd rfl h
  | _ => rfl

/-- Reading the settings changes nothing about what calls look at. -/
theorem level?_settings (c : Configuration) : c.settings.2.level? = c.level? := by
  funext v
  by_cases h : v = .null
  · rw [h, level?, settings_again]
    rfl
  · rw [level?_of_ne_null h, level?_of_ne_null h]

/-- Inserted calls that come to no level have looked at nothing or at what is none. -/
theorem interspersed_levels {levels more : List Value}
    (h : Interspersed (fun v => ¬c.GivesLevel v) levels more) :
    Interspersed (fun v => ¬v.IsLevel) (levels.filterMap c.level?) (more.filterMap c.level?) := by
  induction h with
  | nil => exact .nil
  | keep v _ ih =>
    cases hv : c.level? v with
    | none => simpa only [List.filterMap_cons, hv] using ih
    | some l => simpa only [List.filterMap_cons, hv] using .keep l ih
  | @insert _ _ v hfails _ ih =>
    cases hv : c.level? v with
    | none => simpa only [List.filterMap_cons, hv] using ih
    | some l =>
      simp only [List.filterMap_cons, hv]
      exact .insert (fun hl => hfails ⟨l, hv, hl⟩) ih

end Configuration

namespace Session

variable {v : Value}

theorem runFrom_logLevel (v : Value) (j : Journaled Configuration) :
    ∃ r c, r.toOption = j.state.level? v ∧ c.level? = j.state.level? ∧
      (logLevel v).runFrom j = (r, { j with state := c }) := by
  by_cases hv : v = .null
  · subst hv
    refine ⟨_, j.state.settings.2, ?_, j.state.level?_settings,
      (runFrom_bind_pure settings _ j).trans (by rw [runFrom_settings])⟩
    rw [Configuration.level?]
    cases j.state.settings.1 <;> rfl
  · refine ⟨.ok v, j.state, (Configuration.level?_of_ne_null hv _).symm, rfl, ?_⟩
    cases v with
    | null => exact absurd rfl hv
    | _ => rfl

/-- What is left of a call once the value to look at and the logging are known. -/
theorem runFrom_relog (l : Value) (logging : LogSetup) (j : Journaled Session) :
    (relog l logging).runFrom j =
      ((logging.configure l).1.map fun _ => .done,
        { j with state := { j.state with logging := (logging.configure l).2 } }) := by
  rw [relog, runFrom_bind_ok (runFrom_update _ j)]
  cases (logging.configure l).1 <;> rfl

/-- **One call.** It looks at a value and does to the logging what that value does, or else fails
and does nothing. What later calls look at stays the same. -/
theorem run_configureLogging (s : Session) (v : Value) :
    (s.run (.configureLogging v)).2.configuration.level? = s.configuration.level? ∧
      (∀ l, s.configuration.level? v = some l →
        (s.run (.configureLogging v)).1.result = ((s.logging.configure l).1.map fun _ => .done) ∧
        (s.run (.configureLogging v)).2.logging = (s.logging.configure l).2) ∧
      (s.configuration.level? v = none →
        (∃ e, (s.run (.configureLogging v)).1.result = .error e) ∧
        (s.run (.configureLogging v)).2.logging = s.logging) := by
  obtain ⟨r, c, hr, hc, hread⟩ := runFrom_logLevel v ⟨s.configuration, []⟩
  have hlooked : (configured (logLevel v)).runFrom ⟨s, []⟩ =
      (r, ⟨{ s with configuration := c }, []⟩) := by
    rw [configured, runFrom_zoom, hread]
  cases r with
  | error e =>
    have hrun : (perform (.configureLogging v)).runFrom ⟨s, []⟩ = _ := runFrom_bind_error hlooked
    rw [run_eq, hrun]
    refine ⟨hc, fun l hl => ?_, fun _ => ⟨⟨e, rfl⟩, rfl⟩⟩
    rw [← hr] at hl
    cases hl
  | ok l =>
    have hrun : (perform (.configureLogging v)).runFrom ⟨s, []⟩ =
        (relog l s.logging).runFrom ⟨{ s with configuration := c }, []⟩ :=
      runFrom_bind_ok hlooked
    rw [run_eq, hrun, runFrom_relog]
    refine ⟨hc, fun l' hl => ?_, fun hnone => ?_⟩
    · rw [← hr] at hl
      cases hl
      exact ⟨rfl, rfl⟩
    · rw [← hr] at hnone
      cases hnone

/-- A call succeeds exactly if it comes to look at a level. -/
theorem configureLogging_error_iff (s : Session) (v : Value) :
    (∃ e, (s.run (.configureLogging v)).1.result = .error e) ↔ ¬s.configuration.GivesLevel v := by
  obtain ⟨-, hlooks, hnothing⟩ := run_configureLogging s v
  cases hv : s.configuration.level? v with
  | none => exact iff_of_true (hnothing hv).1 fun ⟨l, hl, _⟩ => nomatch hv.symm.trans hl
  | some l =>
    obtain ⟨hresult, -⟩ := hlooks l hv
    have hlevel : s.configuration.GivesLevel v ↔ l.IsLevel :=
      ⟨fun ⟨l', hl', h⟩ => Option.some.inj (hv.symm.trans hl') ▸ h, fun h => ⟨l, hv, h⟩⟩
    rw [hresult, hlevel, ← s.logging.configure_error_iff l]
    cases (s.logging.configure l).1 <;> simp [Except.map]

/-- A failing call leaves the thresholds, and the handlers too unless it looks at a value where
there are none. -/
theorem logging_of_failing (s : Session) (hfails : ¬s.configuration.GivesLevel v) :
    (s.run (.configureLogging v)).2.logging =
      if s.configuration.level? v = none ∨ s.logging.handlers ≠ [] then s.logging
      else { s.logging with handlers := [.standard] } := by
  obtain ⟨-, hlooks, hnothing⟩ := run_configureLogging s v
  cases hv : s.configuration.level? v with
  | none => rw [(hnothing hv).2, if_pos (.inl rfl)]
  | some l =>
    rw [(hlooks l hv).2, LogSetup.configure_of_not_isLevel fun hl => hfails ⟨l, hv, hl⟩]
    by_cases hbare : s.logging.handlers = [] <;> simp [hbare]

/-- A session after calls that configure logging, one after another. -/
def configuring (s : Session) (levels : List Value) : Session :=
  s.after (levels.map .configureLogging)

/-- **A run of calls** does to the logging what the values looked at do. -/
theorem logging_configuring (s : Session) (levels : List Value) :
    (s.configuring levels).logging =
      s.logging.after (levels.filterMap s.configuration.level?) := by
  induction levels generalizing s with
  | nil => rfl
  | cons v rest ih =>
    obtain ⟨hsame, hlooks, hnothing⟩ := run_configureLogging s v
    show ((s.run (.configureLogging v)).2.configuring rest).logging = _
    rw [ih, hsame, List.filterMap_cons]
    cases hv : s.configuration.level? v with
    | none => rw [(hnothing hv).2]
    | some l => rw [(hlooks l hv).2, LogSetup.after, LogSetup.after, List.foldl_cons]

/-- **When failing calls change nothing**, after any calls of a process that has no handler at first,
whatever its thresholds are then, under every configuration of the environment. A call fails exactly
if it does not come to look at a level. One that fails leaves the logging as it was exactly if it
does not come to look at a value at all, or an earlier call did; otherwise it installs the handler.
Failing calls inserted into a run make no difference to what the run ends in unless one of them
becomes the first to look at a value, where before there was none or one that sets the general
threshold to another than the first; then the handler is there at the end, and the general threshold
as it was at first. -/
theorem failing_calls_leave_logging_iff (s : Session) (hbare : s.logging.handlers = [])
    (levels : List Value) :
    (∀ t : Session, t.logging = (s.configuring levels).logging → ∀ v,
      ((∃ e, (t.run (.configureLogging v)).1.result = .error e) ↔
        ¬t.configuration.GivesLevel v) ∧
      (¬t.configuration.GivesLevel v →
        ((t.run (.configureLogging v)).2.logging = t.logging ↔
          t.configuration.level? v = none ∨ ∃ w ∈ levels, s.configuration.level? w ≠ none) ∧
        ((t.run (.configureLogging v)).2.logging ≠ t.logging →
          (t.run (.configureLogging v)).2.logging =
            { t.logging with handlers := [.standard] }))) ∧
    ∀ more, Interspersed (fun v => ¬s.configuration.GivesLevel v) levels more →
      let looked := levels.filterMap s.configuration.level?
      let lookedMore := more.filterMap s.configuration.level?
      ((s.configuring more).logging = (s.configuring levels).logging ↔
        ¬LogSetup.Spoils s.logging.root looked lookedMore) ∧
      (LogSetup.Spoils s.logging.root looked lookedMore →
        (s.configuring more).logging =
          { (s.configuring levels).logging with
            root := s.logging.root, handlers := [.standard] }) := by
  have hrun : ∀ vs, (s.configuring vs).logging =
      s.logging.after (vs.filterMap s.configuration.level?) := fun vs => s.logging_configuring vs
  refine ⟨fun t ht v => ⟨configureLogging_error_iff t v, fun hfails => ?_⟩,
    fun more hmore => ?_⟩
  · have hhandlers : t.logging.handlers ≠ [] ↔ ∃ w ∈ levels, s.configuration.level? w ≠ none := by
      rw [ht, hrun, ne_eq, LogSetup.handlers_after_eq_nil_iff hbare, List.filterMap_eq_nil_iff]
      push Not
      rfl
    rw [logging_of_failing t hfails, ← hhandlers]
    split
    · next hkept => exact ⟨iff_of_true rfl hkept, fun hne => absurd rfl hne⟩
    · next hlooks =>
      refine ⟨iff_of_false (fun heq => hlooks (.inr ?_)) hlooks, fun _ => rfl⟩
      rw [← heq]
      exact List.cons_ne_nil _ _
  · have hlooked := Configuration.interspersed_levels hmore
    rw [hrun, hrun]
    exact ⟨LogSetup.after_eq_iff hbare hlooked,
      fun hspoils => (LogSetup.after_of_spoils hbare hlooked hspoils).1⟩

/-- A process whose library has no threshold of its own. -/
def unconfigured : Session := { logging := { library := .number 0 } }

/-- "nosuch" is the name of no level. -/
theorem not_givesLevel_nosuch (c : Configuration) : ¬c.GivesLevel (.text "nosuch") := by
  rintro ⟨l, hl, hlevel⟩
  cases hl
  cases hlevel with
  | named hname => exact absurd hname (by decide)

theorem failing_calls_leave_logging_iff_behind :
    unconfigured.logging.handlers = [] ∧
      (unconfigured.configuring [.text "error", .text "nosuch", .int 5]).logging =
        (unconfigured.configuring [.text "error", .int 5]).logging := by
  refine ⟨rfl, ?_⟩
  obtain ⟨-, hmore⟩ := failing_calls_leave_logging_iff unconfigured rfl [.text "error", .int 5]
  refine (hmore [.text "error", .text "nosuch", .int 5]
    (.keep _ (.insert (not_givesLevel_nosuch _) (.keep _ .nil)))).1.mpr ?_
  rintro ⟨v, hv, hnone, -⟩
  cases hv
  exact hnone (.named (by decide))

/-- A name that is none, as the first call of a process, installs the handler, and the level of the
next call is not set for the general threshold. -/
theorem failing_call_spoils :
    ¬unconfigured.configuration.GivesLevel (.text "nosuch") ∧
      (unconfigured.configuring [.text "nosuch"]).logging ≠ unconfigured.logging ∧
      (unconfigured.configuring [.text "nosuch", .text "error"]).logging ≠
        (unconfigured.configuring [.text "error"]).logging := by
  refine ⟨not_givesLevel_nosuch _, ?_, ?_⟩
  · rw [logging_configuring]
    decide
  · rw [logging_configuring, logging_configuring]
    decide

end Session

end FluentQuery
