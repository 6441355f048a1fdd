import FluentQuery.Row.Decode
import Mathlib.Data.List.Forall2

/-!
# Rows that are decoded

Rows are decoded one by one. All of them are if each fits the type; else the first that does not
tells why, with its index, and those behind it do not matter.

* **`Row.Decodes`**, **`Row.Misfits`** — what a row is decoded as, and why it is not, wherever it
  stands;
* **`Row.decodeAll_eq_ok_iff`** — rows that are all decoded, so that slices of them are too;
* **`Row.decodeFrom_of_misfit`** — rows of which one is not;
* **`Schema.fit_ne_nil`** — what does not fit a type always has an issue to tell of.
-/

namespace FluentQuery

namespace Row

variable {fit : Fit} {type : Option Schema} {schema : Schema} {row : Row}

/-! ## Rows that are all decoded -/

/-- A row is decoded as a value, wherever it stands. -/
def Decodes (fit : Fit) (type : Option Schema) (row : Row) (v : Value) : Prop :=
  ∀ index, decode fit type index row = .ok v

theorem decodes_of_decode {row : Row} {v : Value} {index : Int}
    (h : decode fit type index row = .ok v) : Decodes fit type row v := by
  intro other
  unfold decode at h ⊢
  cases type with
  | none => exact h
  | some schema =>
    simp only at h ⊢
    cases hsubject : subject schema row with
    | error reason => rw [hsubject] at h; cases h
    | ok w =>
      rw [hsubject] at h
      simp only at h ⊢
      cases hfit : fit schema w with
      | error issues => rw [hfit] at h; cases h
      | ok u => rw [hfit] at h; exact h

theorem decodeFrom_eq_ok_iff {rows : List Row} {vs : List Value} (index : Nat) :
    decodeFrom fit type index rows = .ok vs ↔ List.Forall₂ (Decodes fit type) rows vs := by
  induction rows generalizing index vs with
  | nil =>
    rw [List.forall₂_nil_left_iff, decodeFrom]
    exact ⟨fun h => (Except.ok.inj h).symm, fun h => h ▸ rfl⟩
  | cons row rows ih =>
    rw [decodeFrom]
    constructor
    · intro h
      cases hrow : decode fit type index row with
      | error e => rw [hrow] at h; cases h
      | ok v =>
        cases hrest : decodeFrom fit type (index + 1) rows with
        | error e => rw [hrow, hrest] at h; cases h
        | ok ws =>
          rw [hrow, hrest] at h
          cases h
          exact .cons (decodes_of_decode hrow) ((ih (index + 1)).mp hrest)
    · rintro (_ | ⟨hrow, hrest⟩)
      rw [hrow index, (ih (index + 1)).mpr hrest]
      rfl

theorem decodeAll_eq_ok_iff {rows : List Row} {vs : List Value} :
    decodeAll fit type rows = .ok vs ↔ List.Forall₂ (Decodes fit type) rows vs :=
  decodeFrom_eq_ok_iff 0

/-- A slice of rows that are decoded is decoded as the slice of the values. -/
theorem decodeAll_slice {rows : List Row} {vs : List Value} (h : decodeAll fit type rows = .ok vs)
    (first count : Nat) :
    decodeAll fit type ((rows.drop first).take count) = .ok ((vs.drop first).take count) := by
  rw [decodeAll_eq_ok_iff] at h ⊢
  exact List.forall₂_take count (List.forall₂_drop first h)

/-- A row fits a type: it is decoded as something. -/
def Fits (fit : Fit) (type : Option Schema) (row : Row) : Prop := ∃ v, Decodes fit type row v

theorem exists_decodes {rows : List Row} (h : ∀ row ∈ rows, Fits fit type row) :
    ∃ vs, List.Forall₂ (Decodes fit type) rows vs := by
  induction rows with
  | nil => exact ⟨[], .nil⟩
  | cons row rows ih =>
    obtain ⟨v, hv⟩ := h row List.mem_cons_self
    obtain ⟨vs, hvs⟩ := ih fun r hr => h r (List.mem_cons_of_mem _ hr)
    exact ⟨v :: vs, .cons hv hvs⟩

/-- Where not all rows fit, there is a first that does not. -/
theorem exists_first_misfit {rows : List Row} (h : ¬∀ row ∈ rows, Fits fit type row) :
    ∃ taken row later, rows = taken ++ row :: later ∧ (∀ r ∈ taken, Fits fit type r) ∧
      ¬Fits fit type row := by
  classical
  cases hfirst : rows.find? fun row => ¬Fits fit type row with
  | none =>
    rw [List.find?_eq_none] at hfirst
    exact absurd (fun row hrow => by simpa using hfirst row hrow) h
  | some row =>
    obtain ⟨hrow, taken, later, hrows, htaken⟩ := List.find?_eq_some_iff_append.mp hfirst
    exact ⟨taken, row, later, hrows, fun r hr => by simpa using htaken r hr, by simpa using hrow⟩

/-! ## A row that is not -/

/-- A way to make values fit that always has an issue to tell of when a value does not. -/
def Explains (fit : Fit) : Prop := ∀ schema v, fit schema v ≠ .error []

/-- Why a row does not fit a type: it has not the one column of a scalar type, or there are issues
with the value in that column, or with the whole of it. -/
inductive Misfits (fit : Fit) (schema : Schema) (row : Row) : String → Prop
  | columns : schema.isScalar = true → row.length ≠ 1 →
      Misfits fit schema row ("expected a single column, got " ++ intText row.length)
  | value {key v : Value} {first : Issue} {more : List Issue} : schema.isScalar = true →
      row = [(key, v)] → fit schema v = .error (first :: more) →
      Misfits fit schema row (summary (first :: more))
  | whole {first : Issue} {more : List Issue} : schema.isScalar = false →
      fit schema (.dict row) = .error (first :: more) →
      Misfits fit schema row (summary (first :: more))

/-- A row of one column fits a scalar type if the value in it does. -/
theorem decode_single (hscalar : schema.isScalar = true) (key v : Value) (index : Int) :
    decode fit (some schema) index [(key, v)] =
      match fit schema v with
      | .ok w => .ok w
      | .error issues => .error (.decoding ⟨schema.name, index, summary issues⟩) := by
  have hsubject : subject schema [(key, v)] = .ok v := by
    unfold subject
    rw [if_pos hscalar]
  unfold decode
  cases hfit : fit schema v <;> simp only [hsubject, hfit]

/-- A row that has not one column does not fit a scalar type. -/
theorem decode_columns (hscalar : schema.isScalar = true) (hcolumns : row.length ≠ 1)
    (index : Int) :
    decode fit (some schema) index row = .error (.decoding
      ⟨schema.name, index, "expected a single column, got " ++ intText row.length⟩) := by
  have hsubject : subject schema row =
      .error ("expected a single column, got " ++ intText row.length) := by
    unfold subject
    rw [if_pos hscalar]
    split
    · exact absurd rfl hcolumns
    · rfl
  unfold decode
  simp only [hsubject]

theorem decode_whole (hscalar : schema.isScalar = false) (index : Int) :
    decode fit (some schema) index row =
      match fit schema (.dict row) with
      | .ok w => .ok w
      | .error issues => .error (.decoding ⟨schema.name, index, summary issues⟩) := by
  have hsubject : subject schema row = .ok (.dict row) := by
    unfold subject
    rw [if_neg (Bool.eq_false_iff.mp hscalar)]
  unfold decode
  cases hfit : fit schema (.dict row) <;> simp only [hsubject, hfit]

/-- **A row that does not fit tells why.** -/
theorem exists_misfits (hfit : Explains fit) (h : ¬Fits fit type row) :
    ∃ schema reason, type = some schema ∧ Misfits fit schema row reason ∧
      ∀ index, decode fit type index row = .error (.decoding ⟨schema.name, index, reason⟩) := by
  cases type with
  | none => exact absurd ⟨.dict row, fun _ => rfl⟩ h
  | some schema =>
    -- What is to be made fit: the only value of a row for a scalar type, or all of the row.
    have hissues : ∀ v, (∀ index, decode fit (some schema) index row =
        match fit schema v with
        | .ok w => .ok w
        | .error issues => .error (.decoding ⟨schema.name, index, summary issues⟩)) →
        ∃ first more, fit schema v = .error (first :: more) := by
      intro v hv
      cases hissues : fit schema v with
      | ok w => exact absurd ⟨w, fun index => by rw [hv, hissues]⟩ h
      | error issues =>
        cases issues with
        | nil => exact absurd hissues (hfit schema v)
        | cons first more => exact ⟨first, more, rfl⟩
    cases hscalar : schema.isScalar with
    | false =>
      obtain ⟨first, more, hissues⟩ := hissues (.dict row) (decode_whole hscalar)
      exact ⟨schema, _, rfl, .whole hscalar hissues, fun index => by
        rw [decode_whole hscalar, hissues]⟩
    | true =>
      by_cases hone : row.length = 1
      · obtain ⟨e, rfl⟩ := List.length_eq_one_iff.mp hone
        obtain ⟨key, v⟩ := e
        obtain ⟨first, more, hissues⟩ := hissues v (decode_single hscalar key v)
        exact ⟨schema, _, rfl, .value hscalar rfl hissues, fun index => by
          rw [decode_single hscalar, hissues]⟩
      · exact ⟨schema, _, rfl, .columns hscalar hone, decode_columns hscalar hone⟩

/-- The first row that does not fit is told of, and those behind it do not matter. -/
theorem decodeFrom_of_misfit {taken later : List Row} {e : Failure} {index : Nat}
    (htaken : ∀ r ∈ taken, Fits fit type r)
    (hrow : decode fit type (index + taken.length : Nat) row = .error e) :
    decodeFrom fit type index (taken ++ row :: later) = .error e := by
  induction taken generalizing index with
  | nil =>
    rw [List.nil_append, decodeFrom, show decode fit type index row = .error e from hrow]
    rfl
  | cons r taken ih =>
    obtain ⟨v, hv⟩ := htaken r List.mem_cons_self
    have hrest : decodeFrom fit type (index + 1) (taken ++ row :: later) = .error e := by
      refine ih (fun r hr => htaken r (List.mem_cons_of_mem _ hr)) ?_
      rwa [Nat.add_assoc, Nat.add_comm 1]
    rw [List.cons_append, decodeFrom, hv index, hrest]
    rfl

/-- A row that is not decoded tells of the type and of its index. -/
theorem decode_eq_error {index : Int} {e : Failure} (h : decode fit type index row = .error e) :
    ∃ schema reason, type = some schema ∧ e = .decoding ⟨schema.name, index, reason⟩ := by
  unfold decode at h
  split at h
  · cases h
  · split at h
    · cases h
      exact ⟨_, _, rfl, rfl⟩
    · split at h
      · cases h
      · cases h
        exact ⟨_, _, rfl, rfl⟩

/-- Rows tell of none in front of them. -/
theorem le_index_of_decodeFrom {rows : List Row} {index : Nat} {e : DecodingError}
    (h : decodeFrom fit type index rows = .error (.decoding e)) : (index : Int) ≤ e.rowIndex := by
  induction rows generalizing index with
  | nil => cases h
  | cons row rows ih =>
    rw [decodeFrom] at h
    cases hrow : decode fit type index row with
    | error e' =>
      obtain ⟨schema, reason, -, rfl⟩ := decode_eq_error hrow
      rw [hrow] at h
      cases h
      exact Int.le_refl _
    | ok v =>
      rw [hrow] at h
      cases hrest : decodeFrom fit type (index + 1) rows with
      | error e' =>
        rw [hrest] at h
        cases h
        have hle := ih hrest
        omega
      | ok vs =>
        rw [hrest] at h
        cases h

end Row

/-! ## Types that always explain -/

namespace Schema

theorem complain_ne_nil (c : Complaint) : complain c ≠ .error [] := fun h => nomatch h

theorem fitScalar_ne_nil {α : Type} (wrap : α → Value) (r : Except Complaint α) :
    fitScalar wrap r ≠ .error [] := by
  cases r with
  | ok a => exact fun h => nomatch h
  | error c => exact complain_ne_nil c

theorem under_ne_nil {r : Fitted} (h : r ≠ .error []) (step : String) :
    r.under step ≠ .error [] := by
  cases r with
  | ok v => exact fun h => nomatch h
  | error issues =>
    intro hnil
    rw [List.map_eq_nil_iff.mp (Except.error.inj hnil)] at h
    exact h rfl

theorem fitMember_ne_nil (strict : Bool) (base : EnumBase) (name : String) (values : List Value)
    (v : Value) : fitMember strict base name values v ≠ .error [] := by
  unfold fitMember
  split
  · split
    · exact fun h => nomatch h
    · exact complain_ne_nil _
  · split
    · exact complain_ne_nil _
    · dsimp only
      split
      · exact fun h => nomatch h
      · exact complain_ne_nil _

theorem fitItems_ne_nil {fit : Value → Fitted} (hfit : ∀ v, fit v ≠ .error []) (index : Nat)
    (items : List Value) : fitItems fit index items ≠ .error [] := by
  induction items generalizing index with
  | nil => exact fun h => nomatch h
  | cons v rest ih =>
    have hitem := under_ne_nil (hfit v) (intText index)
    have hrest := ih (index + 1)
    rw [fitItems]
    split
    · exact fun h => nomatch h
    · next hlater => rwa [hlater] at hrest
    · next hissues _ =>
      rw [hissues] at hitem
      exact fun h => hitem (congrArg _ (Except.error.inj h))
    · next hissues _ =>
      rw [hissues] at hitem
      exact fun h => hitem (congrArg _ (List.append_eq_nil_iff.mp (Except.error.inj h)).1)

theorem fitEntries_ne_nil {fitKey fitValue : Value → Fitted} (hkey : ∀ v, fitKey v ≠ .error [])
    (hvalue : ∀ v, fitValue v ≠ .error []) (entries : Entries) :
    fitEntries fitKey fitValue entries ≠ .error [] := by
  induction entries with
  | nil => exact fun h => nomatch h
  | cons e rest ih =>
    obtain ⟨k, v⟩ := e
    have hk := under_ne_nil (under_ne_nil (hkey k) "[key]") k.plain
    have hv := under_ne_nil (hvalue v) k.plain
    rw [fitEntries]
    generalize ((fitKey k).under "[key]").under k.plain = key at hk ⊢
    generalize (fitValue v).under k.plain = value at hv ⊢
    generalize fitEntries fitKey fitValue rest = tail at ih ⊢
    cases tail with
    | error later =>
      cases key <;> cases value <;>
        exact fun h => ih (congrArg _ (List.append_eq_nil_iff.mp (Except.error.inj h)).2)
    | ok tail =>
      cases key with
      | error issues =>
        cases value <;>
          exact fun h => hk (congrArg _ (List.append_eq_nil_iff.mp (Except.error.inj h)).1)
      | ok k' =>
        cases value with
        | ok v' => exact fun h => nomatch h
        | error issues => exact fun h => hv (congrArg _ (Except.error.inj h))

theorem map_ne_nil {α β : Type} {r : Except (List Issue) α} (h : r ≠ .error []) (f : α → β) :
    r.map f ≠ .error [] := by
  cases r with
  | ok a => exact fun h => nomatch h
  | error issues => exact fun hnil => h (congrArg _ (Except.error.inj hnil))

/-- **What does not fit a type has an issue to tell of**, by recursion on the type. -/
theorem fit_ne_nil (strict : Bool) :
    ∀ (schema : Schema) (v : Value), fit strict schema v ≠ .error []
  | .any, _ => fun h => nomatch h
  | .bool, _ => fitScalar_ne_nil _ _
  | .int, _ => fitScalar_ne_nil _ _
  | .float, _ => fitScalar_ne_nil _ _
  | .text, _ => fitScalar_ne_nil _ _
  | .decimal, _ => fitScalar_ne_nil _ _
  | .date, _ => fitScalar_ne_nil _ _
  | .datetime, _ => fitScalar_ne_nil _ _
  | .anyList, v => by
    rw [fit]
    split
    · exact fun h => nomatch h
    · exact complain_ne_nil _
  | .anyDict, v => by
    rw [fit]
    split
    · exact fun h => nomatch h
    · exact complain_ne_nil _
  | .optional inner, v => by
    unfold fit
    split
    · exact fun h => nomatch h
    · exact fit_ne_nil strict inner v
  | .list item, v => by
    rw [fit]
    split
    · exact map_ne_nil (fitItems_ne_nil (fit_ne_nil strict item) 0 _) _
    · exact complain_ne_nil _
  | .dict key value, v => by
    rw [fit]
    split
    · exact map_ne_nil (fitEntries_ne_nil (fit_ne_nil strict key) (fit_ne_nil strict value) _) _
    · exact complain_ne_nil _
  | .enumeration base name values, v => fitMember_ne_nil strict base name values v
  | .atLeast bound inner, v => by
    rw [fit]
    split
    · split
      · exact complain_ne_nil _
      · exact fun h => nomatch h
    · exact fit_ne_nil strict inner v
  | .model name fields extra own, v => by
    rw [fit]
    split
    · exact complain_ne_nil _
    · dsimp only
      split
      · exact fun h => nomatch h
      · next hsome => exact fun h => hsome (Except.error.inj h)
  | .dataclass name fields, v => by
    rw [fit]
    split
    · exact complain_ne_nil _
    · split
      · exact fun h => nomatch h
      · next hsome _ => exact fun h => hsome (Except.error.inj h)
  | .typedDict name fields total, v => by
    rw [fit]
    split
    · exact complain_ne_nil _
    · split
      · exact fun h => nomatch h
      · next hsome _ => exact fun h => hsome (Except.error.inj h)

end Schema

/-- The usual way to make values fit always has an issue to tell of. -/
theorem Row.lenient_explains : Row.Explains Row.lenient := Schema.fit_ne_nil false

end FluentQuery
