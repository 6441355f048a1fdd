import FluentQuery.Proofs.Query.Replay

/-!
# Why calls are refused

A call asks something of its arguments, one after another, and the first that does not meet what is
asked of it is what the call is refused for: with an error of the builder that names the argument
and shows it, unless it has an integer that is too long to be written. The direction of a sort key
is not asked for in this way. It is converted, and what does not convert is refused with an issue of
the sort key.

* **`Demand`**, **`ClauseCall.demands`** — what calls ask of their arguments, in order;
* **`ClauseCall.unmet?`**, **`ClauseCall.misdirection?`** — the two reasons to refuse a call;
* **`ClauseCall.Unshown`** — a call is refused for an argument that cannot be written;
* **`Query.call_outcome`** — what a call gives, read off these two;
* **`Query.refused_by_builder_iff`** — when a refusal is an error of the builder.
-/

namespace FluentQuery

/-- A value that is no truth value is of a kind that never is one, or cannot be read as one. -/
theorem Convert.toBool_complaint {v : Value} {x : Complaint} (h : toBool false v = .error x) :
    x = .boolExpected ∨ x = .boolUnreadable := by
  have hint : ∀ n, boolOfInt n = .error x → x = .boolExpected ∨ x = .boolUnreadable := by
    intro n hn
    unfold boolOfInt at hn
    split at hn
    · cases hn
    · split at hn <;> cases hn
      exact .inr rfl
  have hfloat : ∀ y, boolOfFloat y = .error x → x = .boolExpected ∨ x = .boolUnreadable := by
    intro y hy
    unfold boolOfFloat at hy
    split at hy
    · exact hint _ hy
    · cases hy
      exact .inl rfl
  unfold toBool at h
  split at h
  · cases h
  · rw [if_neg Bool.false_ne_true] at h
    split at h
    · split at h
      · exact hint _ h
      · cases h
        exact .inl rfl
    · exact hfloat _ h
    · exact hfloat _ h
    · split at h
      · cases h
        exact .inl rfl
      · cases h
        exact .inr rfl
      · split at h <;> cases h
        exact .inr rfl

/-- What a call asks of an argument: to be a text that is not blank, or a number of things. The
name is the one that an error gives to the argument. -/
inductive Demand where
  | text (name : String) (v : Value)
  | count (name : String) (v : Value)

namespace Demand

/-- The argument meets what is asked of it. -/
def Met : Demand → Prop
  | .text _ v => v.IsText
  | .count _ v => v.IsCount

instance : DecidablePred Met
  | .text _ v => inferInstanceAs (Decidable v.IsText)
  | .count _ v => inferInstanceAs (Decidable v.IsCount)

/-- The argument. -/
def value : Demand → Value
  | .text _ v => v
  | .count _ v => v

/-- The error that names the argument. -/
def error : Demand → BuilderError
  | .text name v => .invalidArgument name v
  | .count name v => .invalidBound name v

/-- The first of several arguments that does not meet what is asked of it. -/
def firstUnmet (ds : List Demand) : Option Demand := ds.find? fun d => ¬d.Met

variable {d : Demand}

/-- The error shows the argument and nothing else. -/
theorem error_values (d : Demand) : d.error.values = [d.value] := by cases d <;> rfl

/-- What the argument is refused with is the error exactly if the argument can be written. -/
theorem refusal_of_writable (h : d.value.isWritable = true) :
    Failure.refusal d.error = .builder d.error :=
  Failure.refusal_of_writable (by simpa [error_values] using h)

theorem refusal_of_not_writable (h : d.value.isWritable = false) :
    Failure.refusal d.error = .unwritable :=
  Failure.refusal_of_not_writable (by simp [error_values, h])

theorem firstUnmet_of_met (h : d.Met) (ds : List Demand) :
    firstUnmet (d :: ds) = firstUnmet ds := by
  simp [firstUnmet, h]

theorem firstUnmet_of_not_met (h : ¬d.Met) (ds : List Demand) :
    firstUnmet (d :: ds) = some d := by
  simp [firstUnmet, h]

theorem firstUnmet_eq_none_iff {ds : List Demand} : firstUnmet ds = none ↔ ∀ d ∈ ds, d.Met := by
  simp [firstUnmet, List.find?_eq_none]

end Demand

namespace ClauseCall

/-- What a call asks of its arguments, in the order in which they are looked at. -/
def demands : ClauseCall → List Demand
  | .condition _ column _ => [.text "column" column]
  | .select columns => (Clauses.unpacked columns).map (.text "column")
  | .orderBy column _ => [.text "column" column]
  | .limit bound => [.count "limit" bound]
  | .offset bound => [.count "offset" bound]
  | .join _ table on => [.text "join table" table, .text "join condition" on]
  | .customSql _ => []

/-- The first argument that does not meet what is asked of it. -/
def unmet? (c : ClauseCall) : Option Demand := Demand.firstUnmet c.demands

/-- Why the direction of a sort key is none. -/
def misdirection? : ClauseCall → Option Complaint
  | .orderBy _ ascending =>
    match Convert.toBool false ascending with
    | .ok _ => none
    | .error x => some x
  | _ => none

/-- A sort key over a usable column has a direction that is none. -/
def Misdirected (c : ClauseCall) : Prop :=
  ∃ column ascending, c = .orderBy column ascending ∧ column.IsText ∧ ¬ascending.IsDirection

/-- The argument that a call is refused for has an integer that is too long to be written. -/
def Unshown (c : ClauseCall) : Prop := ∃ d, c.unmet? = some d ∧ d.value.isWritable = false

variable {c : ClauseCall}

theorem misdirection?_complaint {x : Complaint} (h : c.misdirection? = some x) :
    x = .boolExpected ∨ x = .boolUnreadable := by
  cases c with
  | orderBy column ascending =>
    cases hconvert : Convert.toBool false ascending with
    | ok b => simp [misdirection?, hconvert] at h
    | error y =>
      simp only [misdirection?, hconvert, Option.some.injEq] at h
      exact Convert.toBool_complaint (h ▸ hconvert)
  | _ => cases h

theorem unmet?_eq_none_iff : c.unmet? = none ↔ ∀ d ∈ c.demands, d.Met :=
  Demand.firstUnmet_eq_none_iff

theorem misdirection?_eq_none_iff {column ascending : Value} :
    (orderBy column ascending).misdirection? = none ↔ ascending.IsDirection := by
  simp only [misdirection?, Value.IsDirection]
  cases Convert.toBool false ascending <;> simp

/-- A call is acceptable exactly if there is no reason to refuse it. -/
theorem acceptable_iff : c.Acceptable ↔ c.unmet? = none ∧ c.misdirection? = none := by
  rw [unmet?_eq_none_iff]
  cases c with
  | orderBy column ascending =>
    rw [misdirection?_eq_none_iff]
    simp [Acceptable, demands, Demand.Met]
  | _ => simp [Acceptable, demands, Demand.Met, misdirection?]

theorem misdirected_iff : c.Misdirected ↔ c.unmet? = none ∧ c.misdirection? ≠ none := by
  rw [unmet?_eq_none_iff]
  cases c with
  | orderBy column ascending =>
    rw [Ne, misdirection?_eq_none_iff]
    simp [Misdirected, demands, Demand.Met]
  | _ => simp [Misdirected, misdirection?]

end ClauseCall

namespace Clauses

/-- Two steps are refused if the first is, or the second behind it. -/
theorem refused_bind {α β : Type} {x : Except Failure α} {f : α → Except Failure β} {e : Failure}
    (h : x = .error e ∨ ∃ a, x = .ok a ∧ f a = .error e) : (x >>= f) = .error e := by
  rcases h with h | ⟨a, h, hf⟩
  · rw [h]
    rfl
  · rw [h, ok_bind, hf]

variable {name : String} {v : Value} {ds : List Demand} {d : Demand}

/-- A text is refused, or it is usable and the argument that is not usable comes behind it. -/
theorem usable_of_firstUnmet (h : Demand.firstUnmet (.text name v :: ds) = some d) :
    usable name v = .error (.refusal d.error) ∨
      ∃ s, usable name v = .ok s ∧ Demand.firstUnmet ds = some d := by
  by_cases hmet : (Demand.text name v).Met
  · rw [Demand.firstUnmet_of_met hmet] at h
    obtain ⟨s, rfl, hs⟩ := hmet
    exact .inr ⟨s, usable_text hs, h⟩
  · rw [Demand.firstUnmet_of_not_met hmet] at h
    cases h
    rw [Demand.Met, Value.isText_iff, Option.not_isSome_iff_eq_none] at hmet
    left
    simp only [usable, hmet, Demand.error]

/-- A bound alone is refused if it is not usable. -/
theorem usableBound_of_firstUnmet (h : Demand.firstUnmet [.count name v] = some d) :
    usableBound name v = .error (.refusal d.error) := by
  by_cases hmet : (Demand.count name v).Met
  · rw [Demand.firstUnmet_of_met hmet] at h
    cases h
  · rw [Demand.firstUnmet_of_not_met hmet] at h
    cases h
    rw [Demand.Met, Value.isCount_iff, Option.not_isSome_iff_eq_none] at hmet
    simp only [usableBound, hmet, Demand.error]

theorem usable_all_of_firstUnmet {columns : List Value}
    (h : Demand.firstUnmet (columns.map (.text name)) = some d) :
    columns.mapM (usable name) = .error (.refusal d.error) := by
  induction columns with
  | nil => cases h
  | cons v rest ih =>
    rw [List.mapM_cons]
    refine refused_bind ((usable_of_firstUnmet h).imp_right ?_)
    rintro ⟨s, hs, hrest⟩
    exact ⟨s, hs, refused_bind (.inl (ih hrest))⟩

/-- A call with an argument that is not usable is refused for the first of them. -/
theorem apply_of_unmet {c : ClauseCall} (h : c.unmet? = some d) (s : Clauses) :
    s.apply c = .error (.refusal d.error) := by
  cases c with
  | condition operator column value =>
    refine refused_bind ((usable_of_firstUnmet h).imp_right ?_)
    rintro ⟨_, _, hnone⟩
    cases hnone
  | select columns => exact refused_bind (.inl (usable_all_of_firstUnmet h))
  | orderBy column ascending =>
    refine refused_bind ((usable_of_firstUnmet h).imp_right ?_)
    rintro ⟨_, _, hnone⟩
    cases hnone
  | limit bound => exact refused_bind (.inl (usableBound_of_firstUnmet h))
  | offset bound => exact refused_bind (.inl (usableBound_of_firstUnmet h))
  | join kind table on =>
    refine refused_bind ((usable_of_firstUnmet h).imp_right ?_)
    rintro ⟨t, ht, hbehind⟩
    refine ⟨t, ht, refused_bind ((usable_of_firstUnmet hbehind).imp_right ?_)⟩
    rintro ⟨_, _, hnone⟩
    cases hnone
  | customSql sql => cases h

/-- What is wrong with a sort key whose direction does not convert. -/
def misdirected (x : Complaint) : Failure := .invalid ⟨"OrderItem", [⟨["ascending"], x⟩]⟩

/-- A call whose arguments are usable but for the direction of a sort key is refused for that. -/
theorem apply_of_misdirection {c : ClauseCall} {x : Complaint} (h : c.unmet? = none)
    (hx : c.misdirection? = some x) (s : Clauses) : s.apply c = .error (misdirected x) := by
  cases c with
  | orderBy column ascending =>
    have hcolumn : column.IsText := by
      simpa [ClauseCall.unmet?_eq_none_iff, ClauseCall.demands, Demand.Met] using h
    obtain ⟨t, rfl, ht⟩ := hcolumn
    refine refused_bind (.inr ⟨t, usable_text ht, refused_bind (.inl ?_)⟩)
    simp only [ClauseCall.misdirection?] at hx
    rw [direction]
    cases hconvert : Convert.toBool false ascending with
    | ok b => simp [hconvert] at hx
    | error y =>
      rw [hconvert] at hx
      cases hx
      rfl
  | _ => cases hx

end Clauses

namespace Query

/-- **What a call gives.** The first argument that is not usable decides, then the direction of a
sort key; else the query has what the call contributes. -/
theorem call_outcome (q : Query) (c : ClauseCall) :
    q.call c = match c.unmet?, c.misdirection? with
      | some d, _ => .error (.refusal d.error)
      | none, some x => .error (Clauses.misdirected x)
      | none, none => .ok { q with clauses := q.clauses.extended c } := by
  cases hunmet : c.unmet? with
  | some d =>
    rw [call, Clauses.apply_of_unmet hunmet]
    rfl
  | none =>
    cases hdirection : c.misdirection? with
    | some x =>
      rw [call, Clauses.apply_of_misdirection hunmet hdirection]
      rfl
    | none => exact call_eq_ok (ClauseCall.acceptable_iff.mpr ⟨hunmet, hdirection⟩) q

/-- **When a refusal is an error of the builder**, for every query and every call with arguments of
any kind: always, but for a sort key over a usable column whose direction does not convert to a
truth value, and for an argument that is not usable and cannot be written. A refused call is refused
for the first argument that is not usable, with an error of the builder that names it if it can be
written; or else for that direction, with an issue of the sort key. -/
theorem refused_by_builder_iff (q : Query) (c : ClauseCall) :
    ((q.call c = .ok { q with clauses := q.clauses.extended c } ∨
        ∃ e, q.call c = .error (.builder e)) ↔ ¬c.Misdirected ∧ ¬c.Unshown) ∧
      ∀ e, q.call c = .error e →
        (∃ d, c.unmet? = some d ∧ (d.value.isWritable = true ∧ e = .builder d.error ∨
          d.value.isWritable = false ∧ e = .unwritable)) ∨
          c.Misdirected ∧ ∃ x, (x = .boolExpected ∨ x = .boolUnreadable) ∧
            e = .invalid ⟨"OrderItem", [⟨["ascending"], x⟩]⟩ := by
  rw [ClauseCall.misdirected_iff, ClauseCall.Unshown, call_outcome]
  cases c.unmet? with
  | some d =>
    dsimp only
    cases hwritable : d.value.isWritable with
    | true =>
      rw [Demand.refusal_of_writable hwritable]
      refine ⟨⟨fun _ => ⟨nofun, ?_⟩, fun _ => .inr ⟨d.error, rfl⟩⟩, ?_⟩
      · rintro ⟨_, ⟨⟩, hnot⟩
        rw [hwritable] at hnot
        cases hnot
      · rintro e ⟨⟩
        exact .inl ⟨d, rfl, .inl ⟨hwritable, rfl⟩⟩
    | false =>
      rw [Demand.refusal_of_not_writable hwritable]
      refine ⟨⟨?_, fun h => absurd ⟨d, rfl, hwritable⟩ h.2⟩, ?_⟩
      · rintro (h | ⟨_, h⟩) <;> cases h
      · rintro e ⟨⟩
        exact .inl ⟨d, rfl, .inr ⟨hwritable, rfl⟩⟩
  | none =>
    cases hx : c.misdirection? with
    | none => simp
    | some x =>
      have hcomplaint := ClauseCall.misdirection?_complaint hx
      refine ⟨by simp [Clauses.misdirected], ?_⟩
      rintro e ⟨⟩
      exact .inr ⟨⟨rfl, by simp⟩, x, hcomplaint, rfl⟩

/-- A sort key with a direction that is no truth value is refused, but not by the builder. -/
theorem misdirection_escapes :
    ({} : Query).call (.orderBy (.text "id") (.text "maybe")) =
        .error (.invalid ⟨"OrderItem", [⟨["ascending"], .boolUnreadable⟩]⟩) ∧
      ¬((∃ q, ({} : Query).call (.orderBy (.text "id") (.text "maybe")) = .ok q) ∨
        ∃ e, ({} : Query).call (.orderBy (.text "id") (.text "maybe")) = .error (.builder e)) := by
  have hcall : ({} : Query).call (.orderBy (.text "id") (.text "maybe")) =
      .error (.invalid ⟨"OrderItem", [⟨["ascending"], .boolUnreadable⟩]⟩) := rfl
  rw [hcall]
  simp

end Query

end FluentQuery
