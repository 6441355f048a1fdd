import FluentQuery.Proofs.Value.Written
import FluentQuery.Query.Basic
import Mathlib.Data.List.Induction

/-!
# What accepted calls describe

Whether a query accepts a call depends on the arguments of the call alone, and what a query has
accumulated can be read off the calls that it accepted:

* **`ClauseCall.Acceptable`** — the arguments of a call are usable;
* **`Clauses.described`** — the clauses for a list of calls: conditions, joins and sort keys in the
  order of the calls, and of columns, bounds and custom SQL the last setting;
* **`Clauses.apply_eq_ok`**, **`Clauses.acceptable_of_apply`** — one call: an acceptable one
  extends the clauses by what it contributes, any other is rejected;
* **`Query.chain_described`** — the calls before the first that is rejected;
* **`Clauses.described_usable`** — acceptable calls describe clauses without blank texts.
-/

namespace FluentQuery

/-! ## Usable arguments -/

/-- A text has a character that is not blank. -/
def Text.Filled (s : String) : Prop := ∃ c ∈ s.toList, isBlankChar c = false

theorem Text.filled_iff {s : String} : Filled s ↔ isBlank s = false := by
  rw [← Bool.not_eq_true, isBlank_iff]
  simp [Filled]

namespace Value

/-- A value is a text with something in it. -/
def IsText (v : Value) : Prop := ∃ s, v = .text s ∧ Text.Filled s

/-- A value is an integer that is not negative. -/
def IsCount (v : Value) : Prop := ∃ n : Int, v = .int n ∧ 0 ≤ n

/-- A value converts to a direction of sorting. -/
def IsDirection (v : Value) : Prop := ∃ ascending, Convert.toBool false v = .ok ascending

/-- The text that a value is. -/
def text? : Value → Option String
  | .text s => some s
  | _ => none

theorem usableText?_eq_some_iff {v : Value} {s : String} :
    v.usableText? = some s ↔ v = .text s ∧ Text.Filled s := by
  cases v with
  | text t =>
    cases hblank : Text.isBlank t with
    | true =>
      simp only [usableText?, hblank, if_true, reduceCtorEq, text.injEq, false_iff, not_and]
      rintro rfl
      simp [Text.filled_iff, hblank]
    | false =>
      simp only [usableText?, hblank, Bool.false_eq_true, if_false, Option.some.injEq, text.injEq]
      constructor
      · rintro rfl
        exact ⟨rfl, Text.filled_iff.2 hblank⟩
      · exact And.left
  | _ => simp [usableText?]

theorem count?_eq_some_iff {v : Value} {n : Nat} : v.count? = some n ↔ v = .int n := by
  cases v with
  | int m =>
    simp only [count?, int.injEq]
    split
    · simp only [reduceCtorEq, false_iff]
      omega
    · simp only [Option.some.injEq]
      omega
  | _ => simp [count?]

theorem isText_iff {v : Value} : v.IsText ↔ v.usableText?.isSome := by
  simp [IsText, Option.isSome_iff_exists, usableText?_eq_some_iff]

theorem isCount_iff {v : Value} : v.IsCount ↔ v.count?.isSome := by
  simp only [IsCount, Option.isSome_iff_exists, count?_eq_some_iff]
  constructor
  · rintro ⟨n, rfl, h⟩
    exact ⟨n.toNat, by rw [Int.toNat_of_nonneg h]⟩
  · rintro ⟨n, rfl⟩
    exact ⟨n, rfl, Int.natCast_nonneg n⟩

theorem isDirection_iff {v : Value} :
    v.IsDirection ↔ (Convert.toBool false v).toOption.isSome := by
  unfold IsDirection
  cases Convert.toBool false v <;> simp [Except.toOption]

instance : DecidablePred IsText := fun _ => decidable_of_iff' _ isText_iff

instance : DecidablePred IsCount := fun _ => decidable_of_iff' _ isCount_iff

instance : DecidablePred IsDirection := fun _ => decidable_of_iff' _ isDirection_iff

end Value

/-- All arguments of a call that are checked are usable. -/
def ClauseCall.Acceptable : ClauseCall → Prop
  | .condition _ column _ => column.IsText
  | .select columns => ∀ column ∈ Clauses.unpacked columns, column.IsText
  | .orderBy column ascending => column.IsText ∧ ascending.IsDirection
  | .limit bound => bound.IsCount
  | .offset bound => bound.IsCount
  | .join _ table on => table.IsText ∧ on.IsText
  | .customSql _ => True

instance : DecidablePred ClauseCall.Acceptable
  | .condition _ column _ => inferInstanceAs (Decidable column.IsText)
  | .select columns =>
    inferInstanceAs (Decidable (∀ column ∈ Clauses.unpacked columns, column.IsText))
  | .orderBy column ascending =>
    inferInstanceAs (Decidable (column.IsText ∧ ascending.IsDirection))
  | .limit bound => inferInstanceAs (Decidable bound.IsCount)
  | .offset bound => inferInstanceAs (Decidable bound.IsCount)
  | .join _ table on => inferInstanceAs (Decidable (table.IsText ∧ on.IsText))
  | .customSql _ => inferInstanceAs (Decidable True)

namespace Clauses

variable {name : String} {v : Value}

theorem usable_text {s : String} (h : Text.Filled s) : usable name (.text s) = .ok s := by
  rw [usable, Value.usableText?_eq_some_iff.2 ⟨rfl, h⟩]

theorem usable_eq_ok_iff {s : String} : usable name v = .ok s ↔ v = .text s ∧ Text.Filled s := by
  rw [← Value.usableText?_eq_some_iff, usable]
  cases v.usableText? <;> simp

theorem usableBound_eq_ok_iff {n : Nat} : usableBound name v = .ok n ↔ v = .int n := by
  rw [← Value.count?_eq_some_iff, usableBound]
  cases v.count? <;> simp

theorem direction_eq_ok_iff {b : Bool} : direction v = .ok b ↔ Convert.toBool false v = .ok b := by
  rw [direction]
  cases Convert.toBool false v <;> simp

theorem usable_all {columns : List Value} (h : ∀ c ∈ columns, c.IsText) :
    columns.mapM (usable name) = .ok (columns.filterMap Value.text?) := by
  induction columns with
  | nil => rfl
  | cons c rest ih =>
    obtain ⟨⟨s, rfl, hs⟩, hrest⟩ := List.forall_mem_cons.1 h
    rw [List.mapM_cons, usable_text hs, ih hrest]
    rfl

theorem usable_of_all {columns : List Value} {texts : List String}
    (h : columns.mapM (usable name) = .ok texts) : ∀ c ∈ columns, c.IsText := by
  induction columns generalizing texts with
  | nil => nofun
  | cons c rest ih =>
    rw [List.mapM_cons] at h
    obtain ⟨s, hs, h⟩ := ok_of_bind h
    obtain ⟨ss, hss, -⟩ := ok_of_bind h
    exact List.forall_mem_cons.2 ⟨⟨s, usable_eq_ok_iff.1 hs⟩, ih hss⟩

end Clauses

/-! ## What single calls contribute -/

namespace ClauseCall

/-- The condition that a call adds. -/
@[simp]
def condition? : ClauseCall → Option Condition
  | .condition operator (.text column) value => some ⟨column, operator, value⟩
  | _ => none

/-- The join that a call adds. -/
@[simp]
def join? : ClauseCall → Option Join
  | .join kind (.text table) (.text on) => some ⟨kind, table, on⟩
  | _ => none

/-- The sort key that a call adds. -/
@[simp]
def orderItem? : ClauseCall → Option OrderItem
  | .orderBy (.text column) ascending =>
    (Convert.toBool false ascending).toOption.map fun ascending => ⟨column, ascending⟩
  | _ => none

/-- The columns that a call sets. -/
@[simp]
def selection? : ClauseCall → Option (List String)
  | .select columns => some ((Clauses.unpacked columns).filterMap Value.text?)
  | _ => none

/-- The limit that a call sets. -/
@[simp]
def limit? : ClauseCall → Option Nat
  | .limit (.int (.ofNat n)) => some n
  | _ => none

/-- The offset that a call sets. -/
@[simp]
def offset? : ClauseCall → Option Nat
  | .offset (.int (.ofNat n)) => some n
  | _ => none

/-- The custom SQL that a call sets. -/
@[simp]
def customSql? : ClauseCall → Option Value
  | .customSql sql => some sql
  | _ => none

namespace Acceptable

variable {c : ClauseCall}

theorem condition? (h : c.Acceptable) {x : Condition} (hx : c.condition? = some x) :
    Text.Filled x.column := by
  cases c with
  | condition operator column value =>
    obtain ⟨t, rfl, ht⟩ := h
    cases hx
    exact ht
  | _ => cases hx

theorem join? (h : c.Acceptable) {x : Join} (hx : c.join? = some x) :
    Text.Filled x.table ∧ Text.Filled x.on := by
  cases c with
  | join kind table on =>
    obtain ⟨⟨t, rfl, ht⟩, o, rfl, ho⟩ := h
    cases hx
    exact ⟨ht, ho⟩
  | _ => cases hx

theorem orderItem? (h : c.Acceptable) {x : OrderItem} (hx : c.orderItem? = some x) :
    Text.Filled x.column := by
  cases c with
  | orderBy column ascending =>
    obtain ⟨⟨t, rfl, ht⟩, -⟩ := h
    obtain ⟨b, -, rfl⟩ := Option.map_eq_some_iff.1 hx
    exact ht
  | _ => cases hx

theorem selection? (h : c.Acceptable) {texts : List String} (htexts : c.selection? = some texts) :
    ∀ t ∈ texts, Text.Filled t := by
  cases c with
  | select columns =>
    cases htexts
    intro t ht
    obtain ⟨v, hv, hvt⟩ := List.mem_filterMap.1 ht
    obtain ⟨t', rfl, ht'⟩ := h v hv
    cases hvt
    exact ht'
  | _ => cases htexts

end Acceptable

end ClauseCall

namespace Clauses

/-- The clauses that calls describe: what is added stands in the order of the calls, of what is set
the last setting counts. -/
def described (calls : List ClauseCall) : Clauses where
  conditions := calls.filterMap ClauseCall.condition?
  joins := calls.filterMap ClauseCall.join?
  order := calls.filterMap ClauseCall.orderItem?
  selected := (calls.filterMap ClauseCall.selection?).getLast?.getD []
  limit := (calls.filterMap ClauseCall.limit?).getLast?
  offset := (calls.filterMap ClauseCall.offset?).getLast?
  customSql := (calls.filterMap ClauseCall.customSql?).getLast?.getD .null

/-- The clauses with what a call contributes to them. -/
def extended (s : Clauses) (c : ClauseCall) : Clauses where
  conditions := s.conditions ++ c.condition?.toList
  joins := s.joins ++ c.join?.toList
  order := s.order ++ c.orderItem?.toList
  selected := c.selection?.getD s.selected
  limit := c.limit?.or s.limit
  offset := c.offset?.or s.offset
  customSql := c.customSql?.getD s.customSql

theorem described_nil : described [] = {} := rfl

theorem described_concat (calls : List ClauseCall) (c : ClauseCall) :
    described (calls ++ [c]) = (described calls).extended c := by
  have hadded {α : Type} (f : ClauseCall → Option α) :
      (calls ++ [c]).filterMap f = calls.filterMap f ++ (f c).toList := by
    rw [List.filterMap_append]
    cases hc : f c <;> simp [hc]
  have hset {α : Type} (items : List α) (o : Option α) :
      (items ++ o.toList).getLast? = o.or items.getLast? := by
    cases o <;> simp
  simp only [described, extended, hadded, hset, Option.getD_or]

/-- A call with usable arguments is accepted, whatever the clauses are. -/
theorem apply_eq_ok {c : ClauseCall} (h : c.Acceptable) (s : Clauses) :
    s.apply c = .ok (s.extended c) := by
  cases c with
  | condition operator column value =>
    obtain ⟨t, rfl, ht⟩ := h
    rw [apply, usable_text ht]
    simp [extended]
  | select columns =>
    rw [apply, usable_all h]
    simp [extended]
  | orderBy column ascending =>
    obtain ⟨⟨t, rfl, ht⟩, b, hb⟩ := h
    rw [apply, usable_text ht, ok_bind, direction_eq_ok_iff.2 hb]
    simp [extended, hb, Except.toOption]
  | limit bound =>
    obtain ⟨n, rfl, hn⟩ := h
    obtain ⟨n, rfl⟩ := Int.eq_ofNat_of_zero_le hn
    rw [apply, usableBound_eq_ok_iff.2 rfl]
    simp [extended]
  | offset bound =>
    obtain ⟨n, rfl, hn⟩ := h
    obtain ⟨n, rfl⟩ := Int.eq_ofNat_of_zero_le hn
    rw [apply, usableBound_eq_ok_iff.2 rfl]
    simp [extended]
  | join kind table on =>
    obtain ⟨⟨t, rfl, ht⟩, o, rfl, ho⟩ := h
    rw [apply, usable_text ht, ok_bind, usable_text ho]
    simp [extended]
  | customSql sql => simp [apply, extended]

/-- A call that is not acceptable is rejected, whatever the clauses are. -/
theorem acceptable_of_apply {c : ClauseCall} {s s' : Clauses} (h : s.apply c = .ok s') :
    c.Acceptable := by
  cases c with
  | condition operator column value =>
    obtain ⟨t, ht, -⟩ := ok_of_bind h
    exact ⟨t, usable_eq_ok_iff.1 ht⟩
  | select columns =>
    obtain ⟨texts, ht, -⟩ := ok_of_bind h
    exact usable_of_all ht
  | orderBy column ascending =>
    obtain ⟨t, ht, h⟩ := ok_of_bind h
    obtain ⟨b, hb, -⟩ := ok_of_bind h
    exact ⟨⟨t, usable_eq_ok_iff.1 ht⟩, b, direction_eq_ok_iff.1 hb⟩
  | limit bound =>
    obtain ⟨n, hn, -⟩ := ok_of_bind h
    exact ⟨n, usableBound_eq_ok_iff.1 hn, Int.natCast_nonneg n⟩
  | offset bound =>
    obtain ⟨n, hn, -⟩ := ok_of_bind h
    exact ⟨n, usableBound_eq_ok_iff.1 hn, Int.natCast_nonneg n⟩
  | join kind table on =>
    obtain ⟨t, ht, h⟩ := ok_of_bind h
    obtain ⟨o, ho, -⟩ := ok_of_bind h
    exact ⟨⟨t, usable_eq_ok_iff.1 ht⟩, o, usable_eq_ok_iff.1 ho⟩
  | customSql sql => trivial

theorem exists_apply_eq_error {c : ClauseCall} (h : ¬c.Acceptable) (s : Clauses) :
    ∃ e, s.apply c = .error e := by
  cases hs : s.apply c with
  | ok s' => exact absurd (acceptable_of_apply hs) h
  | error e => exact ⟨e, rfl⟩

/-! ## Clauses without blank texts -/

/-- All columns, tables and join conditions have a character that is not blank. Bounds are natural
numbers already; custom SQL is not checked. -/
structure Usable (s : Clauses) : Prop where
  conditions : ∀ c ∈ s.conditions, Text.Filled c.column
  selected : ∀ column ∈ s.selected, Text.Filled column
  joins : ∀ j ∈ s.joins, Text.Filled j.table ∧ Text.Filled j.on
  order : ∀ o ∈ s.order, Text.Filled o.column

theorem Usable.extended {s : Clauses} {c : ClauseCall} (h : s.Usable) (hc : c.Acceptable) :
    (s.extended c).Usable where
  conditions x hx := by
    rcases List.mem_append.1 hx with hx | hx
    · exact h.conditions x hx
    · exact hc.condition? (Option.mem_toList.1 hx)
  selected x hx := by
    cases htexts : c.selection? with
    | none =>
      rw [Clauses.extended, htexts] at hx
      exact h.selected x hx
    | some texts =>
      rw [Clauses.extended, htexts] at hx
      exact hc.selection? htexts x hx
  joins x hx := by
    rcases List.mem_append.1 hx with hx | hx
    · exact h.joins x hx
    · exact hc.join? (Option.mem_toList.1 hx)
  order x hx := by
    rcases List.mem_append.1 hx with hx | hx
    · exact h.order x hx
    · exact hc.orderItem? (Option.mem_toList.1 hx)

theorem described_usable {calls : List ClauseCall} (h : ∀ c ∈ calls, c.Acceptable) :
    (described calls).Usable := by
  induction calls using List.reverseRecOn with
  | nil => constructor <;> nofun
  | append_singleton calls c ih =>
    rw [described_concat]
    exact (ih fun c hc => h c (List.mem_append_left _ hc)).extended (h c (by simp))

end Clauses

namespace Query

variable {c : ClauseCall}

theorem call_eq_ok (h : c.Acceptable) (q : Query) :
    q.call c = .ok { q with clauses := q.clauses.extended c } := by
  rw [call, Clauses.apply_eq_ok h]
  rfl

theorem exists_call_eq_error (h : ¬c.Acceptable) (q : Query) : ∃ e, q.call c = .error e := by
  obtain ⟨e, he⟩ := Clauses.exists_apply_eq_error h q.clauses
  exact ⟨e, by rw [call, he]; rfl⟩

/-- A chain of calls takes those before the first that is not acceptable. -/
theorem chain_described {q : Query} {before : List ClauseCall}
    (h : q.clauses = .described before) (calls : List ClauseCall) :
    (q.chain calls).1.clauses =
      .described (before ++ calls.takeWhile fun c => c.Acceptable) := by
  induction calls generalizing q before with
  | nil => simpa [chain] using h
  | cons c rest ih =>
    by_cases hc : c.Acceptable
    · have hnext : q.clauses.extended c = .described (before ++ [c]) := by
        rw [h, Clauses.described_concat]
      have hrest := @ih { q with clauses := q.clauses.extended c } _ hnext
      simp [chain, call_eq_ok hc, hrest, hc]
    · obtain ⟨e, he⟩ := exists_call_eq_error hc q
      simp [chain, he, hc, h]

end Query

end FluentQuery
