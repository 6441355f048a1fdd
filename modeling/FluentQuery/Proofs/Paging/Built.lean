import Mathlib.Algebra.Order.Floor.Div
import Mathlib.Algebra.Order.Ring.Rat
import Mathlib.Data.List.Forall2
import Mathlib.Tactic.NormNum
import FluentQuery.Page.Basic

/-!
# Pages built from numbers

A page of a list of records, with a total, a number and a size that make sense, is always built. Its
records are the ones given, the number of pages is the total divided by the size and rounded up
(`⌈/⌉`), and another page follows exactly if there are more pages than its number.

* **`Schema.fitFields_of_fits`** — a record fits if each of its fields has a value that does;
* **`Page.drawn`**, **`Page.build_of_fits`** — the page that is built of integers, if the records
  fit their type and the numbers their bounds;
* **`Page.build_eq`** — the page that is built of numbers that make sense.
-/

namespace FluentQuery

namespace Schema

/-- A field finds a value in a row and makes it fit. -/
def FieldFits (strict : Bool) (row : Entries) (field : String × Schema × Option Value)
    (found : String × Value) : Prop :=
  field.1 = found.1 ∧ ∃ v, row.get? (.text field.1) = some v ∧
    fit strict field.2.1 v = .ok found.2

theorem fitFields_of_fits {strict required : Bool} {row : Entries}
    {fields : List (String × Schema × Option Value)} {found : List (String × Value)}
    (h : List.Forall₂ (FieldFits strict row) fields found) :
    fitFields strict required row fields = (found, []) := by
  induction h with
  | nil => simp [fitFields]
  | @cons field here fields found hhere _ ih =>
    obtain ⟨name, schema, default⟩ := field
    obtain ⟨name', w⟩ := here
    obtain ⟨rfl, v, hv, hfit⟩ := hhere
    simp only at hv hfit
    simp [fitFields, hv, hfit, ih, Fitted.under]

theorem fitItems_any (strict : Bool) (index : Nat) (vs : List Value) :
    fitItems (fit strict .any) index vs = .ok vs := by
  induction vs generalizing index with
  | nil => rfl
  | cons v vs ih =>
    rw [fitItems, ih, fit]
    rfl

theorem fit_list_any (strict : Bool) (vs : List Value) :
    fit strict (.list .any) (.list vs) = .ok (.list vs) := by
  rw [fit]
  show (fitItems (fit strict .any) 0 vs).map Value.list = _
  rw [fitItems_any]
  rfl

theorem fit_atLeast_int (strict : Bool) {bound n : Int} (h : bound ≤ n) :
    fit strict (.atLeast bound .int) (.int n) = .ok (.int n) := by
  rw [fit, fit]
  show (if n < bound then complain (.belowBound bound) else .ok (.int n)) = _
  rw [if_neg (Int.not_lt.mpr h)]

theorem fit_bool (strict : Bool) (b : Bool) : fit strict .bool (.bool b) = .ok (.bool b) := by
  rw [fit]
  rfl

/-- A record that ignores other columns is made of its fields, or has their issues. -/
theorem fit_model_ignore (strict own : Bool) (name : String)
    (fields : List (String × Schema × Option Value)) (row : Entries) :
    fit strict (.model name fields .ignore own) (.dict row) =
      match fitFields own true row fields with
      | (found, []) => .ok (.record .model name found)
      | (_, issues) => .error issues := by
  rw [fit]
  simp only [entries?, fitExtra, List.append_nil]
  cases fitFields own true row fields with
  | mk found issues => cases issues <;> rfl

end Schema

namespace Page

theorem pageCount_int (total : Int) {size : Int} (hsize : size ≠ 0) :
    pageCount (.int total) (.int size) = .ok (.int ((total + size - 1).fdiv size)) := by
  show ((if size = 0 then .error (.divisionByZero false)
    else .ok ((total + size - 1).fdiv size)) : Except Misuse Int).map Value.int = _
  rw [if_neg hsize]
  rfl

theorem isFollowed_int (total number size : Int) :
    isFollowed (.int total) (.int number) (.int size) = .ok (decide (number * size < total)) := by
  show Except.ok (decide ((0 : Int) < 0) ||
    ((0 : Int) == 0 && decide (((number * size : Int) : Rat) < (total : Rat)))) = _
  simp only [lt_irrefl, decide_false, beq_self_eq_true, Bool.true_and, Bool.false_or,
    Int.cast_lt]

/-- The page of some numbers, whether they make sense or not. -/
def drawn (records : List Value) (total number size : Int) : Page where
  records := records
  total := total
  pageNo := number
  pageSize := size
  pages := (total + size - 1).fdiv size
  hasNext := decide (number * size < total)

/-- The fields of a page with their values. -/
def fields (p : Page) : List (String × Value) :=
  [("records", .list p.records), ("total", .int p.total), ("page_no", .int p.pageNo),
    ("page_size", .int p.pageSize), ("pages", .int p.pages), ("has_next", .bool p.hasNext)]

theorem ofFields_fields (p : Page) : ofFields p.fields = p := rfl

/-- The entries that a page is fitted from. -/
def entries (p : Page) : Entries := p.fields.map fun f => (.text f.1, f.2)

/-- The fields of the type of pages of some records. -/
def columns (of : Option Schema) : List (String × Schema × Option Value) :=
  [("records", .list (of.getD .any), some (.list [])), ("total", .atLeast 0 .int, none),
    ("page_no", .atLeast 1 .int, none), ("page_size", .atLeast 1 .int, none),
    ("pages", .atLeast 0 .int, none), ("has_next", .bool, none)]

theorem schema_columns (of : Option Schema) :
    schema of = .model (title of) (columns of) .ignore false := rfl

section Building

variable {of : Option Schema} {records items : List Value} {total number size : Int}

/-- A page whose records fit and whose numbers make sense fits. -/
theorem fit_of_fits {p : Page}
    (hrecords : Schema.fit false (.list (of.getD .any)) (.list p.records) = .ok (.list items))
    (htotal : 0 ≤ p.total) (hnumber : 1 ≤ p.pageNo) (hsize : 1 ≤ p.pageSize)
    (hpages : 0 ≤ p.pages) :
    (schema of).fit false (.dict p.entries) =
      .ok (.record .model (title of) { p with records := items }.fields) := by
  have hfound : Schema.fitFields false true p.entries (columns of) =
      ({ p with records := items }.fields, []) := by
    refine Schema.fitFields_of_fits (.cons ?_ (.cons ?_ (.cons ?_ (.cons ?_ (.cons ?_
      (.cons ?_ .nil))))))
    · exact ⟨rfl, _, rfl, hrecords⟩
    · exact ⟨rfl, _, rfl, Schema.fit_atLeast_int false htotal⟩
    · exact ⟨rfl, _, rfl, Schema.fit_atLeast_int false hnumber⟩
    · exact ⟨rfl, _, rfl, Schema.fit_atLeast_int false hsize⟩
    · exact ⟨rfl, _, rfl, Schema.fit_atLeast_int false hpages⟩
    · exact ⟨rfl, _, rfl, Schema.fit_bool false p.hasNext⟩
  rw [schema_columns, Schema.fit_model_ignore, hfound]

/-- Building makes a page of what the fields fit to. -/
theorem build_drawn (hsize : size ≠ 0) :
    build of (.list records) (.int total) (.int number) (.int size) =
      match (schema of).fit false (.dict (drawn records total number size).entries) with
      | .ok (.record _ _ fields) => .ok (ofFields fields)
      | .ok _ => .error (.invalid ⟨title of, []⟩)
      | .error issues => .error (.invalid ⟨title of, issues⟩) := by
  unfold build
  rw [pageCount_int _ hsize, isFollowed_int]
  rfl

theorem build_of_fits
    (hrecords : Schema.fit false (.list (of.getD .any)) (.list records) = .ok (.list items))
    (htotal : 0 ≤ total) (hnumber : 1 ≤ number) (hsize : 1 ≤ size) :
    build of (.list records) (.int total) (.int number) (.int size) =
      .ok (drawn items total number size) := by
  have hpages : 0 ≤ (drawn records total number size).pages :=
    Int.fdiv_nonneg (by omega) (by omega)
  rw [build_drawn (by omega), fit_of_fits hrecords htotal hnumber hsize hpages]
  exact congrArg Except.ok (ofFields_fields _)

end Building

/-! ## Numbers that are not negative -/

/-- The page of some records among a total, by its number and size. -/
def ofRecords (records : List Value) (total number size : Nat) : Page where
  records := records
  total := total
  pageNo := number
  pageSize := size
  pages := (total ⌈/⌉ size : Nat)
  hasNext := decide (number < total ⌈/⌉ size)

/-- A page is followed by another exactly if there are more pages than its number. -/
theorem mul_lt_iff_lt_ceilDiv {total number size : Nat} (hsize : 1 ≤ size) :
    number * size < total ↔ number < total ⌈/⌉ size := by
  rw [← not_le, ← not_le, ceilDiv_le_iff_le_mul (by omega), Nat.mul_comm]

theorem fdiv_eq_ceilDiv {total size : Nat} (hsize : 1 ≤ size) :
    ((total : Int) + size - 1).fdiv size = (total ⌈/⌉ size : Nat) := by
  rw [Nat.ceilDiv_eq_add_pred_div]
  rw [Int.fdiv_eq_ediv_of_nonneg _ (by omega)]
  push_cast [show 1 ≤ total + size by omega]
  rfl

theorem drawn_eq (records : List Value) (total number : Nat) {size : Nat} (hsize : 1 ≤ size) :
    drawn records total number size = ofRecords records total number size := by
  have hnext : decide ((number : Int) * size < total) = decide (number < total ⌈/⌉ size) := by
    rw [decide_eq_decide, ← mul_lt_iff_lt_ceilDiv hsize]
    norm_cast
  simp only [drawn, ofRecords, fdiv_eq_ceilDiv hsize, hnext]

theorem build_eq (records : List Value) (total : Nat) {number size : Nat} (hnumber : 1 ≤ number)
    (hsize : 1 ≤ size) :
    build none (.list records) (.int total) (.int number) (.int size) =
      .ok (ofRecords records total number size) := by
  rw [← drawn_eq records total number hsize]
  exact build_of_fits (Schema.fit_list_any false records) (Int.natCast_nonneg total)
    (Int.ofNat_le.mpr hnumber) (Int.ofNat_le.mpr hsize)

end Page

end FluentQuery
