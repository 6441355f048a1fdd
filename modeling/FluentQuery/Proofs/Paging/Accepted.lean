import Mathlib.Order.Bounds.Basic
import FluentQuery.Proofs.Paging.Built

/-!
# Pages that are refused

Building a page of integers first divides by its size and only then checks its fields, each of which
is complained about if it is too small. So a size of zero never comes to be checked.

* **`Schema.fitFields_issues`** — the issues of a record are those of its fields, in order;
* **`Page.shortfalls`** — what is wrong with the numbers of a page;
* **`Page.build_of_shortfalls`**, **`Page.build_size_zero`** — how building fails, for records of any
  type: with all that is wrong with the numbers, or with a division by zero;
* **`Page.built_exactly_iff`** — which numbers give a page, and how the others are refused.
-/

namespace FluentQuery

namespace Schema

/-- The issues of a fit. -/
def Fitted.issues : Fitted → List Issue
  | .ok _ => []
  | .error issues => issues

/-- A field finds a value in a row, which has certain issues. -/
def FieldGives (strict : Bool) (row : Entries) (field : String × Schema × Option Value)
    (issues : List Issue) : Prop :=
  ∃ v, row.get? (.text field.1) = some v ∧
    ((fit strict field.2.1 v).under field.1).issues = issues

theorem fitFields_issues {strict required : Bool} {row : Entries}
    {fields : List (String × Schema × Option Value)} {given : List (List Issue)}
    (h : List.Forall₂ (FieldGives strict row) fields given) :
    (fitFields strict required row fields).2 = given.flatten := by
  induction h with
  | nil => simp [fitFields]
  | @cons field here fields given hhere _ ih =>
    obtain ⟨name, schema, default⟩ := field
    obtain ⟨v, hv, rfl⟩ := hhere
    simp only at hv
    cases hfit : (fit strict schema v).under name with
    | ok w => simp [fitFields, hv, hfit, ih, Fitted.issues]
    | error issues => simp [fitFields, hv, hfit, ih, Fitted.issues]

/-- What is wrong with a number under a name that is to be at least a bound. -/
def shortfall (name : String) (bound n : Int) : List Issue :=
  if n < bound then [⟨[name], .belowBound bound⟩] else []

theorem shortfall_eq_nil_iff {name : String} {bound n : Int} :
    shortfall name bound n = [] ↔ bound ≤ n := by
  unfold shortfall
  split <;> simp <;> omega

theorem mem_shortfall {name : String} {bound n : Int} (h : n < bound) :
    ⟨[name], .belowBound bound⟩ ∈ shortfall name bound n := by
  simp [shortfall, h]

theorem fieldGives_shortfall {strict : Bool} {row : Entries} {name : String} {bound n : Int}
    {default : Option Value} (h : row.get? (.text name) = some (.int n)) :
    FieldGives strict row (name, .atLeast bound .int, default) (shortfall name bound n) := by
  refine ⟨_, h, ?_⟩
  unfold shortfall
  split
  · next hlow =>
    rw [fit, fit]
    simp only [Convert.toInt, fitScalar, if_pos hlow]
    rfl
  · next hhigh =>
    rw [fit_atLeast_int strict (Int.not_lt.mp hhigh)]
    rfl

end Schema

namespace Page

open Schema

/-! ## Fields of a page -/

/-- What is wrong with the numbers of a page. -/
def shortfalls (p : Page) : List Issue :=
  shortfall "total" 0 p.total ++ shortfall "page_no" 1 p.pageNo ++
    shortfall "page_size" 1 p.pageSize ++ shortfall "pages" 0 p.pages

theorem shortfalls_eq_nil_iff {p : Page} :
    p.shortfalls = [] ↔ 0 ≤ p.total ∧ 1 ≤ p.pageNo ∧ 1 ≤ p.pageSize ∧ 0 ≤ p.pages := by
  simp [shortfalls, shortfall_eq_nil_iff]

/-- What is wrong with the records of a page of some type. -/
def recordIssues (of : Option Schema) (records : List Value) : List Issue :=
  ((fit false (.list (of.getD .any)) (.list records)).under "records").issues

theorem fitFields_page_issues (of : Option Schema) (p : Page) :
    (fitFields false true p.entries (columns of)).2 =
      recordIssues of p.records ++ p.shortfalls := by
  have hgiven : (fitFields false true p.entries (columns of)).2 =
      [recordIssues of p.records, shortfall "total" 0 p.total, shortfall "page_no" 1 p.pageNo,
        shortfall "page_size" 1 p.pageSize, shortfall "pages" 0 p.pages, []].flatten := by
    refine fitFields_issues (.cons ⟨_, rfl, rfl⟩ (.cons (fieldGives_shortfall rfl)
      (.cons (fieldGives_shortfall rfl) (.cons (fieldGives_shortfall rfl)
        (.cons (fieldGives_shortfall rfl) (.cons ⟨_, rfl, ?_⟩ .nil))))))
    rw [fit_bool]
    rfl
  simp [hgiven, shortfalls]

/-- A page with something wrong with its numbers does not fit. -/
theorem fit_of_shortfalls (of : Option Schema) {p : Page} (h : p.shortfalls ≠ []) :
    (schema of).fit false (.dict p.entries) =
      .error (recordIssues of p.records ++ p.shortfalls) := by
  have hissues := fitFields_page_issues of p
  have hne : recordIssues of p.records ++ p.shortfalls ≠ [] := by simp [h]
  rw [schema_columns, fit_model_ignore]
  cases hfields : fitFields false true p.entries (columns of) with
  | mk found issues =>
    rw [hfields] at hissues
    simp only at hissues
    subst hissues
    cases hboth : recordIssues of p.records ++ p.shortfalls with
    | nil => exact absurd hboth hne
    | cons => rfl

/-! ## Building -/

variable {of : Option Schema} {records : List Value} {total number size : Int}

theorem build_of_shortfalls (hsize : size ≠ 0)
    (h : (drawn records total number size).shortfalls ≠ []) :
    build of (.list records) (.int total) (.int number) (.int size) =
      .error (.invalid ⟨title of,
        recordIssues of records ++ (drawn records total number size).shortfalls⟩) := by
  rw [build_drawn hsize, fit_of_shortfalls of h]
  rfl

/-- A total is divided by a size of zero before any field is checked. -/
theorem build_size_zero (of : Option Schema) (records : Value) (total : Int) (number : Value) :
    build of records (.int total) number (.int 0) = .error (.misuse (.divisionByZero false)) := rfl

/-- The number of pages of a size that makes sense is the least that holds the total. -/
theorem isLeast_fdiv (total : Int) (hsize : 1 ≤ size) :
    IsLeast {k : Int | total ≤ k * size} ((total + size - 1).fdiv size) := by
  have hpos : 0 < size := by omega
  rw [Int.fdiv_eq_ediv_of_nonneg _ hpos.le]
  constructor
  · have hupper := Int.lt_ediv_add_one_mul_self (total + size - 1) hpos
    rw [Int.add_mul] at hupper
    show total ≤ _
    omega
  · intro k hk
    have hk : total ≤ k * size := hk
    apply Int.le_of_lt_add_one
    rw [Int.ediv_lt_iff_lt_mul hpos, Int.add_mul]
    omega

/-- A page is followed by another exactly if there are more pages than its number. -/
theorem mul_lt_iff_lt_pages {pages : Int} (hsize : 1 ≤ size)
    (h : IsLeast {k : Int | total ≤ k * size} pages) :
    number * size < total ↔ number < pages := by
  constructor
  · intro hmore
    by_contra hlast
    have hholds : total ≤ pages * size := h.1
    have hmono : pages * size ≤ number * size :=
      Int.mul_le_mul_of_nonneg_right (by omega) (by omega)
    omega
  · intro hmore
    by_contra hholds
    have hleast : pages ≤ number := h.2 (Int.not_lt.mp hholds)
    omega

/-- The numbers of a page make sense. -/
def Sensible (total number size : Int) : Prop := 0 ≤ total ∧ 1 ≤ number ∧ 1 ≤ size

/-- Issues name each of the numbers of a page that is too small. -/
structure NamesOffending (issues : List Issue) (total number size : Int) : Prop where
  total : total < 0 → ⟨["total"], .belowBound 0⟩ ∈ issues
  number : number < 1 → ⟨["page_no"], .belowBound 1⟩ ∈ issues
  size : size < 1 → ⟨["page_size"], .belowBound 1⟩ ∈ issues

theorem sensible_of_shortfalls (h : (drawn records total number size).shortfalls = []) :
    Sensible total number size := by
  obtain ⟨htotal, hnumber, hsize, -⟩ := shortfalls_eq_nil_iff.mp h
  exact ⟨htotal, hnumber, hsize⟩

theorem shortfalls_names (of : Option Schema) :
    NamesOffending (recordIssues of records ++ (drawn records total number size).shortfalls)
      total number size := by
  constructor <;> intro h <;> simp [shortfalls, drawn, mem_shortfall h]

/-- **Which numbers give a page**, for every list of records and all integers. A page is built
exactly if the total is not negative and number and size are positive; it has the records and the
numbers, the least number of pages that holds the total, and another page follows exactly if there
are more pages than its number. Other numbers are refused with issues that name each one that is
too small, exactly if the size is not zero; by a size of zero the total is divided. -/
theorem built_exactly_iff (records : List Value) (total number size : Int) :
    ((∃ p, build none (.list records) (.int total) (.int number) (.int size) = .ok p) ↔
      Sensible total number size) ∧
    (∀ p, build none (.list records) (.int total) (.int number) (.int size) = .ok p →
      p.records = records ∧ p.total = total ∧ p.pageNo = number ∧ p.pageSize = size ∧
        IsLeast {k : Int | total ≤ k * size} p.pages ∧ (p.hasNext = true ↔ number < p.pages)) ∧
    (¬Sensible total number size →
      ((∃ issues, build none (.list records) (.int total) (.int number) (.int size) =
          .error (.invalid ⟨"Page", issues⟩) ∧ NamesOffending issues total number size) ↔
        size ≠ 0)) ∧
    (size = 0 → build none (.list records) (.int total) (.int number) (.int size) =
      .error (.misuse (.divisionByZero false))) := by
  by_cases hsensible : Sensible total number size
  · have hsize : 1 ≤ size := hsensible.2.2
    have hleast := isLeast_fdiv total hsize
    have hbuilt : build none (.list records) (.int total) (.int number) (.int size) =
        .ok (drawn records total number size) :=
      build_of_fits (fit_list_any false records) hsensible.1 hsensible.2.1 hsize
    refine ⟨⟨fun _ => hsensible, fun _ => ⟨_, hbuilt⟩⟩, ?_, fun h => absurd hsensible h, by omega⟩
    intro p hp
    rw [hbuilt] at hp
    cases hp
    exact ⟨rfl, rfl, rfl, rfl, hleast,
      decide_eq_true_iff.trans (mul_lt_iff_lt_pages hsize hleast)⟩
  · by_cases hzero : size = 0
    · subst hzero
      have hbuilt := build_size_zero none (.list records) total (.int number)
      simp [hbuilt, hsensible]
    · have hbuilt : build none (.list records) (.int total) (.int number) (.int size) = _ :=
        build_of_shortfalls hzero fun h => hsensible (sensible_of_shortfalls h)
      refine ⟨?_, ?_, fun _ => ⟨fun _ => hzero, fun _ => ⟨_, hbuilt, shortfalls_names none⟩⟩,
        fun h => absurd h hzero⟩
      · simp [hbuilt, hsensible]
      · simp [hbuilt]

/-- A size of zero, though it is too small, is not named: the total is divided by it. -/
theorem size_zero_divides :
    ¬Sensible 10 1 0 ∧
      build none (.list []) (.int 10) (.int 1) (.int 0) = .error (.misuse (.divisionByZero false)) ∧
      ¬∃ issues, build none (.list []) (.int 10) (.int 1) (.int 0) =
        .error (.invalid ⟨"Page", issues⟩) := by
  have hbuilt := build_size_zero none (.list []) 10 (.int 1)
  simp [hbuilt, Sensible]

end Page

end FluentQuery
