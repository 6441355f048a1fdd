import Mathlib.Data.List.Basic
import FluentQuery.Proofs.Statement.Compiled

/-!
# The words of a statement

Where every text of the clauses is a single word, the text of their statement is a list of words.

* **`words`** — the words of a text, between blanks;
* **`Clauses.Worded`** — every text of the clauses and of the table is a word;
* **`Clauses.written`** — the words of a statement, clause by clause;
* **`Clauses.words_selectFrom`** — the text of a statement over a table has these words.
-/

namespace FluentQuery

/-! ## Words -/

/-- The words of a text, between single blanks. -/
def words (text : String) : List String := (text.toList.splitOn ' ').map String.ofList

/-- A text without blanks and commas. -/
structure IsWord (w : String) : Prop where
  blank : ' ' ∉ w.toList
  comma : ',' ∉ w.toList

instance (w : String) : Decidable (IsWord w) :=
  decidable_of_iff (' ' ∉ w.toList ∧ ',' ∉ w.toList)
    ⟨fun h => ⟨h.1, h.2⟩, fun h => ⟨h.blank, h.comma⟩⟩

theorem words_of_not_mem {w : String} (h : ' ' ∉ w.toList) : words w = [w] := by
  unfold words
  rw [List.splitOn_eq_singleton h]
  simp

theorem words_append (a b : String) : words (a ++ " " ++ b) = words a ++ words b := by
  have hchars : (a ++ " " ++ b).toList = a.toList ++ ' ' :: b.toList := by simp
  unfold words
  rw [hchars, ← List.map_append]
  exact congrArg _ (List.splitOnP_append_cons _ _ (beq_self_eq_true ' '))

theorem words_cons {w : String} (h : ' ' ∉ w.toList) (text : String) :
    words (w ++ " " ++ text) = w :: words text := by
  rw [words_append, words_of_not_mem h]
  rfl

/-- Texts behind blanks add their words. -/
theorem words_led (text : String) (parts : List String) :
    words (text ++ led " " parts) = words text ++ parts.flatMap words := by
  induction parts generalizing text with
  | nil => simp [led]
  | cons p rest ih =>
    rw [led, ← String.append_assoc, ← String.append_assoc, ih, words_append, List.flatMap_cons,
      List.append_assoc]

/-! ## What is written, in words -/

/-- Every text of the clauses and of the table is a word. -/
structure Clauses.Worded (s : Clauses) (table : String) : Prop where
  table : IsWord table
  selected : ∀ c ∈ s.selected, IsWord c
  joins : ∀ j ∈ s.joins, IsWord j.table ∧ IsWord j.on
  conditions : ∀ c ∈ s.conditions, IsWord c.column
  order : ∀ o ∈ s.order, IsWord o.column

/-- Clauses up to what no statement over a table tells: no columns are all of them, and custom SQL
that counts as absent is none. -/
def Clauses.canonical (s : Clauses) : Clauses :=
  { s with selected := if s.selected.isEmpty then ["*"] else s.selected, customSql := .null }

namespace Written

/-- The columns in words: a comma behind each but the last. -/
def columns : List String → List String
  | [] => []
  | [c] => [c]
  | c :: rest => (c ++ ",") :: columns rest

/-- The joins in words. -/
def joins (js : List Join) : List String :=
  js.flatMap fun j => [j.kind.symbol, "JOIN", j.table, "ON", j.on]

/-- The conditions in words, the first behind one word and the others behind AND. -/
def conditions (lead : String) : List Condition → List String
  | [] => []
  | c :: rest => lead :: c.column :: c.operator.symbol :: "?" :: conditions "AND" rest

/-- The direction of a sort key. -/
def direction (ascending : Bool) : String := if ascending then "ASC" else "DESC"

/-- The sort keys in words: a comma behind each but the last. -/
def keys : List OrderItem → List String
  | [] => []
  | [o] => [o.column, direction o.ascending]
  | o :: rest => o.column :: (direction o.ascending ++ ",") :: keys rest

/-- All sort keys in words, behind ORDER BY. -/
def order (os : List OrderItem) : List String :=
  if os.isEmpty then [] else "ORDER" :: "BY" :: keys os

/-- A bound in words. -/
def bound (word : String) (n : Option Nat) : List String :=
  n.toList.flatMap fun n : Nat => [word, intText n]

end Written

/-- The statement of clauses over a table, in words. -/
def Clauses.written (s : Clauses) (table : String) : List String :=
  "SELECT" :: (Written.columns s.canonical.selected ++ "FROM" :: table ::
    (Written.joins s.joins ++ (Written.conditions "WHERE" s.conditions ++
      (Written.order s.order ++ (Written.bound "LIMIT" s.limit ++
        Written.bound "OFFSET" s.offset)))))

/-! ## The words of the parts -/

theorem JoinKind.symbol_blank (k : JoinKind) : ' ' ∉ k.symbol.toList := by
  cases k <;> decide

theorem Operator.symbol_blank (o : Operator) : ' ' ∉ o.symbol.toList := by
  cases o <;> decide

theorem Written.direction_blank (ascending : Bool) :
    ' ' ∉ (Written.direction ascending).toList := by
  cases ascending <;> decide

theorem intText_blank (n : Nat) : ' ' ∉ (intText n).toList := by
  unfold intText
  rw [if_neg (by omega), String.toList_ofList]
  intro h
  exact absurd (Nat.isDigit_of_mem_toDigits (by decide) (by decide) h) (by decide)

/-- A text with single blanks between its words. -/
theorem words_joinWith {ws : List String} (hws : ws ≠ []) (h : ∀ w ∈ ws, ' ' ∉ w.toList) :
    words (joinWith " " ws) = ws := by
  induction ws with
  | nil => exact absurd rfl hws
  | cons w rest ih =>
    have hw := h w List.mem_cons_self
    cases rest with
    | nil => exact words_of_not_mem hw
    | cons v more =>
      show words (w ++ " " ++ joinWith " " (v :: more)) = _
      rw [words_cons hw, ih (List.cons_ne_nil v more) fun u hu => h u (List.mem_cons_of_mem w hu)]

theorem words_columns {cs : List String} (hcs : cs ≠ []) (h : ∀ c ∈ cs, IsWord c) :
    words (joinWith ", " cs) = Written.columns cs := by
  induction cs with
  | nil => exact absurd rfl hcs
  | cons c rest ih =>
    have hc := (h c List.mem_cons_self).blank
    cases rest with
    | nil => exact words_of_not_mem hc
    | cons d more =>
      have hsplit : joinWith ", " (c :: d :: more) =
          (c ++ ",") ++ " " ++ joinWith ", " (d :: more) := String.ext (by simp [joinWith])
      have hmore := ih (List.cons_ne_nil d more) fun e he => h e (List.mem_cons_of_mem c he)
      rw [hsplit, words_cons (by simpa using hc), hmore]
      rfl

theorem words_join {j : Join} (htable : IsWord j.table) (hon : IsWord j.on) :
    words j.sql = [j.kind.symbol, "JOIN", j.table, "ON", j.on] := by
  have hsql : j.sql = joinWith " " [j.kind.symbol, "JOIN", j.table, "ON", j.on] :=
    String.ext (by simp [Join.sql, joinWith])
  rw [hsql, words_joinWith (List.cons_ne_nil _ _)]
  simp [j.kind.symbol_blank, htable.blank, hon.blank]

theorem words_condition {c : Condition} (hc : IsWord c.column) :
    words c.sql = [c.column, c.operator.symbol, "?"] := by
  have hsql : c.sql = joinWith " " [c.column, c.operator.symbol, "?"] :=
    String.ext (by simp [Condition.sql, joinWith])
  rw [hsql, words_joinWith (List.cons_ne_nil _ _)]
  simp [hc.blank, c.operator.symbol_blank]

/-- The filter behind its word, or the conditions behind another one. -/
theorem words_conditions {lead : String} (hlead : ' ' ∉ lead.toList) {cs : List Condition}
    (hcs : cs ≠ []) (h : ∀ c ∈ cs, IsWord c.column) :
    words (lead ++ " " ++ joinWith " AND " (cs.map Condition.sql)) =
      Written.conditions lead cs := by
  induction cs generalizing lead with
  | nil => exact absurd rfl hcs
  | cons c rest ih =>
    have hc := words_condition (h c List.mem_cons_self)
    cases rest with
    | nil =>
      rw [words_cons hlead]
      exact congrArg (lead :: ·) hc
    | cons d more =>
      -- What joins two conditions is the word that leads the second.
      have hsplit : joinWith " AND " ((c :: d :: more).map Condition.sql) =
          c.sql ++ " " ++ ("AND" ++ " " ++ joinWith " AND " ((d :: more).map Condition.sql)) :=
        String.ext (by simp [joinWith])
      have hand : ' ' ∉ "AND".toList := by decide
      have hmore := ih hand (List.cons_ne_nil d more) fun e he => h e (List.mem_cons_of_mem c he)
      rw [hsplit, words_cons hlead, words_append, hc, hmore]
      rfl

/-- The sort keys, each but the last before a comma. -/
theorem words_keys {os : List OrderItem} (hos : os ≠ []) (h : ∀ o ∈ os, IsWord o.column) :
    words (joinWith ", " (os.map OrderItem.sql)) = Written.keys os := by
  induction os with
  | nil => exact absurd rfl hos
  | cons o rest ih =>
    have ho := (h o List.mem_cons_self).blank
    have hdirection := Written.direction_blank o.ascending
    cases rest with
    | nil =>
      show words (o.column ++ " " ++ Written.direction o.ascending) = _
      rw [words_cons ho, words_of_not_mem hdirection]
      rfl
    | cons d more =>
      have hsplit : joinWith ", " ((o :: d :: more).map OrderItem.sql) =
          o.column ++ " " ++ ((Written.direction o.ascending ++ ",") ++ " " ++
            joinWith ", " ((d :: more).map OrderItem.sql)) :=
        String.ext (by simp [joinWith, OrderItem.sql, Written.direction])
      have hmore := ih (List.cons_ne_nil d more) fun e he => h e (List.mem_cons_of_mem o he)
      rw [hsplit, words_cons ho, words_cons (by simpa using hdirection), hmore]
      rfl

namespace Clauses

variable {s : Clauses} {t : String}

theorem words_projection (hs : s.Worded t) :
    words s.projection = Written.columns s.canonical.selected := by
  unfold projection canonical
  cases hselected : s.selected with
  | nil => exact words_of_not_mem (by decide)
  | cons c rest => exact words_columns (List.cons_ne_nil c rest) (hselected ▸ hs.selected)

theorem words_joinParts (hs : s.Worded t) : s.joinParts.flatMap words = Written.joins s.joins := by
  unfold joinParts Written.joins
  rw [List.flatMap_map]
  exact List.flatMap_congr fun j hj => words_join (hs.joins j hj).1 (hs.joins j hj).2

theorem words_filterParts (hs : s.Worded t) :
    (s.filterParts false).flatMap words = Written.conditions "WHERE" s.conditions := by
  unfold filterParts predicates
  cases hconditions : s.conditions with
  | nil => rfl
  | cons c rest =>
    have hword : ' ' ∉ "WHERE".toList := by decide
    have hrest := words_conditions hword (List.cons_ne_nil c rest) (hconditions ▸ hs.conditions)
    show words ("WHERE" ++ " " ++ _) ++ [] = _
    rw [List.append_nil, hrest]

theorem words_orderParts (hs : s.Worded t) :
    s.orderParts.flatMap words = Written.order s.order := by
  unfold orderParts Written.order
  cases horder : s.order with
  | nil => rfl
  | cons o rest =>
    have hkeys := words_keys (List.cons_ne_nil o rest) (horder ▸ hs.order)
    show words ("ORDER" ++ " " ++ ("BY" ++ " " ++ _)) ++ [] = _
    rw [List.append_nil, words_cons (by decide), words_cons (by decide), hkeys]
    rfl

theorem words_bound {word : String} (hword : ' ' ∉ word.toList) (own : Option Nat) :
    (boundTexts word (own.map Int.ofNat)).flatMap words = Written.bound word own := by
  cases own with
  | none => rfl
  | some n =>
    show words (word ++ " " ++ intText n) ++ [] = _
    rw [List.append_nil, words_cons hword, words_of_not_mem (intText_blank n)]
    rfl

/-- Where a statement over a table comes about, its words are those of the clauses. -/
theorem words_selectFrom (hs : s.Worded t) {st : Statement}
    (h : s.selectFrom (.text t) {} = .ok st) :
    words st.sql = s.written t ∧ st.params = s.params := by
  unfold selectFrom at h
  cases htable : tableText (.text t) with
  | error e => rw [htable] at h; cases h
  | ok text =>
    obtain rfl : text = t := tableText_eq_ok htable
    rw [htable] at h
    obtain ⟨limit, offset, hlimit, hoffset, rfl⟩ :=
      selectOver_eq_ok (show s.selectOver (.ofTable s text) {} = .ok st from h)
    obtain rfl := hlimit.own_of_null
    obtain rfl := hoffset.own_of_null
    refine ⟨?_, rfl⟩
    have hhead : (Head.ofTable s text).sql =
        "SELECT" ++ " " ++ (s.projection ++ " " ++ ("FROM" ++ " " ++ text)) :=
      String.ext (by simp [Head.ofTable])
    have hwords : words (Head.ofTable s text).sql =
        "SELECT" :: (Written.columns s.canonical.selected ++ ["FROM", text]) := by
      rw [hhead, words_cons (by decide), words_append, words_cons (by decide),
        words_of_not_mem hs.table.blank, words_projection hs]
    show words (_ ++ led " " s.joinParts ++ led " " (s.filterParts false) ++
      (led " " s.orderParts ++ led " " _ ++ led " " _)) = _
    rw [← String.append_assoc, ← String.append_assoc, words_led, words_led, words_led, words_led,
      words_led, hwords, words_joinParts hs, words_filterParts hs, words_orderParts hs,
      words_bound (by decide), words_bound (by decide)]
    simp [written]

end Clauses

end FluentQuery
