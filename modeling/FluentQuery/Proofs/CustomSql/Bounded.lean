import FluentQuery.Proofs.CustomSql.Rendered
import FluentQuery.Proofs.CustomSql.Verbatim
import FluentQuery.Proofs.Reading.Outline
import FluentQuery.Proofs.Statement.Counting
import FluentQuery.Proofs.Terminal.Sent

/-!
# Limits behind custom SQL

Reading one row, or a page, puts a limit behind the statement of a query, whether its caller has
set one or not. Custom SQL may end in a limit of its own. Only where it becomes a derived table,
as it always does to count its rows, does this limit stay in brackets; else two of them stand
side by side.

* **`Once`** — a text has at most one limit and one list of sort keys of its own;
* **`HasRoom`** — it still has if a limit follows;
* **`Clauses.hasRoom_iff`** — custom SQL and tidy clauses behind it have room exactly if it becomes
  a derived table or has no limit of its own;
* **`Session.custom_once_iff`** — what is sent for one row and for a page.
-/

namespace FluentQuery

namespace Reading

/-- A text has at most one limit, and at most once sort keys, outside quotes, comments and
brackets. -/
structure Once (t : String) : Prop where
  limit : openings .limit t ≤ 1
  order : openings .order t ≤ 1

/-- A text has room for a limit behind it. Where it leaves something open, what is behind it does
not get out of that. -/
structure HasRoom (t : String) : Prop where
  once : Once t
  limit : Closed t → openings .limit t = 0

/-! ## Bounds behind a text -/

/-- A limit and perhaps an offset, as they stand behind a statement. -/
def boundsText (limit : Nat) (offset : Option Nat) : String :=
  led " " (boundTexts "LIMIT" (some (limit : Int))) ++
    led " " (boundTexts "OFFSET" (offset.map Int.ofNat))

/-- A limit and perhaps an offset that can be written. -/
def BoundsFit (limit : Nat) (offset : Option Nat) : Prop :=
  fitsNumeral limit = true ∧ ∀ n ∈ offset, fitsNumeral n = true

instance (limit : Nat) (offset : Option Nat) : Decidable (BoundsFit limit offset) :=
  inferInstanceAs (Decidable (_ ∧ _))

/-- The words of a limit and an offset. -/
def boundWords (limit : Nat) (offset : Option Nat) : List (List Char) :=
  ["LIMIT".toList, (intText limit).toList] ++
    offset.toList.flatMap fun n => ["OFFSET".toList, (intText n).toList]

theorem boundsText_eq (limit : Nat) (offset : Option Nat) :
    boundsText limit offset = wordsText (boundWords limit offset) := by
  apply String.toList_injective
  cases offset <;>
    simp [boundsText, boundTexts, led, wordsText, boundWords, String.toList_append]

theorem plainWord_intText (n : Nat) : PlainWord (intText n).toList := by
  have htext : (intText n).toList = Nat.toDigits 10 n := by
    unfold intText
    rw [if_neg (by omega), String.toList_ofList, Int.natAbs_natCast]
  have hdigits : ∀ c ∈ Nat.toDigits 10 n, c.isDigit = true := fun c hc =>
    Nat.isDigit_of_mem_toDigits (by decide) (by decide) hc
  rw [htext]
  cases hcs : Nat.toDigits 10 n with
  | nil => exact absurd hcs Nat.toDigits_ne_nil
  | cons c cs =>
    rw [hcs] at hdigits
    exact plainWord_digits hdigits

theorem plainWord_boundWords (limit : Nat) (offset : Option Nat) :
    ∀ w ∈ boundWords limit offset, PlainWord w := by
  have hlimit : PlainWord "LIMIT".toList := .of_check (by decide)
  have hoffset : PlainWord "OFFSET".toList := .of_check (by decide)
  cases offset with
  | none => simpa [boundWords] using ⟨hlimit, plainWord_intText limit⟩
  | some n =>
    simpa [boundWords] using
      ⟨hlimit, plainWord_intText limit, hoffset, plainWord_intText n⟩

theorem item_intText (n : Nat) :
    item (.word (intText n).toList) = .part (.word (intText n).toList) := by
  have hread : ReadsAs (intText n) [.word (intText n).toList] := by
    rw [readsAs_iff]
    exact run_plainWord (plainWord_intText n) [] []
  obtain ⟨ls, hls, -, hitems⟩ := intText_fragment n
  obtain rfl : [_] = ls := Option.some.inj (hread.symm.trans hls)
  have hlexemes : lexemesOf (intText n) = [.word (intText n).toList] := by
    unfold lexemesOf
    rw [show lexemes? (intText n) = some _ from hread]
    rfl
  rw [hlexemes] at hitems
  exact List.singleton_inj.mp hitems

/-- The words of bounds open a limit, and nothing else but an offset. -/
theorem clauseList_boundWords (limit : Nat) (offset : Option Nat) :
    clauseList (items ((boundWords limit offset).map .word)) =
      .limit :: offset.toList.map fun _ => .offset := by
  have hbound : ∀ {w : List Char} {c : Clause} (n : Nat), item (.word w) = .opens c →
      (∀ y, pairItems (.word w) y = none) →
      clauseList (items [.word w, .word (intText n).toList]) = [c] := by
    intro w c n hword hpair
    simp [items, hpair, hword, item_intText, clauseList]
  have hlimit := hbound (w := "LIMIT".toList) limit rfl fun _ => rfl
  cases offset with
  | none => exact hlimit
  | some m =>
    show clauseList (items ([.word "LIMIT".toList, .word (intText limit).toList] ++
      [.word "OFFSET".toList, .word (intText m).toList])) = _
    rw [items_append _ (fun y hy => by cases hy; rfl), clauseList_append, hlimit,
      hbound (w := "OFFSET".toList) m rfl fun _ => rfl]
    rfl

variable {t : String}

theorem once_append_bounds_iff (limit : Nat) (offset : Option Nat) :
    Once (t ++ boundsText limit offset) ↔ HasRoom t := by
  have hopenings : ∀ c, openings c (t ++ boundsText limit offset) = openings c t +
      if Closed t then (Clause.limit :: offset.toList.map fun _ => .offset).count c else 0 := by
    intro c
    rw [boundsText_eq, openings_append_words (plainWord_boundWords limit offset)
      (fun y hy => by cases hy; rfl), clauseList_boundWords]
  have hlimit : (Clause.limit :: offset.toList.map fun _ => .offset).count .limit = 1 := by
    cases offset <;> rfl
  have horder : (Clause.limit :: offset.toList.map fun _ => .offset).count .order = 0 := by
    cases offset <;> rfl
  have hone := hopenings .limit
  have hkept := hopenings .order
  rw [hlimit] at hone
  rw [horder, ite_self, Nat.add_zero] at hkept
  constructor
  · rintro ⟨hl, ho⟩
    rw [hone] at hl
    rw [hkept] at ho
    refine ⟨⟨by omega, ho⟩, fun hclosed => ?_⟩
    rw [if_pos hclosed] at hl
    omega
  · rintro ⟨⟨hl, ho⟩, hfree⟩
    refine ⟨?_, by rw [hkept]; exact ho⟩
    rw [hone]
    split
    · next hclosed => rw [hfree hclosed]
    · exact hl

theorem hasRoom_of_closed (h : Closed t) :
    HasRoom t ↔ openings .limit t = 0 ∧ openings .order t ≤ 1 := by
  constructor
  · rintro ⟨⟨-, horder⟩, hlimit⟩
    exact ⟨hlimit h, horder⟩
  · rintro ⟨hlimit, horder⟩
    exact ⟨⟨by omega, horder⟩, fun _ => hlimit⟩

/-! ## Derived tables -/

/-- The words behind a derived table. -/
def tableWords : List (List Char) := [['A', 'S'], ['t']]

theorem plainWord_tableWords : ∀ w ∈ tableWords, PlainWord w := by
  have has : PlainWord ['A', 'S'] := .of_check (by decide)
  have ht : PlainWord ['t'] := .of_check (by decide)
  simpa [tableWords] using ⟨has, ht⟩

theorem derived_eq (opening t : String) :
    opening ++ t ++ ") AS t" = opening ++ t ++ ")" ++ wordsText tableWords := by
  rw [String.append_assoc, String.append_assoc, String.append_assoc]
  rfl

/-- A statement over a derived table has none of the clauses of the table. -/
theorem openings_derived {opening : String} {front : List Lexeme} {c : Clause}
    (hopening : run {} opening.toList = State.inside front {}) (ht : Unbroken t)
    (hfront : (clauseList (items front)).count c = 0) :
    openings c (opening ++ t ++ ") AS t") = 0 := by
  obtain ⟨houtline, -⟩ := outline_between hopening ht
  have hinside : openings c (opening ++ t ++ ")") = 0 := by
    unfold openings
    rw [houtline]
    split
    · rw [items_append _ (fun y hy => by cases hy; rfl), clauseList_append, List.count_append,
        hfront]
      rfl
    · rwa [List.append_nil]
  rw [derived_eq, openings_append_words plainWord_tableWords (by decide), hinside,
    show clauseList (items (tableWords.map Lexeme.word)) = [] from rfl]
  simp

/-- The statement that counts the rows of another has no bounds and no sort keys of its own. -/
theorem once_counting (ht : Unbroken t) : Once ("SELECT COUNT(*) FROM (" ++ t ++ ") AS t") := by
  have hzero := fun {c} => @openings_derived t "SELECT COUNT(*) FROM ("
    [.word "SELECT".toList, .word "COUNT".toList, .group .round [.mark '*'],
      .word "FROM".toList] c rfl ht
  exact ⟨by rw [hzero (by decide)]; omega, by rw [hzero (by decide)]; omega⟩

theorem holds_derived {ls : List Lexeme} (h : ReadsAs t ls) :
    Holds ("SELECT * FROM (" ++ t ++ ") AS t")
      [.opens .select, .part (.mark '*'), .opens .source, .part (.group .round ls),
        .part (.word ['A', 'S']), .part (.word ['t'])] := by
  have hbetween : ReadsAs ("SELECT * FROM (" ++ t ++ ")")
      ([.word "SELECT".toList, .mark '*', .word "FROM".toList] ++ [.group .round ls]) :=
    h.between rfl
  rw [derived_eq]
  exact ⟨_, hbetween.append_words plainWord_tableWords, fun y hy => by cases hy; rfl, rfl⟩

theorem Holds.closed {its : List Item} (h : Holds t its) : Closed t := by
  obtain ⟨ls, hls, -⟩ := h
  exact ⟨ls, hls⟩

theorem Holds.openings {its : List Item} (h : Holds t its) (c : Clause) :
    openings c t = (clauseList its).count c := by
  obtain ⟨ls, hls, -, rfl⟩ := h
  rw [Reading.openings, outline_of_readsAs hls]

end Reading

open Reading

namespace Clauses

variable {s : Clauses} {sql : String} {found : Sql.Inspection}

/-! ## Statements over custom SQL -/

/-- A statement over custom SQL, without its sort keys and bounds. -/
def overCustom (s : Clauses) (found : Sql.Inspection) (sql : String) : String :=
  s.body (.ofCustomSql found s sql)

/-- Custom SQL that is to be followed is read as items. -/
theorem holds_customFront {its : List Item} (hsql : Holds sql its) (s : Clauses)
    (found : Sql.Inspection) : ∃ its', Holds (s.customFront found sql) its' := by
  obtain ⟨ls, hls, -⟩ := id hsql
  unfold customFront
  split
  · exact ⟨_, holds_derived hls⟩
  · exact ⟨its, hsql⟩

/-- A derived table keeps the clauses behind the filter in its brackets. -/
theorem openings_customFront {its : List Item} (hsql : Holds sql its) (found : Sql.Inspection)
    {c : Clause} (hc : 3 < c.rank) : openings c (s.customFront found sql) =
      if found = .setOperation ∧ (s.conditions ≠ [] ∨ s.joins ≠ []) then 0
      else openings c sql := by
  obtain ⟨ls, hls, -⟩ := hsql
  unfold customFront
  split
  · rw [(holds_derived hls).openings]
    cases c <;> first | rfl | exact absurd hc (by decide)
  · rfl

/-- Joins and conditions add nothing but joins and a filter. -/
theorem holds_body (htidy : s.Tidy) {head : Head} {its : List Item} (hhead : Holds head.sql its) :
    ∃ its', Holds (s.body head) its' ∧
      ∀ c : Clause, 3 < c.rank → openings c (s.body head) = openings c head.sql := by
  have hbody : Holds (s.body head) _ :=
    filter_appends htidy head.extendsWhere _ _ (joins_appends htidy _ _ hhead)
  refine ⟨_, hbody, fun c hc => ?_⟩
  have hjoins : (s.joins.map fun _ => Clause.join).count c = 0 := by
    rw [List.count_eq_zero]
    intro hmem
    obtain ⟨k, -, rfl⟩ := List.mem_map.mp hmem
    exact absurd hc (by decide)
  have hone : (if s.conditions.isEmpty || head.extendsWhere then [] else [Clause.filter]).count c =
      0 := by
    rw [List.count_eq_zero]
    intro hmem
    split at hmem
    · cases hmem
    · rw [List.mem_singleton.mp hmem] at hc
      exact absurd hc (by decide)
  rw [hbody.openings, hhead.openings, clauseList_append, clauseList_append, List.count_append,
    List.count_append, (joins_opens s.joins).1, (filterItems_opens head.extendsWhere).1, hjoins,
    hone]
  simp

/-- **Custom SQL with tidy joins and conditions** behind it has room for a limit exactly if it
becomes a derived table or has no limit of its own. -/
theorem hasRoom_iff (htidy : s.Tidy) {its : List Item} (hsql : Holds sql its)
    (found : Sql.Inspection) :
    HasRoom (s.overCustom found sql) ↔
      found = .setOperation ∧ (s.conditions ≠ [] ∨ s.joins ≠ []) ∨
        openings .limit sql = 0 ∧ openings .order sql ≤ 1 := by
  obtain ⟨its', hfront⟩ := holds_customFront hsql s found
  rw [← ofCustomSql_front] at hfront
  obtain ⟨_, hbody, hopenings⟩ := holds_body htidy hfront
  rw [overCustom, hasRoom_of_closed hbody.closed, hopenings .limit (by decide),
    hopenings .order (by decide), ofCustomSql_front,
    openings_customFront hsql found (by decide), openings_customFront hsql found (by decide)]
  split
  · next hwrapped => simp [hwrapped]
  · next hplain => simp [hplain]

/-- Clauses over custom SQL, with neither sort keys nor bounds. -/
structure UnpagedOver (s : Clauses) (sql : String) : Prop where
  custom : s.customSql = .text sql
  ne_empty : sql ≠ ""
  order : s.order = []
  limit : s.limit = none
  offset : s.offset = none

/-- With a limit and perhaps an offset for its bounds, the statement has them behind it if they can be
written, and else there is none. -/
theorem UnpagedOver.selectBy (h : s.UnpagedOver sql) (inspector : Inspector) (table : Value)
    (limit : Nat) (offset : Option Nat) :
    (s.bounded (some limit) offset).selectBy inspector table {} =
      if BoundsFit limit offset then
        .ok ⟨s.overCustom (inspector sql) sql ++ boundsText limit offset, s.params⟩
      else .error .unwritable := by
  have hcustom : (s.bounded (some limit) offset).customSql = .text sql := h.custom
  have hoffset : (s.bounded (some limit) offset).offset = offset := by
    simp [bounded, h.offset]
  rw [selectBy_text hcustom h.ne_empty]
  split
  · next hfits =>
    obtain ⟨hlimit, hfits⟩ := hfits
    rw [selectOver_eq_ok_iff]
    refine ⟨some limit, offset.map Int.ofNat, ⟨.inl ⟨rfl, rfl⟩, ?_⟩, ⟨.inl ⟨rfl, ?_⟩, ?_⟩, ?_⟩
    · rintro n ⟨⟩
      exact hlimit
    · rw [hoffset]
    · intro n hn
      obtain ⟨m, hm, rfl⟩ := Option.mem_map.mp hn
      exact hfits m hm
    · have hnone : (s.bounded (some limit) offset).orderParts = [] := by
        simp [orderParts, bounded, h.order]
      unfold tail
      rw [if_pos rfl, hnone, show led " " [] = "" from rfl, String.empty_append]
      rfl
  · next hfits =>
    -- The bounds are the query's own now, and it has no others.
    refine (selectOver_own_written _ rfl rfl _).2 fun hown => hfits ?_
    obtain ⟨hlimit, hall⟩ := Bool.and_eq_true_iff.mp hown
    rw [hoffset] at hall
    exact ⟨hlimit, (Option.all_eq_true _ _).mp hall⟩

theorem UnpagedOver.countBy (h : s.UnpagedOver sql) (inspector : Inspector) (table : Value) :
    s.countBy inspector table = .ok (countOf ⟨s.overCustom (inspector sql) sql, s.params⟩) := by
  have hwithout : s.withoutPaging.customSql = .text sql := h.custom
  unfold Clauses.countBy
  rw [if_pos (isCustom_of_text h.custom h.ne_empty), selectBy_text hwithout h.ne_empty,
    selectOver_withoutPaging]
  rfl

end Clauses

/-! ## What is sent -/

namespace Query

/-- The statement of a query over custom SQL, without its sort keys and bounds. -/
def overCustom (q : Query) (sql : String) : String :=
  q.clauses.overCustom (Compile.inspector q.dialect sql) sql

variable {q : Query} {sql : String}

theorem built_overCustom (h : q.clauses.UnpagedOver sql) (c : Configuration) (table : Value)
    (limit : Nat) (offset : Option Nat) : (q.bounded (some limit) offset).built c table =
      (Compile.underSettings c (if BoundsFit limit offset then
          .ok ⟨q.overCustom sql ++ boundsText limit offset, q.clauses.params⟩
        else .error .unwritable)).map .statement :=
  congrArg (fun r => (Compile.underSettings c r).map Reply.statement)
    (h.selectBy (Compile.inspector q.dialect) table limit offset)

theorem counting_overCustom (h : q.clauses.UnpagedOver sql) (table : Value) :
    q.statement table .count = .ok (Clauses.countOf ⟨q.overCustom sql, q.clauses.params⟩) :=
  h.countBy (Compile.inspector q.dialect) table

end Query

namespace Session

variable {s : Session} {name adapter sql : String} {q : Query} {a : Adapter}

/-- **Custom SQL with bounds of its own.** Over custom SQL of a query that has neither sort keys nor
bounds, reading one row sends the statement with a limit behind it; a page that the settings allow
sends the statement that counts rows, and then the one with the limit and the offset of the page,
or neither where a bound of the page cannot be written. The counting statement has at most one
limit, and at most once sort keys, outside brackets. The others do exactly if the statement has room
for a limit. For custom SQL that can be read as a whole, and tidy texts of the caller, this is so
exactly if it becomes a derived table, as a set operation does that joins or conditions follow, or
else has no limit and at most once sort keys of its own. -/
theorem custom_once_iff (hq : s.queries.lookup name = some q)
    (ha : s.adapters.lookup adapter = some a) (hunpaged : q.clauses.UnpagedOver sql)
    (table : Value) (type : Option Schema) :
    s.Works name adapter (.fetchOne table type) (Query.Reads
      ((Compile.underSettings s.configuration
        (.ok ⟨q.overCustom sql ++ boundsText 1 none, q.clauses.params⟩)).map .statement)) ∧
    (∀ (settings : Settings) (number size : Nat), s.configuration.settings.1 = .ok settings →
      Query.Admits settings (.int number) (.int size) →
      s.Works name adapter (.fetchPage table (.int number) (.int size) type) (Query.ReadsPage
        (.ok (Clauses.countOf ⟨q.overCustom sql, q.clauses.params⟩))
        (if BoundsFit size (some ((number - 1) * size)) then
          .ok (.statement ⟨q.overCustom sql ++ boundsText size (some ((number - 1) * size)),
            q.clauses.params⟩)
        else .error .unwritable))) ∧
    (Unbroken (q.overCustom sql) →
      Once (Clauses.countOf ⟨q.overCustom sql, q.clauses.params⟩).sql) ∧
    (∀ limit offset,
      Once (q.overCustom sql ++ boundsText limit offset) ↔ HasRoom (q.overCustom sql)) ∧
    ∀ its, Holds sql its → q.clauses.Tidy →
      (HasRoom (q.overCustom sql) ↔
        Compile.inspector q.dialect sql = .setOperation ∧
            (q.clauses.conditions ≠ [] ∨ q.clauses.joins ≠ []) ∨
          openings .limit sql = 0 ∧ openings .order sql ≤ 1) := by
  refine ⟨?_, fun settings number size hsettings hadmits => ?_, once_counting,
    fun limit offset => once_append_bounds_iff limit offset,
    fun its hsql htidy => Clauses.hasRoom_iff htidy hsql _⟩
  · have hone := Query.built_overCustom hunpaged s.configuration table 1 none
    rw [if_pos ⟨rfl, nofun⟩] at hone
    rw [← hone]
    exact works hq ha (Query.fetchOne_reads type _) fun _ _ h => h.statements
  · have hpage := Query.built_overCustom hunpaged s.configuration table size
      (some ((number - 1) * size))
    rw [Compile.underSettings_of_ok hsettings, apply_ite (Except.map Reply.statement)] at hpage
    have hworks : s.Works name adapter (.fetchPage table (.int number) (.int size) type) _ :=
      works hq ha (Query.fetchPage_reads type hsettings hadmits) fun _ _ h => h.statements
    rwa [Query.counting_overCustom hunpaged, hpage] at hworks

/-- The texts of the statements that the driver of an adapter has been handed. -/
def handedTexts (s : Session) (adapter : String) : List String :=
  match s.adapters.lookup adapter with
  | none => []
  | some a => a.calls.filterMap fun
    | .execute _ sql _ => some sql
    | _ => none

/-- A query over custom SQL that is sorted. -/
def sortedQuery : Query := { clauses := { customSql := .text "SELECT a FROM t ORDER BY a" } }

/-- A query over custom SQL that has a limit. -/
def limitedQuery : Query := { clauses := { customSql := .text "SELECT a FROM t LIMIT 5" } }

/-- A session with both queries, and an adapter whose driver counts seven rows. -/
def overBounds : Session where
  configuration := { kept := some {} }
  queries := [("sorted", sortedQuery), ("limited", limitedQuery)]
  adapters := [("a", {
    engine := .sqlite, options := .dict [], connection := some 0, connected := true, opened := 1
    driver := Script.driver
      { results := [{ answer := { columns := some ["n"], rows := [[.int 7]] } }] } })]

theorem custom_once_sorted :
    overBounds.Works "sorted" "a" (.fetchOne .null none)
      (Query.Reads (.ok (.statement ⟨"SELECT a FROM t ORDER BY a LIMIT 1", []⟩))) ∧
    overBounds.Works "sorted" "a" (.fetchPage .null (.int 2) (.int 10) none) (Query.ReadsPage
      (.ok ⟨"SELECT COUNT(*) FROM (SELECT a FROM t ORDER BY a) AS t", []⟩)
      (.ok (.statement ⟨"SELECT a FROM t ORDER BY a LIMIT 10 OFFSET 10", []⟩))) ∧
    Once "SELECT COUNT(*) FROM (SELECT a FROM t ORDER BY a) AS t" ∧
    Once "SELECT a FROM t ORDER BY a LIMIT 10 OFFSET 10" := by
  have htext : sortedQuery.overCustom "SELECT a FROM t ORDER BY a" =
      "SELECT a FROM t ORDER BY a" := by
    decide +kernel
  have hsql : Holds "SELECT a FROM t ORDER BY a" _ := ⟨_, rfl, by decide, rfl⟩
  obtain ⟨hone, hpage, hcount, honce, hroom⟩ := @custom_once_iff overBounds "sorted" "a"
    "SELECT a FROM t ORDER BY a" sortedQuery _ rfl rfl ⟨rfl, by decide, rfl, rfl, rfl⟩ .null none
  replace hroom := (hroom _ hsql ⟨by simp [sortedQuery], by simp [sortedQuery],
    by simp [sortedQuery]⟩).mpr (.inr ⟨by decide +kernel, by decide +kernel⟩)
  rw [htext] at hone hpage hcount honce hroom
  exact ⟨hone, hpage {} 2 10 rfl ⟨2, 10, rfl, rfl, by decide, by decide, fun most h => by cases h⟩,
    hcount hsql.closed.unbroken, (honce 10 (some 10)).mpr hroom⟩

/-- Over custom SQL that ends in a limit, reading one row and reading a page send a statement with
two of them. -/
theorem limit_behind_limit :
    overBounds.queries.lookup "limited" = some limitedQuery ∧
    limitedQuery.clauses.UnpagedOver "SELECT a FROM t LIMIT 5" ∧
    (overBounds.run (.terminal "limited" "a" (.fetchOne .null none))).2.handedTexts "a" =
      ["SELECT a FROM t LIMIT 5 LIMIT 1"] ∧
    ¬Once "SELECT a FROM t LIMIT 5 LIMIT 1" ∧
    (overBounds.run (.terminal "limited" "a"
      (.fetchPage .null (.int 1) (.int 10) none))).2.handedTexts "a" =
      ["SELECT COUNT(*) FROM (SELECT a FROM t LIMIT 5) AS t",
        "SELECT a FROM t LIMIT 5 LIMIT 10 OFFSET 0"] ∧
    ¬Once "SELECT a FROM t LIMIT 5 LIMIT 10 OFFSET 0" := by
  have hone : openings .limit "SELECT a FROM t LIMIT 5 LIMIT 1" = 2 := by decide +kernel
  have hpage : openings .limit "SELECT a FROM t LIMIT 5 LIMIT 10 OFFSET 0" = 2 := by
    decide +kernel
  refine ⟨rfl, ⟨rfl, by decide, rfl, rfl, rfl⟩, by decide +kernel, fun h => ?_,
    by decide +kernel, fun h => ?_⟩
  · have hle := h.limit
    omega
  · have hle := h.limit
    omega

end Session

end FluentQuery
