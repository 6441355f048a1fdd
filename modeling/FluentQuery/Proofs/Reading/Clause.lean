import FluentQuery.Proofs.Statement.Compiled
import FluentQuery.Proofs.Reading.Lexeme
import Mathlib.Data.List.Chain

/-!
# Clauses of a statement

The clauses of a statement are found by the words that open them, outside quotes and brackets.

* **`items`** — the lexemes of a text with the opening words told apart: GROUP BY and ORDER BY are
  two words, and the FROM of DISTINCT FROM opens nothing;
* **`IsSelect`** — a text is one SELECT statement with given clauses, perhaps ended by a semicolon;
* **`InOrder`** — clauses stand in the order of SQL, each at most once but for joins;
* **`Appends`** — what a text behind another adds to its items, whatever the other is.

A clause that is not of the ones that the builder knows (a set operation, a window, a lock) is
`foreign`, and nothing that has one is in order.
-/

namespace FluentQuery.Reading

/-- Clauses of a SELECT statement. -/
inductive Clause where
  | select
  | source
  | join
  | filter
  | grouping
  | groupFilter
  | order
  | limit
  | offset
  | foreign
  deriving DecidableEq

namespace Clause

/-- The place of a clause in a statement. -/
def rank : Clause → Nat
  | .select => 0
  | .source => 1
  | .join => 2
  | .filter => 3
  | .grouping => 4
  | .groupFilter => 5
  | .order => 6
  | .limit => 7
  | .offset => 8
  | .foreign => 9

/-- Whether a clause may stand directly behind another. -/
def mayFollow (a : Clause) : Clause → Bool
  | .join => a == .source || a == .join
  | .foreign => false
  | b => a.rank < b.rank

end Clause

/-- Clauses in the order of SQL. -/
def InOrder (cs : List Clause) : Prop :=
  cs.head? = some .select ∧ cs.IsChain fun a b => a.mayFollow b

/-! ## Items -/

/-- A lexeme, or the opening of a clause, or the end of a statement. -/
inductive Item where
  | opens (c : Clause)
  | part (x : Lexeme)
  | stop

/-- The words that open a clause. BY is one where neither GROUP nor ORDER is in front of it. -/
def clauseWords : List (String × Clause) :=
  [("SELECT", .select), ("FROM", .source), ("JOIN", .join), ("WHERE", .filter),
   ("HAVING", .groupFilter), ("LIMIT", .limit), ("OFFSET", .offset), ("UNION", .foreign),
   ("INTERSECT", .foreign), ("EXCEPT", .foreign), ("MINUS", .foreign), ("WINDOW", .foreign),
   ("QUALIFY", .foreign), ("FETCH", .foreign), ("FOR", .foreign), ("BY", .foreign)]

/-- What a lexeme is on its own. -/
def item : Lexeme → Item
  | .word cs =>
    match clauseWords.find? fun e => spells e.1 cs with
    | some e => .opens e.2
    | none => .part (.word cs)
  | .mark c => if c == ';' then .stop else .part (.mark c)
  | x => .part x

/-- What two lexemes are together, where they are more than each on its own. -/
def pairItems (x y : Lexeme) : Option (List Item) :=
  if x.isWord "GROUP" && y.isWord "BY" then some [.opens .grouping]
  else if x.isWord "ORDER" && y.isWord "BY" then some [.opens .order]
  else if x.isWord "DISTINCT" && y.isWord "FROM" then some [.part x, .part y]
  else none

/-- The items of lexemes. -/
def items : List Lexeme → List Item
  | [] => []
  | [x] => [item x]
  | x :: y :: rest =>
    match pairItems x y with
    | some its => its ++ items rest
    | none => item x :: items (y :: rest)

/-- Whether lexemes are read in the same way whatever is in front of them. -/
def StartsFree (ls : List Lexeme) : Prop :=
  ∀ y ∈ ls.head?, (y.isWord "BY" || y.isWord "FROM") = false

instance (ls : List Lexeme) : Decidable (StartsFree ls) :=
  inferInstanceAs (Decidable (∀ y ∈ ls.head?, (y.isWord "BY" || y.isWord "FROM") = false))

theorem pairItems_eq_none {x y : Lexeme} (hy : (y.isWord "BY" || y.isWord "FROM") = false) :
    pairItems x y = none := by
  rw [Bool.or_eq_false_iff] at hy
  simp [pairItems, hy.1, hy.2]

theorem items_append (a : List Lexeme) {b : List Lexeme} (hb : StartsFree b) :
    items (a ++ b) = items a ++ items b := by
  fun_induction items a with
  | case1 => rfl
  | case2 x =>
    cases b with
    | nil => rfl
    | cons y rest => simp [items, pairItems_eq_none (hb y rfl)]
  | case3 x y rest its hpair ih => simp [items, hpair, ih]
  | case4 x y rest hpair ih =>
    rw [List.cons_append, List.cons_append] at *
    simp only [items, hpair, ih, List.cons_append]

/-- The clauses that items open. -/
def clauseList (its : List Item) : List Clause :=
  its.filterMap fun
    | .opens c => some c
    | _ => none

theorem clauseList_append (a b : List Item) :
    clauseList (a ++ b) = clauseList a ++ clauseList b :=
  List.filterMap_append

/-- Items open given clauses and end no statement. -/
def Opens (its : List Item) (cs : List Clause) : Prop := clauseList its = cs ∧ .stop ∉ its

namespace Opens

theorem nil : Opens [] [] := ⟨rfl, List.not_mem_nil⟩

theorem clause (c : Clause) : Opens [.opens c] [c] := by
  refine ⟨rfl, fun h => ?_⟩
  cases List.mem_singleton.mp h

theorem append {a b : List Item} {cs ds : List Clause} (ha : Opens a cs) (hb : Opens b ds) :
    Opens (a ++ b) (cs ++ ds) := by
  refine ⟨?_, fun h => ?_⟩
  · rw [clauseList_append, ha.1, hb.1]
  · rcases List.mem_append.mp h with h | h
    · exact ha.2 h
    · exact hb.2 h

theorem parts (ls : List Lexeme) : Opens (ls.map .part) [] := by
  refine ⟨by simp [clauseList], fun h => ?_⟩
  obtain ⟨x, -, hx⟩ := List.mem_map.mp h
  cases hx

theorem flatMap {α : Type} {f : α → List Item} {c : Clause} {xs : List α}
    (h : ∀ x, Opens (f x) [c]) : Opens (xs.flatMap f) (xs.map fun _ => c) := by
  induction xs with
  | nil => exact nil
  | cons x xs ih => exact (h x).append ih

end Opens

/-! ## Texts -/

/-- The lexemes of a text; there are none where it cannot be read. -/
def lexemesOf (t : String) : List Lexeme := (lexemes? t).getD []

/-- A text is read as items, in the same way whatever is in front of it. -/
def Holds (t : String) (its : List Item) : Prop :=
  ∃ ls, ReadsAs t ls ∧ StartsFree ls ∧ items ls = its

/-- A text that neither opens a clause nor ends a statement. -/
def Fragment (t : String) : Prop := Holds t ((lexemesOf t).map .part)

/-- The clause that goes on behind a text. -/
def governing (t : String) : Option Clause := (clauseList (items (lexemesOf t))).getLast?

/-- A text is one SELECT statement with given clauses, and a semicolon may have ended it. -/
def IsSelect (t : String) (cs : List Clause) (ended : Bool) : Prop :=
  ∃ its, Holds t (its ++ if ended then [.stop] else []) ∧ Opens its cs ∧
    (its.head? = some (.opens .select) ∨ ∃ x, its.head? = some (.part x) ∧ x.isWord "WITH")

variable {a b t : String} {ia ib its : List Item}

theorem Holds.unique {its' : List Item} (h : Holds t its) (h' : Holds t its') : its = its' := by
  obtain ⟨ls, hls, -, rfl⟩ := h
  obtain ⟨ls', hls', -, rfl⟩ := h'
  obtain rfl : ls = ls' := Option.some.inj (hls.symm.trans hls')
  rfl

theorem Holds.governing (h : Holds t its) : governing t = (clauseList its).getLast? := by
  obtain ⟨ls, hls, -, rfl⟩ := h
  have hlexemes : lexemesOf t = ls := by
    unfold lexemesOf
    rw [show lexemes? t = some ls from hls]
    rfl
  rw [Reading.governing, hlexemes]

theorem StartsFree.append {la lb : List Lexeme} (ha : StartsFree la) (hb : StartsFree lb) :
    StartsFree (la ++ lb) := by
  cases la with
  | nil => exact hb
  | cons x rest => exact ha

theorem Holds.append (ha : Holds a ia) (hb : Holds b ib) : Holds (a ++ " " ++ b) (ia ++ ib) := by
  obtain ⟨la, hla, hfa, rfl⟩ := ha
  obtain ⟨lb, hlb, hfb, rfl⟩ := hb
  exact ⟨la ++ lb, hla.append hlb, hfa.append hfb, items_append la hfb⟩

theorem Holds.append_comma (ha : Holds a ia) (hb : Holds b ib) :
    Holds (a ++ ", " ++ b) (ia ++ .part (.mark ',') :: ib) := by
  obtain ⟨la, hla, hfa, rfl⟩ := ha
  obtain ⟨lb, hlb, hfb, rfl⟩ := hb
  have hcomma : StartsFree [.mark ','] := fun y hy => by cases hy; rfl
  refine ⟨la ++ .mark ',' :: lb, hla.append_comma hlb, hfa.append (hcomma.append hfb), ?_⟩
  show items (la ++ ([.mark ','] ++ lb)) = _
  rw [items_append la (hcomma.append hfb)]
  rw [items_append _ hfb]
  rfl

/-- A statement is not empty. -/
theorem IsSelect.ne_empty {cs : List Clause} {ended : Bool} (h : IsSelect t cs ended) : t ≠ "" := by
  rintro rfl
  obtain ⟨its, hholds, -, hstart⟩ := h
  have hnil : Holds "" [] := ⟨[], rfl, fun y hy => absurd hy (by simp), rfl⟩
  have hits : its = [] := (List.append_eq_nil_iff.mp (hholds.unique hnil)).1
  rw [hits] at hstart
  rcases hstart with h | ⟨x, h, -⟩ <;> cases h

/-- Whether items are those of one SELECT statement with given clauses that no semicolon ends. -/
def selectItems (cs : List Clause) (its : List Item) : Bool :=
  (match its with
    | .opens c :: _ => c == .select
    | .part x :: _ => x.isWord "WITH"
    | _ => false) &&
  (its.all fun
    | .stop => false
    | _ => true) &&
  clauseList its == cs

/-- Whether a text is such a statement. -/
def selectCheck (t : String) (cs : List Clause) : Bool :=
  match lexemes? t with
  | none => false
  | some ls => decide (StartsFree ls) && selectItems cs (items ls)

theorem IsSelect.of_check {cs : List Clause} (h : selectCheck t cs = true) :
    IsSelect t cs false := by
  unfold selectCheck at h
  cases hls : lexemes? t with
  | none => rw [hls] at h; cases h
  | some ls =>
    rw [hls] at h
    simp only [selectItems, Bool.and_eq_true, decide_eq_true_eq, beq_iff_eq] at h
    obtain ⟨hfree, ⟨hstart, hstop⟩, hclauses⟩ := h
    refine ⟨items ls, ⟨ls, hls, hfree, by simp⟩, ⟨hclauses, fun hmem => ?_⟩, ?_⟩
    · exact Bool.false_ne_true (List.all_eq_true.mp hstop .stop hmem)
    · cases hits : items ls with
      | nil => rw [hits] at hstart; cases hstart
      | cons y rest =>
        rw [hits] at hstart
        cases y with
        | opens c => exact .inl (by rw [List.head?_cons, eq_of_beq hstart])
        | part x => exact .inr ⟨x, rfl, hstart⟩
        | stop => cases hstart

example : IsSelect "SELECT a FROM t LEFT JOIN u ON u.b IS DISTINCT FROM t.b GROUP BY a"
    [.select, .source, .join, .grouping] false :=
  .of_check (by decide +kernel)

/-! ## What a text adds -/

/-- A text adds items to whatever it stands behind. -/
def Appends (text : String) (added : List Item) : Prop :=
  ∀ (t : String) (its : List Item), Holds t its → Holds (t ++ text) (its ++ added)

namespace Appends

variable {u v : String} {iu iv : List Item}

theorem nil : Appends "" [] := by
  intro t its h
  rwa [String.append_empty, List.append_nil]

theorem append (hu : Appends u iu) (hv : Appends v iv) : Appends (u ++ v) (iu ++ iv) := by
  intro t its h
  rw [← String.append_assoc, ← List.append_assoc]
  exact hv _ _ (hu t its h)

theorem blank (hb : Holds b ib) : Appends (" " ++ b) ib := by
  intro t its h
  rw [← String.append_assoc]
  exact h.append hb

theorem comma (hb : Holds b ib) : Appends (", " ++ b) (.part (.mark ',') :: ib) := by
  intro t its h
  rw [← String.append_assoc]
  exact h.append_comma hb

/-- What texts behind separators add, one after the other. -/
theorem led {α : Type} {separator : String} {text : α → String} {added : α → List Item}
    {xs : List α} (h : ∀ x ∈ xs, Appends (separator ++ text x) (added x)) :
    Appends (led separator (xs.map text)) (xs.flatMap added) := by
  induction xs with
  | nil => exact nil
  | cons x xs ih =>
    have hrest := ih fun y hy => h y (List.mem_cons_of_mem _ hy)
    exact (h x List.mem_cons_self).append hrest

end Appends

/-! ## Order -/

theorem rank_le_of_mayFollow {a b : Clause} (h : a.mayFollow b = true) : a.rank ≤ b.rank := by
  cases b <;> cases a <;> first | exact absurd h (by decide) | decide

/-- The last clause of a statement has the highest rank. -/
theorem InOrder.rank_le_last {cs : List Clause} {l c : Clause} (h : InOrder cs)
    (hlast : cs.getLast? = some l) (hc : c ∈ cs) : c.rank ≤ l.rank := by
  have hle : cs.IsChain fun a b => a.rank ≤ b.rank := h.2.imp fun a b => rank_le_of_mayFollow
  have : IsTrans Clause fun a b => a.rank ≤ b.rank := ⟨fun a b c => Nat.le_trans⟩
  rw [List.isChain_iff_pairwise] at hle
  obtain ⟨front, rfl⟩ := List.getLast?_eq_some_iff.mp hlast
  rcases List.mem_append.mp hc with hfront | hlast
  · exact (List.pairwise_append.mp hle).2.2 c hfront l List.mem_cons_self
  · rw [List.mem_singleton.mp hlast]

theorem source_of_join {a : Clause} {cs : List Clause}
    (h : (a :: cs).IsChain fun a b => a.mayFollow b) (ha : a ≠ .join) (hjoin : .join ∈ cs) :
    .source ∈ a :: cs := by
  induction cs generalizing a with
  | nil => exact absurd hjoin List.not_mem_nil
  | cons b cs ih =>
    obtain ⟨hab, hrest⟩ := List.isChain_cons_cons.mp h
    by_cases hb : b = .join
    · subst hb
      have hor : a = .source ∨ a = .join := by simpa [Clause.mayFollow] using hab
      rw [hor.resolve_right ha]
      exact List.mem_cons_self
    · have hmem := (List.mem_cons.mp hjoin).resolve_left fun heq => hb heq.symm
      exact List.mem_cons_of_mem _ (ih hrest hb hmem)

/-- Joins stand behind a source. -/
theorem InOrder.source_of_join {cs : List Clause} (h : InOrder cs) (hjoin : .join ∈ cs) :
    .source ∈ cs := by
  obtain ⟨hhead, hchain⟩ := h
  cases cs with
  | nil => cases hhead
  | cons a rest =>
    obtain rfl : a = .select := Option.some.inj hhead
    have hmem := (List.mem_cons.mp hjoin).resolve_left (by decide)
    exact Reading.source_of_join hchain (by decide) hmem

/-- Clauses behind others are in order if they go on from the last of those. -/
theorem inOrder_append_iff {cs ds : List Clause} {l : Clause} (hlast : cs.getLast? = some l)
    (h : InOrder cs) : InOrder (cs ++ ds) ↔ (l :: ds).IsChain fun a b => a.mayFollow b := by
  obtain ⟨front, rfl⟩ := List.getLast?_eq_some_iff.mp hlast
  obtain ⟨hhead, hchain⟩ := h
  have hhead' : (front ++ [l] ++ ds).head? = some .select := by
    cases front <;> exact hhead
  rw [InOrder, List.isChain_append, List.isChain_cons]
  constructor
  · rintro ⟨-, -, hds, hborder⟩
    exact ⟨hborder l (by simp), hds⟩
  · rintro ⟨hborder, hds⟩
    refine ⟨hhead', hchain, hds, fun x hx y hy => ?_⟩
    obtain rfl : x = l := by simpa using hx.symm
    exact hborder y hy

/-- No clause but a join stands twice. -/
theorem InOrder.not_mem_front {cs : List Clause} {c : Clause} (h : InOrder (cs ++ [c]))
    (hc : c ≠ .join) : c ∉ cs := by
  intro hmem
  obtain ⟨hhead, hchain⟩ := h
  obtain ⟨hfront, -, hborder⟩ := List.isChain_append.mp hchain
  cases hlast : cs.getLast? with
  | none =>
    rw [List.getLast?_eq_none_iff.mp hlast] at hmem
    exact absurd hmem List.not_mem_nil
  | some l =>
    have horder : InOrder cs := by
      refine ⟨?_, hfront⟩
      rwa [List.head?_append_of_ne_nil _ (List.ne_nil_of_mem hmem)] at hhead
    have hle := horder.rank_le_last hlast hmem
    have hlt : l.rank < c.rank := by
      have hfollow := hborder l hlast c rfl
      cases c <;> first | contradiction | exact of_decide_eq_true hfollow
    omega

/-- Clauses without sort keys and bounds. -/
def Unpaged (cs : List Clause) : Prop := .order ∉ cs ∧ .limit ∉ cs ∧ .offset ∉ cs

/-- The last clause of an unpaged statement is at most a filter of groups. -/
theorem InOrder.exists_last {cs : List Clause} (h : InOrder cs) (hunpaged : Unpaged cs) :
    ∃ l, cs.getLast? = some l ∧ l ∈ cs ∧ l.rank ≤ 5 := by
  obtain ⟨hhead, hchain⟩ := h
  cases hlast : cs.getLast? with
  | none =>
    rw [List.getLast?_eq_none_iff.mp hlast] at hhead
    cases hhead
  | some l =>
    have hmem := List.mem_of_getLast? hlast
    refine ⟨l, rfl, hmem, ?_⟩
    obtain ⟨front, rfl⟩ := List.getLast?_eq_some_iff.mp hlast
    -- A foreign clause would be the first one, or stand behind another.
    have hforeign : l ≠ .foreign := by
      rintro rfl
      cases hfront : front.getLast? with
      | none =>
        rw [List.getLast?_eq_none_iff.mp hfront] at hhead
        cases hhead
      | some a => cases (List.isChain_append.mp hchain).2.2 a hfront .foreign rfl
    obtain ⟨horder, hlimit, hoffset⟩ := hunpaged
    cases l <;> first | decide | contradiction

section

variable {cs : List Clause} {l : Clause} (h : InOrder cs) (hlast : cs.getLast? = some l)
  (hrank : l.rank ≤ 5)

include h hlast hrank

/-- Joins may follow where a source is the latest that a statement has, but for joins. -/
theorem InOrder.mayFollow_join_iff : l.mayFollow .join = true ↔
    .source ∈ cs ∧ .filter ∉ cs ∧ .grouping ∉ cs ∧ .groupFilter ∉ cs := by
  have hmem := List.mem_of_getLast? hlast
  have hle := fun {c} hc => h.rank_le_last (c := c) hlast hc
  constructor
  · intro hfollow
    have hlow : l.rank ≤ 2 := by cases l <;> first | decide | cases hfollow
    have hsource : .source ∈ cs := by
      cases l with
      | source => exact hmem
      | join => exact h.source_of_join hmem
      | _ => cases hfollow
    -- Each of the others has a higher rank than the last clause.
    refine ⟨hsource, fun hc => ?_, fun hc => ?_, fun hc => ?_⟩ <;>
      exact absurd (Nat.le_trans (hle hc) hlow) (by decide)
  · rintro ⟨hsource, hfilter, hgrouping, hgroupFilter⟩
    have hhigh := hle hsource
    cases l <;> first | rfl | contradiction

/-- A filter may follow where nothing stands that belongs behind it. -/
theorem InOrder.mayFollow_filter_iff : l.mayFollow .filter = true ↔
    .filter ∉ cs ∧ .grouping ∉ cs ∧ .groupFilter ∉ cs := by
  have hmem := List.mem_of_getLast? hlast
  have hle := fun {c} hc => h.rank_le_last (c := c) hlast hc
  constructor
  · intro hfollow
    have hlow : l.rank < 3 := of_decide_eq_true hfollow
    refine ⟨fun hc => ?_, fun hc => ?_, fun hc => ?_⟩ <;>
      exact absurd (Nat.lt_of_le_of_lt (hle hc) hlow) (by decide)
  · rintro ⟨hfilter, hgrouping, hgroupFilter⟩
    cases l <;> first | rfl | contradiction

/-- A filter is what goes on at the end where nothing behind it stands. -/
theorem InOrder.last_eq_filter_iff : l = .filter ↔
    .filter ∈ cs ∧ .grouping ∉ cs ∧ .groupFilter ∉ cs := by
  have hmem := List.mem_of_getLast? hlast
  have hle := fun {c} hc => h.rank_le_last (c := c) hlast hc
  constructor
  · rintro rfl
    refine ⟨hmem, fun hc => ?_, fun hc => ?_⟩ <;> exact absurd (hle hc) (by decide)
  · rintro ⟨hfilter, hgrouping, hgroupFilter⟩
    have hhigh := hle hfilter
    cases l <;> first | rfl | contradiction

end

/-! ## A statement that is added to -/

/-- Whatever is added to a statement, the result is one statement in order only if no semicolon
stands in between and the clauses go on in order. -/
theorem isSelect_append_iff {text : String} {added : List Item} {cs ds : List Clause}
    {ended : Bool} (hhead : IsSelect t cs ended) (horder : InOrder cs)
    (happends : Appends text added) (hadded : Opens added ds) :
    (∃ cs' ended', IsSelect (t ++ text) cs' ended' ∧ InOrder cs') ↔
      (added ≠ [] → ended = false) ∧ InOrder (cs ++ ds) := by
  obtain ⟨its, hholds, hopens, hstart⟩ := hhead
  have hall := happends _ _ hholds
  have hne : its ≠ [] := by
    rintro rfl
    rcases hstart with h | ⟨x, h, -⟩ <;> cases h
  have hboth : Opens (its ++ added) (cs ++ ds) := hopens.append hadded
  constructor
  · rintro ⟨cs', ended', ⟨its', hholds', hopens', -⟩, horder'⟩
    -- A text has one reading, so the items of the two statements are the same.
    have heq := hholds'.unique hall
    cases ended with
    | false =>
      refine ⟨fun _ => rfl, ?_⟩
      rw [if_neg Bool.false_ne_true, List.append_nil] at heq
      cases ended' with
      | false =>
        rw [if_neg Bool.false_ne_true, List.append_nil] at heq
        rw [← hboth.1, ← heq, hopens'.1]
        exact horder'
      | true =>
        refine absurd ?_ hboth.2
        rw [← heq]
        simp
    | true =>
      by_cases hnone : added = []
      · have hds : ds = [] := by rw [← hadded.1, hnone]; rfl
        rw [hds, List.append_nil]
        exact ⟨fun h => absurd hnone h, horder⟩
      · -- The semicolon of the head would be the one at the end, or inside the statement.
        exfalso
        obtain ⟨front, y, rfl⟩ := List.eq_nil_or_concat added |>.resolve_left hnone
        cases ended' with
        | false =>
          rw [if_neg Bool.false_ne_true, List.append_nil] at heq
          refine hopens'.2 ?_
          rw [heq]
          simp
        | true =>
          rw [List.concat_eq_append, ← List.append_assoc] at heq
          obtain ⟨-, hy⟩ := List.append_inj' heq rfl
          refine hadded.2 ?_
          rw [← List.singleton_inj.mp hy]
          simp
  · rintro ⟨hended, horder'⟩
    by_cases hnone : added = []
    · rw [hnone, List.append_nil] at hall
      exact ⟨cs, ended, ⟨its, hall, hopens, hstart⟩, horder⟩
    · rw [hended hnone, if_neg Bool.false_ne_true, List.append_nil] at hall
      refine ⟨cs ++ ds, false, ⟨its ++ added, ?_, hboth, ?_⟩, horder'⟩
      · simpa using hall
      · rwa [List.head?_append_of_ne_nil _ hne]

end FluentQuery.Reading
