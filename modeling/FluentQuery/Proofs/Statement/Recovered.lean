import FluentQuery.Proofs.Statement.Values
import FluentQuery.Proofs.Statement.Words

/-!
# Clauses read back from their statement

Everything but the values can be read from the words of a statement again. Where a clause ends is
told by the number of words that a part has and by commas, so that no column or table is ever taken
for a keyword, whatever it is called.

* **`readSelect`** — the table and the clauses that a text was compiled from;
* **`readSelect_written`** — the reader finds the table and the clauses that are written;
* **`Clauses.select_loses_nothing`** — no others are compiled to the same statement.
-/

namespace FluentQuery

/-! ## The reader -/

/-- What stands in front of a comma at the end of a word. -/
def beforeComma? (w : String) : Option String :=
  if w.toList.getLast? = some ',' then some (String.ofList w.toList.dropLast) else none

/-- The kind of a join by its keyword. -/
def JoinKind.ofSymbol? (w : String) : Option JoinKind := all.find? fun k => k.symbol = w

/-- An operator by its symbol. -/
def Operator.ofSymbol? (w : String) : Option Operator := all.find? fun o => o.symbol = w

namespace Reader

/-- Reads one word, which must be a certain one. -/
def keyword? (w : String) : List String → Option (List String)
  | [] => none
  | v :: rest => if v = w then some rest else none

/-- Reads columns as long as a comma follows. -/
def columns : List String → List String × List String
  | [] => ([], [])
  | w :: rest =>
    match beforeComma? w with
    | some column => (column :: (columns rest).1, (columns rest).2)
    | none => ([w], rest)

/-- Reads joins as long as there is a kind of one. -/
def joins : List String → List Join × List String
  | kind :: join :: table :: on :: condition :: rest =>
    match JoinKind.ofSymbol? kind with
    | some k => (⟨k, table, condition⟩ :: (joins rest).1, (joins rest).2)
    | none => ([], kind :: join :: table :: on :: condition :: rest)
  | ws => ([], ws)

/-- Reads conditions, the first behind one word and the others behind AND; their values are not to
be read. -/
def conditions (lead : String) : List String → List Condition × List String
  | word :: column :: symbol :: mark :: rest =>
    match Operator.ofSymbol? symbol with
    | some operator =>
      if word = lead then
        (⟨column, operator, .null⟩ :: (conditions "AND" rest).1, (conditions "AND" rest).2)
      else ([], word :: column :: symbol :: mark :: rest)
    | none => ([], word :: column :: symbol :: mark :: rest)
  | ws => ([], ws)

/-- Reads sort keys as long as a comma follows. -/
def keys : List String → List OrderItem × List String
  | column :: direction :: rest =>
    match beforeComma? direction with
    | some d => (⟨column, d = "ASC"⟩ :: (keys rest).1, (keys rest).2)
    | none => ([⟨column, direction = "ASC"⟩], rest)
  | ws => ([], ws)

/-- Reads sort keys behind ORDER BY. -/
def order : List String → List OrderItem × List String
  | first :: second :: rest =>
    if first = "ORDER" then keys rest else ([], first :: second :: rest)
  | ws => ([], ws)

/-- Reads a bound behind its word. -/
def bound (lead : String) : List String → Option Nat × List String
  | word :: number :: rest =>
    if word = lead then (some (Nat.ofDigitChars 10 number.toList 0), rest)
    else (none, word :: number :: rest)
  | ws => (none, ws)

end Reader

/-- The table and the clauses that a text was compiled from, without values, if it can be read. -/
def readSelect (text : String) : Option (String × Clauses) := do
  let rest ← Reader.keyword? "SELECT" (words text)
  let (selected, rest) := Reader.columns rest
  let rest ← Reader.keyword? "FROM" rest
  match rest with
  | [] => none
  | table :: rest =>
    let (joins, rest) := Reader.joins rest
    let (conditions, rest) := Reader.conditions "WHERE" rest
    let (order, rest) := Reader.order rest
    let (limit, rest) := Reader.bound "LIMIT" rest
    let (offset, rest) := Reader.bound "OFFSET" rest
    if rest = [] then some (table, { conditions, selected, joins, order, limit, offset }) else none

/-! ## What a clause may begin with -/

/-- Words begin with one of some keywords, if there are any words. -/
def Begins (keywords : List String) (ws : List String) : Prop :=
  ∀ w, ws.head? = some w → w ∈ keywords

theorem Begins.nil {keywords : List String} : Begins keywords [] := fun _ h => nomatch h

theorem Begins.append {front back a b : List String} (hfront : Begins a front)
    (hback : Begins b back) : Begins (a ++ b) (front ++ back) := by
  intro w hw
  cases front with
  | nil => exact List.mem_append_right _ (hback w hw)
  | cons v rest => exact List.mem_append_left _ (hfront w hw)

theorem Begins.cons {w : String} {rest : List String} : Begins [w] (w :: rest) :=
  fun _ h => List.mem_singleton.mpr (Option.some.inj h).symm

theorem Begins.ne {keywords ws : List String} (h : Begins keywords ws) {k : String}
    (hk : k ∉ keywords) : ws.head? ≠ some k :=
  fun hw => hk (h k hw)

theorem Begins.bound (word : String) (n : Option Nat) : Begins [word] (Written.bound word n) := by
  cases n with
  | none => exact .nil
  | some n => exact .cons

theorem Begins.order (os : List OrderItem) : Begins ["ORDER"] (Written.order os) := by
  cases os with
  | nil => exact .nil
  | cons o rest => exact .cons

theorem Begins.conditions (lead : String) (cs : List Condition) :
    Begins [lead] (Written.conditions lead cs) := by
  cases cs with
  | nil => exact .nil
  | cons c rest => exact .cons

/-! ## Reading what is written -/

namespace Reader

theorem beforeComma?_comma {w : String} : beforeComma? (w ++ ",") = some w := by
  unfold beforeComma?
  simp

theorem beforeComma?_word {w : String} (h : ',' ∉ w.toList) : beforeComma? w = none := by
  unfold beforeComma?
  rw [if_neg]
  intro hlast
  exact h (List.mem_of_getLast? hlast)

theorem columns_written {cs : List String} (hcs : cs ≠ []) (h : ∀ c ∈ cs, ',' ∉ c.toList)
    (rest : List String) : columns (Written.columns cs ++ rest) = (cs, rest) := by
  induction cs with
  | nil => exact absurd rfl hcs
  | cons c more ih =>
    cases more with
    | nil =>
      show columns (c :: rest) = _
      unfold columns
      rw [beforeComma?_word (h c (List.mem_singleton.mpr rfl))]
    | cons d more =>
      have hmore := ih (List.cons_ne_nil d more) fun e he => h e (List.mem_cons_of_mem c he)
      show columns ((c ++ ",") :: (Written.columns (d :: more) ++ rest)) = _
      unfold columns
      rw [beforeComma?_comma, hmore]

theorem ofSymbol?_joinKind (k : JoinKind) : JoinKind.ofSymbol? k.symbol = some k := by
  cases k <;> rfl

theorem joins_written (js : List Join) {rest : List String}
    (hrest : ∀ w, rest.head? = some w → JoinKind.ofSymbol? w = none) :
    joins (Written.joins js ++ rest) = (js, rest) := by
  induction js with
  | nil =>
    show joins rest = _
    unfold joins
    split
    · next kind join table on condition more => rw [hrest kind rfl]
    · rfl
  | cons j more ih =>
    show joins
      (j.kind.symbol :: "JOIN" :: j.table :: "ON" :: j.on :: (Written.joins more ++ rest)) = _
    unfold joins
    rw [ofSymbol?_joinKind, ih]

theorem ofSymbol?_operator (o : Operator) : Operator.ofSymbol? o.symbol = some o := by
  cases o <;> rfl

theorem conditions_written (lead : String) (cs : List Condition) {rest : List String}
    (hlead : rest.head? ≠ some lead) (hand : rest.head? ≠ some "AND") :
    conditions lead (Written.conditions lead cs ++ rest) =
      (cs.map fun c => { c with value := .null }, rest) := by
  -- Behind the first condition the reader looks for AND, so the induction is over any leading word.
  induction cs generalizing lead with
  | nil =>
    show conditions lead rest = _
    unfold conditions
    split
    · next word column symbol mark more =>
      have hword : word ≠ lead := fun h => hlead (congrArg some h)
      cases Operator.ofSymbol? symbol with
      | none => rfl
      | some operator => exact if_neg hword
    · rfl
  | cons c more ih =>
    show conditions lead
      (lead :: c.column :: c.operator.symbol :: "?" :: (Written.conditions "AND" more ++ rest)) = _
    unfold conditions
    rw [ofSymbol?_operator, ih "AND" hand]
    simp

theorem keys_written {os : List OrderItem} (hos : os ≠ []) (rest : List String) :
    keys (Written.keys os ++ rest) = (os, rest) := by
  induction os with
  | nil => exact absurd rfl hos
  | cons o more ih =>
    obtain ⟨column, ascending⟩ := o
    cases more with
    | nil =>
      show keys (column :: Written.direction ascending :: rest) = _
      unfold keys
      cases ascending <;> rfl
    | cons d more =>
      have hmore := ih (List.cons_ne_nil d more)
      show keys (column :: (Written.direction ascending ++ ",") ::
        (Written.keys (d :: more) ++ rest)) = _
      unfold keys
      rw [beforeComma?_comma, hmore]
      cases ascending <;> rfl

theorem order_written (os : List OrderItem) {rest : List String}
    (hrest : rest.head? ≠ some "ORDER") : order (Written.order os ++ rest) = (os, rest) := by
  cases os with
  | nil =>
    show order rest = _
    unfold order
    split
    · next first second more =>
      rw [if_neg fun h => hrest (congrArg some h)]
    · rfl
  | cons o more => exact keys_written (List.cons_ne_nil o more) rest

theorem bound_written (word : String) (n : Option Nat) {rest : List String}
    (hrest : rest.head? ≠ some word) : bound word (Written.bound word n ++ rest) = (n, rest) := by
  cases n with
  | none =>
    show bound word rest = _
    unfold bound
    split
    · next first number more =>
      rw [if_neg fun h => hrest (congrArg some h)]
    · rfl
  | some n =>
    show bound word (word :: intText n :: rest) = _
    unfold bound
    simp only [if_true, ofDigitChars_intText]

end Reader

theorem readSelect_written {s : Clauses} {t text : String} (hs : s.Worded t)
    (htext : words text = s.written t) :
    readSelect text = some (t, s.canonical.withoutValues) := by
  have hselected : s.canonical.selected ≠ [] := by
    unfold Clauses.canonical
    cases s.selected <;> simp
  have hcomma : ∀ c ∈ s.canonical.selected, ',' ∉ c.toList := by
    unfold Clauses.canonical
    cases hselected : s.selected with
    | nil => simp
    | cons c rest => exact fun d hd => (hs.selected d (hselected ▸ hd)).comma
  -- Each clause ends where the words go on with a keyword of a later one.
  have hoffset := Begins.bound "OFFSET" s.offset
  have hlimit := (Begins.bound "LIMIT" s.limit).append hoffset
  have horder := (Begins.order s.order).append hlimit
  have hwhere := (Begins.conditions "WHERE" s.conditions).append horder
  have hkinds : ∀ w ∈ ["WHERE", "ORDER", "LIMIT", "OFFSET"], JoinKind.ofSymbol? w = none := by
    decide
  have hlast : Reader.bound "OFFSET" (Written.bound "OFFSET" s.offset) = (s.offset, []) := by
    rw [← List.append_nil (Written.bound "OFFSET" s.offset)]
    exact Reader.bound_written "OFFSET" s.offset nofun
  unfold readSelect
  rw [htext]
  unfold Clauses.written Reader.keyword?
  simp only [Reader.columns_written hselected hcomma, if_true, Option.bind_eq_bind,
    Option.bind_some, Reader.joins_written s.joins fun w hw => hkinds w (hwhere w hw),
    Reader.conditions_written "WHERE" s.conditions (horder.ne (by decide)) (horder.ne (by decide)),
    Reader.order_written s.order (hlimit.ne (by decide)),
    Reader.bound_written "LIMIT" s.limit (hoffset.ne (by decide)), hlast]
  rfl

/-! ## Nothing is lost -/

theorem Condition.eq_of_values {cs cs' : List Condition}
    (h : (cs.map fun c => { c with value := .null }) =
      cs'.map fun c => { c with value := .null })
    (hvalues : cs.map Condition.value = cs'.map Condition.value) : cs = cs' := by
  induction cs generalizing cs' with
  | nil => exact (List.map_eq_nil_iff.mp h.symm).symm
  | cons c rest ih =>
    cases cs' with
    | nil => cases h
    | cons c' rest' =>
      obtain ⟨column, operator, value⟩ := c
      obtain ⟨column', operator', value'⟩ := c'
      obtain ⟨hc, hrest⟩ := List.cons.inj h
      obtain ⟨hvalue, hothers⟩ := List.cons.inj hvalues
      cases hc
      cases hvalue
      rw [ih hrest hothers]

namespace Clauses

/-- Clauses are all that is left of them without values, and the values that they bind. -/
theorem eq_of_params {s s' : Clauses} (h : s.withoutValues = s'.withoutValues)
    (hparams : s.params = s'.params) : s = s' := by
  have hconditions : s.conditions = s'.conditions :=
    Condition.eq_of_values (congrArg Clauses.conditions h) hparams
  cases s
  cases s'
  cases hconditions
  cases h
  rfl

/-- What a statement over a table is compiled to, in any state of the settings. -/
theorem selectFrom_of_select {s : Clauses} {table : Value} (hcustom : s.isCustom = false)
    {d : Value} {j : Journaled Configuration} {st : Statement}
    (h : ((Compile.select d s table).runFrom j).1 = .ok st) : s.selectFrom table {} = .ok st := by
  rw [(Compile.select_runFrom d s table {} j).1] at h
  have hst := (Compile.underSettings_eq_ok h).1
  unfold selectBy at hst
  rwa [if_neg (by simp [hcustom])] at hst

/-- **Compiling loses no clause.** Where every text is a word, table and clauses are read from the
text that they are compiled to, and the values are those that it binds; so the same text with the
same values is compiled of the same table and the same clauses alone. -/
theorem select_loses_nothing {s s' : Clauses} {t t' : String} (hs : s.Worded t)
    (hs' : s'.Worded t') (hcustom : s.isCustom = false) (hcustom' : s'.isCustom = false)
    {d d' : Value} {j j' : Journaled Configuration} {st st' : Statement}
    (hst : ((Compile.select d s (.text t)).runFrom j).1 = .ok st)
    (hst' : ((Compile.select d' s' (.text t')).runFrom j').1 = .ok st') :
    readSelect st.sql = some (t, s.canonical.withoutValues) ∧ st.params = s.params ∧
      (st.sql = st'.sql → st.params = st'.params → t = t' ∧ s.canonical = s'.canonical) := by
  obtain ⟨hsql, hparams⟩ := words_selectFrom hs (selectFrom_of_select hcustom hst)
  obtain ⟨hsql', hparams'⟩ := words_selectFrom hs' (selectFrom_of_select hcustom' hst')
  have hread := readSelect_written hs hsql
  have hread' := readSelect_written hs' hsql'
  refine ⟨hread, hparams, fun htext hvalues => ?_⟩
  rw [← htext, hread] at hread'
  obtain ⟨htable, hclauses⟩ := Prod.mk.inj (Option.some.inj hread')
  exact ⟨htable, eq_of_params hclauses (hparams.symm.trans (hvalues.trans hparams'))⟩

/-- Clauses whose columns and tables are called like keywords. -/
def keywords : Clauses where
  selected := ["FROM", "WHERE"]
  joins := [⟨.left, "JOIN", "ON"⟩]
  conditions := [⟨"AND", .like, .text "a"⟩, ⟨"ORDER", .ne, .int 1⟩]
  order := [⟨"BY", true⟩, ⟨"LIMIT", false⟩]
  limit := some 3
  offset := some 12

/-- The text of `keywords` over a table of such a name. -/
def keywordsText : String :=
  "SELECT FROM, WHERE FROM SELECT LEFT JOIN JOIN ON ON WHERE AND LIKE ? AND ORDER <> ? " ++
    "ORDER BY BY ASC, LIMIT DESC LIMIT 3 OFFSET 12"

theorem select_loses_nothing_keywords :
    keywords.Worded "SELECT" ∧
      ((Compile.select .null keywords (.text "SELECT")).runFrom ⟨{}, []⟩).1 =
        .ok ⟨keywordsText, [.text "a", .int 1]⟩ ∧
      readSelect keywordsText = some ("SELECT", keywords.canonical.withoutValues) := by
  have hs : keywords.Worded "SELECT" := by
    constructor <;> decide
  have hst : ((Compile.select .null keywords (.text "SELECT")).runFrom ⟨{}, []⟩).1 =
      .ok ⟨keywordsText, [.text "a", .int 1]⟩ := by
    rfl
  exact ⟨hs, hst, (select_loses_nothing hs hs rfl rfl hst hst).1⟩

end Clauses

end FluentQuery
