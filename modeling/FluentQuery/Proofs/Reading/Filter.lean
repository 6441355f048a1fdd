import FluentQuery.Proofs.Reading.Clause

/-!
# Filters

A filter is a combination of atoms with NOT, AND and OR, where NOT binds more closely than AND and
AND more closely than OR, and brackets hold a filter of their own. What an atom says of a row is no
matter of reading: a `Valuation` gives each atom a truth, which may be unknown.

* **`bindItems`** — values take the places of the placeholders of a statement, from left to right;
* **`alternatives`** — the filter that lexemes spell, as the formulas between its ORs;
* **`filterOf`** — the filter of a statement with its values.

The reader takes brackets from the inside to the outside, splits at OR, then at AND, and then takes
NOT off the front. The AND of a BETWEEN belongs to its atom. A filter with an empty place, or with
an operator that SQL dialects rank in different ways, is not read.
-/

namespace FluentQuery.Reading

/-! ## Truth -/

/-- Truth of a formula for a row. -/
inductive Truth where
  | yes
  | no
  | unknown
  deriving DecidableEq

namespace Truth

def not : Truth → Truth
  | .yes => .no
  | .no => .yes
  | .unknown => .unknown

def and : Truth → Truth → Truth
  | .yes, q => q
  | .no, _ => .no
  | .unknown, .no => .no
  | .unknown, _ => .unknown

def or : Truth → Truth → Truth
  | .no, q => q
  | .yes, _ => .yes
  | .unknown, .yes => .yes
  | .unknown, _ => .unknown

theorem and_eq_yes {p q : Truth} : p.and q = .yes ↔ p = .yes ∧ q = .yes := by
  cases p <;> cases q <;> decide

theorem or_eq_yes {p q : Truth} : p.or q = .yes ↔ p = .yes ∨ q = .yes := by
  cases p <;> cases q <;> decide

end Truth

/-- A combination of atoms. -/
inductive Formula where
  | atom (ls : List Lexeme)
  | neg (f : Formula)
  | all (fs : List Formula)
  | any (fs : List Formula)

/-- What a row makes of atoms. -/
abbrev Valuation := List Lexeme → Truth

namespace Formula

mutual

/-- The truth of a formula for a row. -/
def truth (row : Valuation) : Formula → Truth
  | .atom ls => row ls
  | .neg f => (truth row f).not
  | .all fs => truthAll row fs
  | .any fs => truthAny row fs

/-- The truth of all of several formulas. -/
def truthAll (row : Valuation) : List Formula → Truth
  | [] => .yes
  | f :: fs => (truth row f).and (truthAll row fs)

/-- The truth of any of several formulas. -/
def truthAny (row : Valuation) : List Formula → Truth
  | [] => .no
  | f :: fs => (truth row f).or (truthAny row fs)

end

theorem all_eq_yes {row : Valuation} {fs : List Formula} :
    (Formula.all fs).truth row = .yes ↔ ∀ f ∈ fs, f.truth row = .yes := by
  show truthAll row fs = .yes ↔ _
  induction fs with
  | nil => simp [truthAll]
  | cons f fs ih => simp [truthAll, Truth.and_eq_yes, ih]

theorem any_eq_yes {row : Valuation} {fs : List Formula} :
    (Formula.any fs).truth row = .yes ↔ ∃ f ∈ fs, f.truth row = .yes := by
  show truthAny row fs = .yes ↔ _
  induction fs with
  | nil => simp [truthAny]
  | cons f fs ih => simp [truthAny, Truth.or_eq_yes, ih]

theorem any_concat_eq_yes {row : Valuation} {fs : List Formula} {f : Formula} :
    (Formula.any (fs ++ [f])).truth row = .yes ↔
      (∃ g ∈ fs, g.truth row = .yes) ∨ f.truth row = .yes := by
  rw [any_eq_yes]
  simp [or_and_right, exists_or]

theorem truth_atom (row : Valuation) (ls : List Lexeme) : (Formula.atom ls).truth row = row ls :=
  rfl

end Formula

/-! ## From lexemes to a filter -/

/-- A connective of a filter, or a lexeme between them, with the filter that it holds if it is one
in brackets. -/
inductive Piece where
  | or
  | and
  | part (x : Lexeme) (held : Option Formula)

namespace Piece

def isOr : Piece → Bool
  | .or => true
  | _ => false

def isAnd : Piece → Bool
  | .and => true
  | _ => false

/-- The lexeme of a piece. -/
def lexeme? : Piece → Option Lexeme
  | .part x _ => some x
  | _ => none

end Piece

/-- The pieces of lexemes. After BETWEEN the next AND is no connective. -/
def pieces (between : Bool) : List (Lexeme × Option Formula) → Option (List Piece)
  | [] => if between then none else some []
  | (x, held) :: rest =>
    if x.isWord "XOR" then none
    else if x.isWord "OR" then if between then none else (pieces false rest).map (.or :: ·)
    else if x.isWord "AND" then
      (pieces false rest).map ((if between then .part x held else .and) :: ·)
    else if x.isWord "BETWEEN" then
      if between then none else (pieces true rest).map (.part x held :: ·)
    else (pieces between rest).map (.part x held :: ·)

/-- The runs of a list between separators. -/
def chunks {α : Type} (separates : α → Bool) : List α → List (List α)
  | [] => [[]]
  | x :: xs =>
    if separates x then [] :: chunks separates xs
    else
      match chunks separates xs with
      | [] => [[x]]
      | c :: cs => (x :: c) :: cs

/-- Whether a lexeme in brackets holds a filter and no query. -/
def Lexeme.holdsFilter : Lexeme → Bool
  | .group .round (y :: _) => !(y.isWord "SELECT" || y.isWord "WITH" || y.isWord "VALUES")
  | .group .round [] => true
  | _ => false

/-- The formula of pieces without connectives. -/
def factor : List Piece → Option Formula
  | .part x held :: rest =>
    if x.isWord "NOT" then (factor rest).map .neg
    -- Brackets are a filter where they stand alone, and part of an atom where they do not.
    else if rest.isEmpty && x.holdsFilter then held
    else some (.atom (x :: rest.filterMap Piece.lexeme?))
  | _ => none

/-- The formula of pieces without OR. -/
def conjunction (ps : List Piece) : Option Formula := ((chunks Piece.isAnd ps).mapM factor).map .all

/-- The formulas between the ORs of a filter. -/
def alternatives (xs : List (Lexeme × Option Formula)) : Option (List Formula) := do
  (chunks Piece.isOr (← pieces false xs)).mapM conjunction

mutual

/-- The filter that a lexeme holds in brackets. -/
def Lexeme.held : Lexeme → Option Formula
  | .group .round xs => (alternatives (withHeld xs)).map .any
  | _ => none

/-- Lexemes with the filters that they hold. -/
def withHeld : List Lexeme → List (Lexeme × Option Formula)
  | [] => []
  | x :: xs => (x, x.held) :: withHeld xs

end

/-! ## Values for placeholders -/

mutual

/-- Puts the next values into a lexeme, if there are enough. -/
def bindOne (vs : List Value) : Lexeme → Option (Lexeme × List Value)
  | .mark c =>
    if c == '?' then
      match vs with
      | [] => none
      | v :: vs => some (.value v, vs)
    else some (.mark c, vs)
  | .group b xs => (bindAll vs xs).map fun r => (.group b r.1, r.2)
  | .word cs => some (.word cs, vs)
  | .quoted q cs => some (.quoted q cs, vs)
  | .value v => some (.value v, vs)

/-- Puts the next values into lexemes. -/
def bindAll (vs : List Value) : List Lexeme → Option (List Lexeme × List Value)
  | [] => some ([], vs)
  | x :: xs =>
    (bindOne vs x).bind fun r => (bindAll r.2 xs).map fun r' => (r.1 :: r'.1, r'.2)

end

/-- Puts the next values into the items of a statement. -/
def bindItems (vs : List Value) : List Item → Option (List Item × List Value)
  | [] => some ([], vs)
  | .part x :: rest =>
    (bindOne vs x).bind fun r => (bindItems r.2 rest).map fun r' => (.part r.1 :: r'.1, r'.2)
  | y :: rest => (bindItems vs rest).map fun r => (y :: r.1, r.2)

/-- The lexemes in front of the next opening or end. -/
def leading : List Item → List Lexeme
  | .part x :: rest => x :: leading rest
  | _ => []

/-- The lexemes of the first clause of a kind. -/
def contentOf (c : Clause) : List Item → List Lexeme
  | [] => []
  | .opens c' :: rest => if c' = c then leading rest else contentOf c rest
  | _ :: rest => contentOf c rest

/-- The filter of a statement whose placeholders stand for given values, no more and no less. -/
def filterOf (t : String) (params : List Value) : Option (List Formula) := do
  let (its, left) ← bindItems params (items (← lexemes? t))
  if left.isEmpty then alternatives (withHeld (contentOf .filter its)) else none

/-! ## Operands behind a filter -/

/-- Whether a lexeme is a word that combines atoms. -/
def Lexeme.isConnective (x : Lexeme) : Bool :=
  x.isWord "XOR" || x.isWord "OR" || x.isWord "AND" || x.isWord "BETWEEN" || x.isWord "NOT"

/-- Lexemes that are one atom wherever they stand between connectives. -/
structure Operand (ls : List Lexeme) : Prop where
  plain : ∀ x ∈ ls, x.isConnective = false
  long : 2 ≤ ls.length

theorem withHeld_eq_map (xs : List Lexeme) : withHeld xs = xs.map fun x => (x, x.held) := by
  induction xs with
  | nil => rfl
  | cons x xs ih => rw [withHeld, ih, List.map_cons]

/-- The pieces of lexemes go on where a BETWEEN is not waiting for its AND. -/
theorem pieces_append {between : Bool} {xs ys : List (Lexeme × Option Formula)} {ps : List Piece}
    (h : pieces between xs = some ps) :
    pieces between (xs ++ ys) = (pieces false ys).map (ps ++ ·) := by
  induction xs generalizing between ps with
  | nil =>
    cases between with
    | true => cases h
    | false =>
      obtain rfl := Option.some.inj h
      simp
  | cons y rest ih =>
    obtain ⟨x, held⟩ := y
    have hcons : ∀ (p : Piece) (b : Bool), (pieces b rest).map (p :: ·) = some ps →
        (pieces b (rest ++ ys)).map (p :: ·) = (pieces false ys).map (ps ++ ·) := by
      intro p b hp
      obtain ⟨qs, hqs, rfl⟩ := Option.map_eq_some_iff.mp hp
      rw [ih hqs, Option.map_map]
      rfl
    simp only [pieces, List.cons_append] at h ⊢
    by_cases hxor : x.isWord "XOR" = true
    · rw [if_pos hxor] at h
      cases h
    rw [if_neg hxor] at h ⊢
    by_cases hor : x.isWord "OR" = true
    · rw [if_pos hor] at h ⊢
      cases between with
      | true => cases h
      | false => exact hcons .or false h
    rw [if_neg hor] at h ⊢
    by_cases hand : x.isWord "AND" = true
    · rw [if_pos hand] at h ⊢
      exact hcons _ false h
    rw [if_neg hand] at h ⊢
    by_cases hbetween : x.isWord "BETWEEN" = true
    · rw [if_pos hbetween] at h ⊢
      cases between with
      | true => cases h
      | false => exact hcons _ true h
    rw [if_neg hbetween] at h ⊢
    exact hcons _ between h

theorem pieces_plain {ls : List Lexeme} (h : ∀ x ∈ ls, x.isConnective = false) :
    pieces false (withHeld ls) = some (ls.map fun x => .part x x.held) := by
  induction ls with
  | nil => rfl
  | cons x ls ih =>
    have hx := h x List.mem_cons_self
    simp only [Lexeme.isConnective, Bool.or_eq_false_iff] at hx
    obtain ⟨⟨⟨⟨hxor, hor⟩, hand⟩, hbetween⟩, -⟩ := hx
    have hrest := ih fun y hy => h y (List.mem_cons_of_mem _ hy)
    simp [withHeld, pieces, hxor, hor, hand, hbetween, hrest]

/-! ### Chunks -/

section

variable {α : Type} {separates : α → Bool}

theorem chunks_ne_nil (xs : List α) : chunks separates xs ≠ [] := by
  unfold chunks
  cases xs with
  | nil => exact List.cons_ne_nil _ _
  | cons x xs =>
    dsimp only
    split
    · exact List.cons_ne_nil _ _
    · split <;> exact List.cons_ne_nil _ _

theorem chunks_free {ys : List α} (h : ∀ y ∈ ys, separates y = false) :
    chunks separates ys = [ys] := by
  induction ys with
  | nil => rfl
  | cons y ys ih =>
    simp [chunks, h y List.mem_cons_self, ih fun z hz => h z (List.mem_cons_of_mem _ hz)]

theorem chunks_append_separator {x : α} (hx : separates x = true) (front back : List α) :
    chunks separates (front ++ x :: back) =
      chunks separates front ++ chunks separates back := by
  induction front with
  | nil => simp [chunks, hx]
  | cons y front ih =>
    simp only [List.cons_append, chunks, ih]
    by_cases hy : separates y = true
    · rw [if_pos hy, if_pos hy, List.cons_append]
    · rw [if_neg hy, if_neg hy]
      cases hfront : chunks separates front with
      | nil => exact absurd hfront (chunks_ne_nil front)
      | cons c cs => rfl

/-- Without separators behind them the last chunk goes on. -/
theorem chunks_append_free (separates : α → Bool) (xs : List α) :
    ∃ front last, chunks separates xs = front ++ [last] ∧
      ∀ ys, (∀ y ∈ ys, separates y = false) →
        chunks separates (xs ++ ys) = front ++ [last ++ ys] := by
  induction xs with
  | nil => exact ⟨[], [], rfl, fun ys hys => chunks_free hys⟩
  | cons x xs ih =>
    obtain ⟨front, last, hxs, hall⟩ := ih
    by_cases hx : separates x = true
    · refine ⟨[] :: front, last, by simp [chunks, hx, hxs], fun ys hys => ?_⟩
      simp [chunks, hx, hall ys hys]
    · cases front with
      | nil =>
        refine ⟨[], x :: last, by simp [chunks, hx, hxs], fun ys hys => ?_⟩
        simp [chunks, hx, hall ys hys]
      | cons c cs =>
        refine ⟨(x :: c) :: cs, last, by simp [chunks, hx, hxs], fun ys hys => ?_⟩
        simp [chunks, hx, hall ys hys]

/-- Runs behind separators are chunks of their own. -/
theorem chunks_append_runs {x : α} (hx : separates x = true) {runs : List (List α)}
    (hruns : ∀ r ∈ runs, ∀ y ∈ r, separates y = false) (xs : List α) :
    chunks separates (xs ++ runs.flatMap (x :: ·)) = chunks separates xs ++ runs := by
  induction runs generalizing xs with
  | nil => simp
  | cons r runs ih =>
    have hr := hruns r List.mem_cons_self
    have hrest := ih (fun r' hr' => hruns r' (List.mem_cons_of_mem _ hr')) r
    rw [List.flatMap_cons, List.cons_append, chunks_append_separator hx, hrest, chunks_free hr]
    rfl

end

/-! ### Formulas -/

theorem factor_plain {ls : List Lexeme} (h : Operand ls) :
    factor (ls.map fun x => .part x x.held) = some (.atom ls) := by
  obtain ⟨hplain, hlong⟩ := h
  match ls, hlong with
  | x :: y :: rest, _ =>
    have hx := hplain x List.mem_cons_self
    simp only [Lexeme.isConnective, Bool.or_eq_false_iff] at hx
    have hlexemes : (rest.map fun x => Piece.part x x.held).filterMap Piece.lexeme? = rest := by
      rw [List.filterMap_map]
      exact List.filterMap_some
    simp [factor, hx.2, Piece.lexeme?, hlexemes]

theorem mapM_concat_eq_some {α β : Type} {f : α → Option β} {xs : List α} {x : α} {ys : List β}
    (h : (xs ++ [x]).mapM f = some ys) :
    ∃ front y, xs.mapM f = some front ∧ f x = some y ∧ ys = front ++ [y] := by
  rw [List.mapM_append] at h
  cases hfront : xs.mapM f with
  | none => rw [hfront] at h; cases h
  | some front =>
    cases hy : f x with
    | none => simp [hfront, hy] at h
    | some y => exact ⟨front, y, rfl, rfl, by simpa [hfront, hy] using h.symm⟩

theorem pieces_operands {operands : List (List Lexeme)}
    (h : ∀ ls ∈ operands, Operand ls) :
    pieces false (withHeld (operands.flatMap (andLexeme :: ·))) =
      some (operands.flatMap fun ls => .and :: ls.map fun x => .part x x.held) := by
  induction operands with
  | nil => rfl
  | cons ls operands ih =>
    have hfirst := pieces_plain (h ls List.mem_cons_self).plain
    have hrest := ih fun ls' hls' => h ls' (List.mem_cons_of_mem _ hls')
    rw [List.flatMap_cons, List.flatMap_cons, withHeld_eq_map, List.cons_append, List.map_cons,
      List.map_append, ← withHeld_eq_map, ← withHeld_eq_map]
    show (pieces false (withHeld ls ++ _)).map (.and :: ·) = _
    rw [pieces_append hfirst, hrest]
    rfl

theorem mapM_factor_operands {operands : List (List Lexeme)}
    (h : ∀ ls ∈ operands, Operand ls) :
    (operands.map fun ls => ls.map fun x => Piece.part x x.held).mapM factor =
      some (operands.map .atom) := by
  induction operands with
  | nil => rfl
  | cons ls operands ih =>
    rw [List.map_cons, List.mapM_cons, factor_plain (h ls List.mem_cons_self),
      ih fun ls' hls' => h ls' (List.mem_cons_of_mem _ hls')]
    rfl

/-- Operands behind a filter belong to its last alternative. -/
theorem alternatives_append {xs : List Lexeme} {operands : List (List Lexeme)}
    {alts : List Formula} (hoperands : ∀ ls ∈ operands, Operand ls)
    (h : alternatives (withHeld xs) = some alts) :
    ∃ front fs, alts = front ++ [.all fs] ∧
      alternatives (withHeld (xs ++ operands.flatMap (andLexeme :: ·))) =
        some (front ++ [.all (fs ++ operands.map .atom)]) := by
  unfold alternatives at h
  cases hps : pieces false (withHeld xs) with
  | none => rw [hps] at h; cases h
  | some ps =>
    rw [hps] at h
    let runs := operands.map fun ls => ls.map fun x => Piece.part x x.held
    have hflat : (operands.flatMap fun ls => Piece.and :: ls.map fun x => .part x x.held) =
        runs.flatMap (.and :: ·) := by
      rw [List.flatMap_map]
    have hall : pieces false (withHeld (xs ++ operands.flatMap (andLexeme :: ·))) =
        some (ps ++ runs.flatMap (.and :: ·)) := by
      rw [withHeld_eq_map, List.map_append, ← withHeld_eq_map, ← withHeld_eq_map,
        pieces_append hps, pieces_operands hoperands, hflat]
      rfl
    have hparts : ∀ r ∈ runs, ∀ y ∈ r, y.isOr = false ∧ y.isAnd = false := by
      intro r hr y hy
      obtain ⟨ls, -, rfl⟩ := List.mem_map.mp hr
      obtain ⟨x, -, rfl⟩ := List.mem_map.mp hy
      exact ⟨rfl, rfl⟩
    have hnoOr : ∀ y ∈ runs.flatMap (Piece.and :: ·), y.isOr = false := by
      intro y hy
      obtain ⟨r, hr, hy⟩ := List.mem_flatMap.mp hy
      rcases List.mem_cons.mp hy with rfl | hy
      · rfl
      · exact (hparts r hr y hy).1
    -- At OR only the last run gets longer; at AND it gets runs of its own.
    obtain ⟨frontChunks, last, hchunks, hlonger⟩ := chunks_append_free Piece.isOr ps
    replace h : (chunks Piece.isOr ps).mapM conjunction = some alts := h
    rw [hchunks] at h
    obtain ⟨front, y, hfront, hy, rfl⟩ := mapM_concat_eq_some h
    obtain ⟨fs, hfs, rfl⟩ := Option.map_eq_some_iff.mp hy
    have hconjunction : conjunction (last ++ runs.flatMap (.and :: ·)) =
        some (.all (fs ++ operands.map .atom)) := by
      unfold conjunction
      rw [chunks_append_runs rfl fun r hr z hz => (hparts r hr z hz).2, List.mapM_append, hfs,
        mapM_factor_operands hoperands]
      rfl
    refine ⟨front, fs, rfl, ?_⟩
    unfold alternatives
    rw [hall]
    show (chunks Piece.isOr (ps ++ runs.flatMap (.and :: ·))).mapM conjunction = _
    rw [hlonger _ hnoOr, List.mapM_append, hfront, List.mapM_cons, hconjunction]
    rfl

/-! ## Binding -/

/-- Whether lexemes have no placeholder: they can be bound without values. -/
def Unbound (ls : List Lexeme) : Prop := (bindAll [] ls).isSome = true

/-- Items take values and become other items, whatever values follow. -/
def Binds (vs : List Value) (its bound : List Item) : Prop :=
  ∀ more, bindItems (vs ++ more) its = some (bound, more)

mutual

theorem bindOne_unbound : ∀ (x : Lexeme), (bindOne [] x).isSome = true →
    ∀ vs, bindOne vs x = some (x, vs)
  | .word cs, _, vs => rfl
  | .quoted q cs, _, vs => rfl
  | .value v, _, vs => rfl
  | .mark c, h, vs => by
    unfold bindOne at h ⊢
    by_cases hc : (c == '?') = true
    · rw [if_pos hc] at h
      cases h
    · rw [if_neg hc]
  | .group b xs, h, vs => by
    have hinside : Unbound xs := by
      unfold bindOne at h
      rwa [Option.isSome_map] at h
    unfold bindOne
    rw [bindAll_unbound xs hinside vs]
    rfl

theorem bindAll_unbound : ∀ (ls : List Lexeme), Unbound ls → ∀ vs, bindAll vs ls = some (ls, vs)
  | [], _, vs => rfl
  | x :: xs, h, vs => by
    unfold Unbound bindAll at h
    cases hx : bindOne [] x with
    | none => rw [hx] at h; cases h
    | some r =>
      have hone := bindOne_unbound x (by rw [hx]; rfl)
      rw [hone []] at h
      have hrest : Unbound xs := by
        unfold Unbound
        rwa [Option.bind_some, Option.isSome_map] at h
      unfold bindAll
      rw [hone vs, Option.bind_some, bindAll_unbound xs hrest vs]
      rfl

end

theorem bindItems_parts (vs : List Value) (ls : List Lexeme) :
    bindItems vs (ls.map .part) = (bindAll vs ls).map fun r => (r.1.map .part, r.2) := by
  induction ls generalizing vs with
  | nil => rfl
  | cons x ls ih =>
    rw [List.map_cons, bindItems, bindAll]
    cases bindOne vs x with
    | none => rfl
    | some r =>
      rw [Option.bind_some, Option.bind_some, ih]
      cases bindAll r.2 ls <;> rfl

theorem bindItems_append (vs : List Value) (a b : List Item) : bindItems vs (a ++ b) =
    (bindItems vs a).bind fun r => (bindItems r.2 b).map fun r' => (r.1 ++ r'.1, r'.2) := by
  induction a generalizing vs with
  | nil => simp [bindItems]
  | cons y a ih =>
    rw [List.cons_append]
    cases y with
    | part x =>
      simp only [bindItems]
      cases bindOne vs x with
      | none => rfl
      | some r =>
        simp only [Option.bind_some, ih]
        cases bindItems r.2 a <;> simp [Option.map_map, Function.comp_def]
    | _ =>
      simp only [bindItems, ih]
      cases bindItems vs a <;> simp [Option.map_map, Function.comp_def]

/-- A statement that can be bound without values binds none. -/
theorem binds_of_bindItems {its : List Item} (h : (bindItems [] its).isSome = true) :
    Binds [] its its := by
  intro more
  rw [List.nil_append]
  induction its with
  | nil => rfl
  | cons y its ih =>
    cases y with
    | opens c =>
      unfold bindItems at h ⊢
      rw [Option.isSome_map] at h
      rw [ih h]
      rfl
    | stop =>
      unfold bindItems at h ⊢
      rw [Option.isSome_map] at h
      rw [ih h]
      rfl
    | part x =>
      unfold bindItems at h
      cases hx : bindOne [] x with
      | none => rw [hx] at h; cases h
      | some r =>
        have hone := bindOne_unbound x (by rw [hx]; rfl)
        rw [hone [], Option.bind_some, Option.isSome_map] at h
        unfold bindItems
        rw [hone more, Option.bind_some, ih h]
        rfl

namespace Binds

variable {va vb : List Value} {a b a' b' : List Item}

theorem append (ha : Binds va a a') (hb : Binds vb b b') :
    Binds (va ++ vb) (a ++ b) (a' ++ b') := by
  intro more
  rw [bindItems_append, List.append_assoc, ha, Option.bind_some, hb]
  rfl

theorem parts {ls : List Lexeme} (h : Unbound ls) : Binds [] (ls.map .part) (ls.map .part) := by
  intro more
  rw [bindItems_parts, bindAll_unbound ls h]
  rfl

theorem flatMap {α : Type} {v : α → List Value} {items bound : α → List Item} {xs : List α}
    (h : ∀ x ∈ xs, Binds (v x) (items x) (bound x)) :
    Binds (xs.flatMap v) (xs.flatMap items) (xs.flatMap bound) := by
  induction xs with
  | nil => exact fun _ => rfl
  | cons x xs ih =>
    exact (h x List.mem_cons_self).append (ih fun y hy => h y (List.mem_cons_of_mem _ hy))

/-- No value for any of several parts. -/
theorem flatMap_none {α : Type} {items : α → List Item} {xs : List α}
    (h : ∀ x ∈ xs, Binds [] (items x) (items x)) :
    Binds [] (xs.flatMap items) (xs.flatMap items) := by
  have hall := flatMap h
  rwa [List.flatMap_eq_nil_iff.mpr fun _ _ => rfl] at hall

theorem clause (c : Clause) : Binds [] [.opens c] [.opens c] := fun _ => rfl

theorem placeholder (v : Value) : Binds [v] [.part (.mark '?')] [.part (.value v)] := fun _ => rfl

end Binds

/-! ## The content of a clause -/

theorem leading_parts (ls : List Lexeme) (its : List Item) :
    leading (ls.map .part ++ its) = ls ++ leading its := by
  induction ls with
  | nil => rfl
  | cons x ls ih => exact congrArg (x :: ·) ih

theorem contentOf_append {c : Clause} {front : List Item} (hfront : c ∉ clauseList front)
    (ls : List Lexeme) {its : List Item} (hits : leading its = []) :
    contentOf c (front ++ .opens c :: (ls.map .part ++ its)) = ls := by
  induction front with
  | nil =>
    rw [List.nil_append, contentOf, if_pos rfl, leading_parts, hits, List.append_nil]
  | cons y front ih =>
    cases y with
    | part x => exact ih hfront
    | stop => exact ih hfront
    | opens c' =>
      have hmem : ¬(c = c' ∨ c ∈ clauseList front) := fun h => hfront (List.mem_cons.mpr h)
      rw [List.cons_append, contentOf, if_neg fun heq => hmem (.inl heq.symm)]
      exact ih fun h => hmem (.inr h)

/-- The last clause of a statement is its opening and lexemes. -/
theorem Opens.exists_content {its : List Item} {cs : List Clause} {c : Clause}
    (h : Opens its (cs ++ [c])) :
    ∃ (front : List Item) (ls : List Lexeme),
      its = front ++ .opens c :: ls.map .part ∧ clauseList front = cs := by
  obtain ⟨hclauses, hstop⟩ := h
  -- From the end, for the last opening is the one that is looked for.
  induction its using List.reverseRecOn with
  | nil => simp [clauseList] at hclauses
  | append_singleton its y ih =>
    rw [clauseList_append] at hclauses
    have hnone : .stop ∉ its := fun h => hstop (List.mem_append_left _ h)
    cases y with
    | stop => exact absurd (List.mem_append_right _ List.mem_cons_self) hstop
    | opens c' =>
      obtain ⟨hcs, hc⟩ := List.append_inj' hclauses rfl
      obtain rfl := List.singleton_inj.mp hc
      exact ⟨its, [], rfl, hcs⟩
    | part x =>
      obtain ⟨front, ls, rfl, hcs⟩ := ih ((List.append_nil _).symm.trans hclauses) hnone
      exact ⟨front, ls ++ [x], by simp, hcs⟩

/-! ## The filter of a statement -/

theorem filterOf_of_binds {t : String} {params : List Value} {its bound : List Item}
    (hholds : Holds t its) (hbinds : Binds params its bound) :
    filterOf t params = alternatives (withHeld (contentOf .filter bound)) := by
  obtain ⟨ls, hls, -, rfl⟩ := hholds
  have hall := hbinds []
  rw [List.append_nil] at hall
  unfold filterOf
  rw [show lexemes? t = some ls from hls]
  show ((bindItems params (items ls)).bind fun r => _) = _
  rw [hall]
  rfl

example : (filterOf "SELECT a WHERE b OR c AND NOT (d OR e = ?)" [.int 1]).map
    (fun alts => (Formula.any alts).truth fun
      | [.word ['c']] => .yes
      | _ => .no) = some .yes := by
  decide +kernel

/-- A statement whose filter is read without values has no placeholder. -/
theorem binds_of_filterOf {t : String} {its : List Item} {alts : List Formula}
    (hholds : Holds t its) (h : filterOf t [] = some alts) : Binds [] its its := by
  obtain ⟨ls, hls, -, rfl⟩ := hholds
  unfold filterOf at h
  rw [show lexemes? t = some ls from hls] at h
  replace h : ((bindItems [] (items ls)).bind fun r => _) = some alts := h
  apply binds_of_bindItems
  cases hbound : bindItems [] (items ls) with
  | none => rw [hbound] at h; cases h
  | some r => rfl

end FluentQuery.Reading
