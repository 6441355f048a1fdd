import FluentQuery.Proofs.Reading.Clause

/-!
# The outline of a text

Every text has lexemes outside quotes, comments and brackets, also one that leaves some of these
open. They are the ones that belong to the statement itself and not to a part of it.

* **`outline`**, **`openings`** — these lexemes, and how often they open a clause;
* **`Held`** — a reader that is inside of something: plain words do not get it out of there, and
  are not part of the outline;
* **`outline_append_words`** — words behind a text are part of the outline exactly if the text
  leaves nothing open;
* **`outline_between`** — a text between brackets is one lexeme of the outline, or none if it leaves
  something open.
-/

namespace FluentQuery.Reading

/-- The lexemes of a text outside quotes, comments and brackets, as far as it can be read. -/
def outline (t : String) : List Lexeme := (run {} (t.toList ++ [' '])).found

/-- How often a text opens a clause outside quotes, comments and brackets. -/
def openings (c : Clause) (t : String) : Nat := (clauseList (items (outline t))).count c

/-- A text leaves nothing open. -/
def Closed (t : String) : Prop := ∃ ls, ReadsAs t ls

instance (t : String) : Decidable (Closed t) :=
  decidable_of_iff ((lexemes? t).isSome = true) Option.isSome_iff_exists

/-- A text closes no bracket but those that it opens. -/
def Unbroken (t : String) : Prop := (run {} t.toList).mode ≠ .broken

theorem outline_of_readsAs {t : String} {ls : List Lexeme} (h : ReadsAs t ls) : outline t = ls := by
  rw [outline, readsAs_iff.mp h]

/-! ## Inside brackets -/

/-- A reader inside round brackets that stand behind lexemes, where all that it has found is. -/
def State.inside (front : List Lexeme) (s : State) : State :=
  ⟨s.mode, s.word, s.groups ++ [(.round, s.found)], front⟩

theorem surrounding_inside (front : List Lexeme) : Surrounding (State.inside front) := by
  have hadd : ∀ s x, (State.inside front s).add x = State.inside front (s.add x) := by
    rintro ⟨mode, word, groups, found⟩ x
    cases groups with
    | nil => rfl
    | cons g rest => rfl
  refine ⟨fun _ => rfl, fun _ => rfl, fun _ _ => rfl, fun _ _ => rfl, hadd, fun _ _ => rfl, ?_,
    ?_⟩
  · rintro ⟨mode, word, groups, found⟩ b h
    cases groups with
    | nil => exact absurd rfl h
    | cons g rest =>
      obtain ⟨b', xs⟩ := g
      unfold State.closeGroup
      by_cases hb : b' = b
      · simp only [State.inside, List.cons_append, if_pos hb]
        exact hadd ⟨mode, word, rest, found⟩ (.group b xs)
      · simp only [State.inside, List.cons_append, if_neg hb]
  · rintro ⟨mode, word, groups, found⟩
    cases groups with
    | nil => rfl
    | cons g rest =>
      obtain ⟨b, xs⟩ := g
      cases b <;> rfl

/-! ## Readers that are inside of something -/

/-- A reader is in quotes or in a comment, or where it cannot read on. -/
def Mode.isInert : Mode → Bool
  | .plain | .afterDash | .afterSlash => false
  | _ => true

/-- A reader is in brackets, in quotes or in a comment, or cannot read on. -/
inductive Held : State → Prop
  | bracket (g : Bracket × List Lexeme) (rest : List (Bracket × List Lexeme))
      (found : List Lexeme) : Held ⟨.plain, [], g :: rest, found⟩
  | inert {s : State} : s.mode.isInert = true → Held s

/-- Characters at which quotes or comments may end. -/
def enders : List Char := ['\'', '"', '`', '\n', '\r', '*', '/']

theorem not_mem_enders {c : Char} (h : role c = .word) : c ∉ enders := by
  intro hmem
  have hroles : (enders.all fun d => role d != .word) = true := by decide
  have hne := List.all_eq_true.mp hroles c hmem
  rw [h] at hne
  cases hne

theorem step_inert {s : State} {c : Char} (hs : s.mode.isInert = true) (hc : c ∉ enders) :
    (step s c).mode.isInert = true ∧ (step s c).found = s.found := by
  have hne : ∀ d ∈ enders, (c == d) = false := by
    intro d hd
    rw [beq_eq_false_iff_ne]
    rintro rfl
    exact hc hd
  obtain ⟨mode, word, groups, found⟩ := s
  have hstar := hne '*' (by decide)
  have hslash := hne '/' (by decide)
  cases mode with
  | plain => cases hs
  | afterDash => cases hs
  | afterSlash => cases hs
  | quoted q cs =>
    have hquote : (c == q.char) = false := by cases q <;> exact hne _ (by decide)
    simp [step, hquote, Mode.isInert]
  | lineComment => simp [step, hne '\n' (by decide), hne '\r' (by decide), Mode.isInert]
  | comment => simp [step, hstar, hslash, Mode.isInert]
  | commentStar => simp [step, hstar, hslash, Mode.isInert]
  | commentSlash => simp [step, hstar, hslash, Mode.isInert]
  | broken => simp [step, Mode.isInert]

theorem run_inert {s : State} {cs : List Char} (hs : s.mode.isInert = true)
    (hcs : ∀ c ∈ cs, c ∉ enders) :
    (run s cs).mode.isInert = true ∧ (run s cs).found = s.found := by
  induction cs generalizing s with
  | nil => exact ⟨hs, rfl⟩
  | cons c cs ih =>
    obtain ⟨hmode, hfound⟩ := step_inert hs (hcs c List.mem_cons_self)
    rw [← hfound]
    exact ih hmode fun d hd => hcs d (List.mem_cons_of_mem _ hd)

namespace Held

variable {s : State}

theorem step_blank (h : Held s) : Held (step s ' ') ∧ (step s ' ').found = s.found := by
  cases h with
  | bracket g rest found => exact ⟨.bracket g rest found, rfl⟩
  | inert hs =>
    obtain ⟨hmode, hfound⟩ := step_inert hs (c := ' ') (by decide)
    exact ⟨.inert hmode, hfound⟩

theorem run_word (h : Held s) {w : List Char} (hw : PlainWord w) :
    Held (run s (w ++ [' '])) ∧ (run s (w ++ [' '])).found = s.found := by
  cases h with
  | bracket g rest found =>
    rw [run_plainWord hw]
    exact ⟨.bracket _ rest found, rfl⟩
  | inert hs =>
    have hchars : ∀ c ∈ w ++ [' '], c ∉ enders := by
      intro c hc
      rcases List.mem_append.mp hc with hc | hc
      · exact not_mem_enders (hw.word c hc)
      · rw [List.mem_singleton.mp hc]
        decide
    obtain ⟨hmode, hfound⟩ := run_inert hs hchars
    exact ⟨.inert hmode, hfound⟩

/-- Words do not get a reader out of what it is inside of. -/
theorem run_words (h : Held s) {ws : List (List Char)} (hws : ∀ w ∈ ws, PlainWord w) :
    Held (run s (ws.flatMap (· ++ [' ']))) ∧
      (run s (ws.flatMap (· ++ [' ']))).found = s.found := by
  induction ws generalizing s with
  | nil => exact ⟨h, rfl⟩
  | cons w ws ih =>
    obtain ⟨hheld, hfound⟩ := h.run_word (hws w List.mem_cons_self)
    rw [List.flatMap_cons, run_append, ← hfound]
    exact ih hheld fun w' hw' => hws w' (List.mem_cons_of_mem _ hw')

end Held

/-- A reader that is inside of nothing finds words as they are. -/
theorem run_words {ws : List (List Char)} (hws : ∀ w ∈ ws, PlainWord w) (found : List Lexeme) :
    run { found } (ws.flatMap (· ++ [' '])) = { found := found ++ ws.map .word } := by
  induction ws generalizing found with
  | nil => simp [run]
  | cons w ws ih =>
    rw [List.flatMap_cons, run_append]
    show run (run ⟨.plain, [], [], found⟩ (w ++ [' '])) _ = _
    rw [run_plainWord (hws w List.mem_cons_self)]
    show run { found := found ++ [.word w] } _ = _
    rw [ih fun w' hw' => hws w' (List.mem_cons_of_mem _ hw')]
    simp

/-- Ending a word leaves a plain reader plain. -/
theorem endWord_plain (word : List Char) (groups : List (Bracket × List Lexeme))
    (found : List Lexeme) : ∃ groups' found',
      State.endWord ⟨.plain, word, groups, found⟩ = ⟨.plain, [], groups', found'⟩ := by
  have hadd : ∀ groups x, ∃ groups' found',
      State.add ⟨.plain, [], groups, found⟩ x = ⟨.plain, [], groups', found'⟩ := by
    intro groups x
    cases groups with
    | nil => exact ⟨_, _, rfl⟩
    | cons g rest => exact ⟨_, _, rfl⟩
  cases word with
  | nil => exact ⟨_, _, rfl⟩
  | cons c cs =>
    show ∃ groups' found', State.addWord ⟨.plain, [], groups, found⟩ (c :: cs).reverse = _
    unfold State.addWord
    split
    · exact ⟨_, _, rfl⟩
    · split
      · next h =>
        -- END is looked at where the innermost group is one that it closes.
        rw [Bool.and_eq_true] at h
        cases groups with
        | nil => cases h.2
        | cons g rest =>
          obtain ⟨b, xs⟩ := g
          cases b with
          | words => exact hadd rest _
          | _ => cases h.2
      · exact hadd groups _

/-- At a blank and at a bracket a reader ends its word, unless it is in quotes or in a comment. -/
theorem step_ends (s : State) :
    (∃ groups found, step s ' ' = ⟨.plain, [], groups, found⟩ ∧
      ∀ front, step (s.inside front) ')' =
        (State.inside front ⟨.plain, [], groups, found⟩).closeGroup .round) ∨
    s.mode.isInert = true := by
  have hplain : ∀ word groups found, ∃ groups' found',
      plainStep ⟨.plain, word, groups, found⟩ ' ' = ⟨.plain, [], groups', found'⟩ ∧
      ∀ front, plainStep (State.inside front ⟨.plain, word, groups, found⟩) ')' =
        (State.inside front ⟨.plain, [], groups', found'⟩).closeGroup .round := by
    intro word groups found
    obtain ⟨groups', found', hend⟩ := endWord_plain word groups found
    refine ⟨groups', found', hend, fun front => ?_⟩
    show (State.endWord _).closeGroup .round = _
    rw [(surrounding_inside front).endWord_eq, hend]
  -- What a dash or a slash was shows at the character behind it.
  have hmark : ∀ word groups found x, ∃ groups' found',
      plainStep (State.add ⟨.plain, word, groups, found⟩ x) ' ' = ⟨.plain, [], groups', found'⟩ ∧
      ∀ front, plainStep (State.add (State.inside front ⟨.plain, word, groups, found⟩) x) ')' =
        (State.inside front ⟨.plain, [], groups', found'⟩).closeGroup .round := by
    intro word groups found x
    simp only [(surrounding_inside _).add]
    cases groups with
    | nil => exact hplain _ _ _
    | cons g rest => exact hplain _ _ _
  obtain ⟨mode, word, groups, found⟩ := s
  cases mode with
  | plain => exact .inl (hplain word groups found)
  | afterDash => exact .inl (hmark word groups found _)
  | afterSlash => exact .inl (hmark word groups found _)
  | _ => exact .inr rfl

/-- Behind a blank a reader is inside of nothing, with all words ended, or inside of something. -/
theorem settles (s : State) : (∃ ls, step s ' ' = { found := ls }) ∨ Held (step s ' ') := by
  rcases step_ends s with ⟨groups, found, hblank, -⟩ | hinert
  · rw [hblank]
    cases groups with
    | nil => exact .inl ⟨found, rfl⟩
    | cons g rest => exact .inr (.bracket g rest found)
  · exact .inr (.inert (step_inert hinert (by decide)).1)

theorem not_held (found : List Lexeme) : ¬Held { found } := by
  intro h
  cases h with
  | inert hs => cases hs

/-! ## Words behind a text -/

/-- Words, each behind a blank. -/
def wordsText (ws : List (List Char)) : String := String.ofList (ws.flatMap (' ' :: ·))

theorem words_blanks (ws : List (List Char)) :
    ws.flatMap (' ' :: ·) ++ [' '] = ' ' :: ws.flatMap (· ++ [' ']) := by
  induction ws with
  | nil => rfl
  | cons w ws ih => simp [ih]

theorem run_append_words (t : String) (ws : List (List Char)) :
    run {} ((t ++ wordsText ws).toList ++ [' ']) =
      run (run {} (t.toList ++ [' '])) (ws.flatMap (· ++ [' '])) := by
  rw [String.toList_append, wordsText, String.toList_ofList, List.append_assoc, words_blanks,
    ← run_append]
  simp

variable {t : String} {ws : List (List Char)}

/-- A text that leaves something open is read by a reader that is inside of that. -/
theorem held_of_not_closed (h : ¬Closed t) : Held (run {} (t.toList ++ [' '])) := by
  rw [run_append]
  rcases settles (run {} t.toList) with ⟨ls, hls⟩ | hheld
  · refine absurd ⟨ls, readsAs_iff.mpr ?_⟩ h
    rw [run_append]
    exact hls
  · exact hheld

theorem ReadsAs.append_words {ls : List Lexeme} (h : ReadsAs t ls)
    (hws : ∀ w ∈ ws, PlainWord w) : ReadsAs (t ++ wordsText ws) (ls ++ ws.map .word) := by
  rw [readsAs_iff, run_append_words, readsAs_iff.mp h]
  exact run_words hws ls

/-- **Words behind a text** are in its outline exactly if the text leaves nothing open. -/
theorem outline_append_words (hws : ∀ w ∈ ws, PlainWord w) :
    outline (t ++ wordsText ws) = outline t ++ if Closed t then ws.map .word else [] := by
  split
  · next h =>
    obtain ⟨ls, hls⟩ := h
    rw [outline_of_readsAs (hls.append_words hws), outline_of_readsAs hls]
  · next h =>
    rw [outline, run_append_words, ((held_of_not_closed h).run_words hws).2, List.append_nil]
    rfl

theorem openings_append_words (hws : ∀ w ∈ ws, PlainWord w) (hfree : StartsFree (ws.map .word))
    (c : Clause) : openings c (t ++ wordsText ws) =
      openings c t + if Closed t then (clauseList (items (ws.map .word))).count c else 0 := by
  unfold openings
  rw [outline_append_words hws]
  split
  · rw [items_append _ hfree, clauseList_append, List.count_append]
  · rw [List.append_nil, Nat.add_zero]

/-! ## A text between brackets -/

section

variable {s : State} {front : List Lexeme}

/-- A bracket closes what a blank leaves nothing open of. -/
theorem step_closing {ls : List Lexeme} (h : step s ' ' = { found := ls }) :
    step (s.inside front) ')' = { found := front ++ [.group .round ls] } := by
  rcases step_ends s with ⟨groups, found, hblank, hbracket⟩ | hinert
  · rw [hblank] at h
    cases h
    rw [hbracket]
    rfl
  · have hheld := (step_inert hinert (c := ' ') (by decide)).1
    rw [h] at hheld
    cases hheld

/-- A bracket does not get a reader out of what it is inside of. -/
theorem held_closing (h : Held (step s ' ')) :
    Held (step (s.inside front) ')') ∧ (step (s.inside front) ')').found = front := by
  rcases step_ends s with ⟨groups, found, hblank, hbracket⟩ | hinert
  · rw [hblank] at h
    rw [hbracket]
    cases groups with
    | nil => exact absurd h (not_held found)
    | cons g rest =>
      obtain ⟨b, xs⟩ := g
      rw [(surrounding_inside front).closeGroup _ _ (List.cons_ne_nil _ _)]
      unfold State.closeGroup
      by_cases hb : b = .round
      · simp only [if_pos hb]
        cases rest with
        | nil => exact ⟨.bracket _ _ _, rfl⟩
        | cons g' rest => exact ⟨.bracket _ _ _, rfl⟩
      · simp only [if_neg hb]
        exact ⟨.inert rfl, rfl⟩
  · obtain ⟨hmode, hfound⟩ := step_inert (s := s.inside front) hinert (c := ')') (by decide)
    exact ⟨.inert hmode, hfound⟩

end

theorem ReadsAs.step_blank {ls : List Lexeme} (h : ReadsAs t ls) :
    step (run {} t.toList) ' ' = { found := ls } := by
  rw [← readsAs_iff.mp h, run_append]
  rfl

theorem Closed.unbroken (h : Closed t) : Unbroken t := by
  obtain ⟨ls, hls⟩ := h
  intro hbroken
  have hblank := hls.step_blank
  rw [show step (run {} t.toList) ' ' = run (run {} t.toList) [' '] from rfl,
    run_broken hbroken] at hblank
  rw [hblank] at hbroken
  cases hbroken

section

variable {opening : String} {front : List Lexeme}
  (hopening : run {} opening.toList = State.inside front {})

include hopening

theorem run_between (h : Unbroken t) :
    run {} (opening ++ t ++ ")").toList = step ((run {} t.toList).inside front) ')' := by
  rw [String.toList_append, String.toList_append, run_append, run_append, hopening,
    (surrounding_inside front).run_eq h]
  rfl

theorem ReadsAs.between {ls : List Lexeme} (h : ReadsAs t ls) :
    ReadsAs (opening ++ t ++ ")") (front ++ [.group .round ls]) := by
  rw [readsAs_iff, run_append, run_between hopening (Closed.unbroken ⟨ls, h⟩),
    step_closing h.step_blank]
  rfl

/-- **A text between brackets** is one lexeme if it leaves nothing open, and else there is nothing
of it in the outline. -/
theorem outline_between (h : Unbroken t) :
    outline (opening ++ t ++ ")") =
        front ++ (if Closed t then [.group .round (outline t)] else []) ∧
      (Closed (opening ++ t ++ ")") ↔ Closed t) := by
  by_cases hclosed : Closed t
  · obtain ⟨ls, hls⟩ := hclosed
    have hread := hls.between hopening
    rw [outline_of_readsAs hread, outline_of_readsAs hls, if_pos ⟨ls, hls⟩]
    exact ⟨rfl, fun _ => ⟨ls, hls⟩, fun _ => ⟨_, hread⟩⟩
  · have hblank := held_of_not_closed hclosed
    rw [run_append] at hblank
    obtain ⟨hheld, hfound⟩ := @held_closing (run {} t.toList) front hblank
    rw [← run_between hopening h] at hheld hfound
    obtain ⟨hheld, hsame⟩ := hheld.step_blank
    rw [if_neg hclosed, List.append_nil, outline, run_append]
    refine ⟨hsame.trans hfound, fun ⟨ls, hls⟩ => ?_, fun h => absurd h hclosed⟩
    rw [hls.step_blank] at hheld
    exact absurd hheld (not_held ls)

end

end FluentQuery.Reading
