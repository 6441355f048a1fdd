import FluentQuery.Value.Printed
import FluentQuery.Text.Blank

/-!
# Lexemes of a statement

What a text says to a database depends on which of its words stand outside quotes, comments and
brackets. `lexemes?` reads a text by the rules that SQL dialects share:

* a quoted text or name ends at its quote, and two quotes in a row are two quoted pieces in a row;
* a comment runs to the end of its line or to its closing mark; one inside another is not read,
  since dialects differ;
* brackets, and the words CASE and END, hold a group of lexemes;
* what is left are words and single marks.

The reader goes from character to character (`step`) and never looks at what stands around it
(`Surrounding`). So texts that are read as a whole can be put one behind the other: `ReadsAs.append`
is what all later readings of a statement rest on. A text that ends inside quotes, brackets or a
comment is not read at all.
-/

namespace FluentQuery.Reading

/-- Quotes. -/
inductive Quote where
  | single
  | double
  | back
  deriving DecidableEq

/-- The character of a quote. -/
def Quote.char : Quote → Char
  | .single => '\''
  | .double => '"'
  | .back => '`'

/-- Pairs of brackets, the words CASE and END among them. -/
inductive Bracket where
  | round
  | square
  | curly
  | words
  deriving DecidableEq

/-- A piece of a statement. -/
inductive Lexeme where
  | word (cs : List Char)
  | quoted (q : Quote) (cs : List Char)
  | mark (c : Char)
  /-- A value in the place of a placeholder. -/
  | value (v : Value)
  | group (b : Bracket) (inside : List Lexeme)

/-- Whether characters spell a word, in any case of the letters. -/
def spells (w : String) (cs : List Char) : Bool := cs.map Char.toUpper == w.toList

/-- Whether a lexeme is a given word. -/
def Lexeme.isWord (w : String) : Lexeme → Bool
  | .word cs => spells w cs
  | _ => false

/-- The word AND. -/
def andLexeme : Lexeme := .word ['A', 'N', 'D']

/-- What a character does outside quotes and comments. -/
inductive Role where
  | blank
  | word
  | quote (q : Quote)
  | opening (b : Bracket)
  | closing (b : Bracket)
  /-- Two of them start a comment. -/
  | dash
  /-- A comment starts with it. -/
  | slash
  | mark
  deriving DecidableEq

/-- The role of a character. Names go on over points, so that a column of a table is one word. -/
def role (c : Char) : Role :=
  if c == '\'' then .quote .single
  else if c == '"' then .quote .double
  else if c == '`' then .quote .back
  else if c == '(' then .opening .round
  else if c == ')' then .closing .round
  else if c == '[' then .opening .square
  else if c == ']' then .closing .square
  else if c == '\x7b' then .opening .curly
  else if c == '\x7d' then .closing .curly
  else if c == '-' then .dash
  else if c == '/' then .slash
  else if Text.isBlankChar c then .blank
  else if c.isAlphanum || c == '_' || c == '.' || c == '$' || 127 < c.toNat then .word
  else .mark

/-- Where a reader is. -/
inductive Mode where
  | plain
  | afterDash
  | afterSlash
  | quoted (q : Quote) (cs : List Char)
  | lineComment
  | comment
  | commentStar
  | commentSlash
  /-- The text cannot be read. -/
  | broken

/-- How far a text has been read. -/
structure State where
  mode : Mode := .plain
  /-- The characters of the word that is being read, the latest first. -/
  word : List Char := []
  /-- The groups that are open, the innermost first, with what they hold so far. -/
  groups : List (Bracket × List Lexeme) := []
  /-- The lexemes outside groups. -/
  found : List Lexeme := []

namespace State

/-- Adds a lexeme to the innermost group. -/
def add (s : State) (x : Lexeme) : State :=
  match s.groups with
  | [] => { s with found := s.found ++ [x] }
  | (b, xs) :: rest => { s with groups := (b, xs ++ [x]) :: rest }

/-- Opens a group. -/
def openGroup (s : State) (b : Bracket) : State := { s with groups := (b, []) :: s.groups }

/-- Closes the innermost group, which must be one of these brackets. -/
def closeGroup (s : State) (b : Bracket) : State :=
  match s.groups with
  | [] => { s with mode := .broken }
  | (b', xs) :: rest =>
    if b' = b then { s with groups := rest }.add (.group b xs) else { s with mode := .broken }

/-- Whether the innermost group is one that the word END closes. -/
def inCase (s : State) : Bool :=
  match s.groups with
  | (.words, _) :: _ => true
  | _ => false

/-- Adds a word; the words CASE and END open and close a group. -/
def addWord (s : State) (w : List Char) : State :=
  if spells "CASE" w then s.openGroup .words
  else if spells "END" w && s.inCase then s.closeGroup .words
  else s.add (.word w)

/-- Ends the word that is being read, if there is one. -/
def endWord (s : State) : State :=
  match s.word with
  | [] => s
  | c :: cs => { s with word := [] }.addWord (c :: cs).reverse

end State

/-- Reads a character outside quotes and comments. -/
def plainStep (s : State) (c : Char) : State :=
  match role c with
  | .word => { s with word := c :: s.word }
  | .blank => s.endWord
  | .quote q => { s.endWord with mode := .quoted q [] }
  | .opening b => s.endWord.openGroup b
  | .closing b => s.endWord.closeGroup b
  | .dash => { s.endWord with mode := .afterDash }
  | .slash => { s.endWord with mode := .afterSlash }
  | .mark => s.endWord.add (.mark c)

/-- Reads a character. -/
def step (s : State) (c : Char) : State :=
  match s.mode with
  | .plain => plainStep s c
  | .afterDash =>
    if c == '-' then { s with mode := .lineComment }
    else plainStep ({ s with mode := .plain }.add (.mark '-')) c
  | .afterSlash =>
    if c == '*' then { s with mode := .comment }
    else plainStep ({ s with mode := .plain }.add (.mark '/')) c
  | .quoted q cs =>
    if c == q.char then { s with mode := .plain }.add (.quoted q cs)
    else { s with mode := .quoted q (cs ++ [c]) }
  | .lineComment => if c == '\n' || c == '\r' then { s with mode := .plain } else s
  | .comment =>
    if c == '*' then { s with mode := .commentStar }
    else if c == '/' then { s with mode := .commentSlash }
    else s
  | .commentStar =>
    if c == '/' then { s with mode := .plain }
    else if c == '*' then s
    else { s with mode := .comment }
  | .commentSlash =>
    -- Some dialects take this for a comment inside the comment.
    if c == '*' then { s with mode := .broken }
    else if c == '/' then s
    else { s with mode := .comment }
  | .broken => s

/-- Reads characters one after the other. -/
def run (s : State) (cs : List Char) : State := cs.foldl step s

/-- The lexemes of a text, if it can be read as a whole; a blank behind it ends its last word. -/
def lexemes? (t : String) : Option (List Lexeme) :=
  match run {} (t.toList ++ [' ']) with
  | ⟨.plain, [], [], found⟩ => some found
  | _ => none

/-- A text is read as given lexemes. -/
def ReadsAs (t : String) (ls : List Lexeme) : Prop := lexemes? t = some ls

/-! ## What stands around a reader is never looked at -/

theorem run_append (s : State) (cs ds : List Char) : run s (cs ++ ds) = run (run s cs) ds :=
  List.foldl_append

/-- What cannot be read stays so. -/
theorem run_broken {s : State} (h : s.mode = .broken) (cs : List Char) : run s cs = s := by
  induction cs with
  | nil => rfl
  | cons c cs ih =>
    have hstep : step s c = s := by
      unfold step
      rw [h]
    show run (step s c) cs = s
    rw [hstep, ih]

/-- A change of what stands around a reader. The reader only adds to what it has found and only
closes groups that it has opened. -/
structure Surrounding (f : State → State) : Prop where
  mode_eq : ∀ s, (f s).mode = s.mode
  word_eq : ∀ s, (f s).word = s.word
  setMode : ∀ s m, { f s with mode := m } = f { s with mode := m }
  setWord : ∀ s w, { f s with word := w } = f { s with word := w }
  add : ∀ s x, (f s).add x = f (s.add x)
  openGroup : ∀ s b, (f s).openGroup b = f (s.openGroup b)
  closeGroup : ∀ s b, s.groups ≠ [] → (f s).closeGroup b = f (s.closeGroup b)
  inCase : ∀ s, (f s).inCase = s.inCase

namespace Surrounding

variable {f : State → State} (hf : Surrounding f)

include hf

theorem addWord_eq (s : State) (w : List Char) : (f s).addWord w = f (s.addWord w) := by
  unfold State.addWord
  rw [hf.inCase]
  split
  · exact hf.openGroup s .words
  · split
    · next h =>
      -- END is looked at where there is a group that it closes.
      refine hf.closeGroup s .words fun hnone => ?_
      rw [Bool.and_eq_true, State.inCase, hnone] at h
      cases h.2
    · exact hf.add s (.word w)

theorem endWord_eq (s : State) : (f s).endWord = f s.endWord := by
  unfold State.endWord
  rw [hf.word_eq]
  cases s.word with
  | nil => rfl
  | cons c cs =>
    show State.addWord { f s with word := [] } _ = f (State.addWord { s with word := [] } _)
    rw [hf.setWord, hf.addWord_eq]

theorem plainStep_eq {s : State} {c : Char} (h : (plainStep s c).mode ≠ .broken) :
    plainStep (f s) c = f (plainStep s c) := by
  unfold plainStep at h ⊢
  rw [hf.endWord_eq, hf.word_eq]
  split
  · exact hf.setWord s _
  · rfl
  · exact hf.setMode _ _
  · exact hf.openGroup _ _
  · next b hrole =>
    rw [hrole] at h
    refine hf.closeGroup _ b fun hnone => h ?_
    simp only [State.closeGroup, hnone]
  · exact hf.setMode _ _
  · exact hf.setMode _ _
  · exact hf.add _ _

/-- A step goes along with the change, unless it closes what the reader has not opened. -/
theorem step_eq {s : State} {c : Char} (h : (step s c).mode ≠ .broken) :
    step (f s) c = f (step s c) := by
  unfold step at h ⊢
  rw [hf.mode_eq]
  cases hmode : s.mode with
  | plain =>
    rw [hmode] at h
    exact hf.plainStep_eq h
  | afterDash =>
    simp only [hmode] at h ⊢
    split
    · exact hf.setMode s _
    · next hc =>
      rw [if_neg hc] at h
      rw [hf.setMode, hf.add]
      exact hf.plainStep_eq h
  | afterSlash =>
    simp only [hmode] at h ⊢
    split
    · exact hf.setMode s _
    · next hc =>
      rw [if_neg hc] at h
      rw [hf.setMode, hf.add]
      exact hf.plainStep_eq h
  | quoted q cs =>
    simp only
    split
    · rw [hf.setMode, hf.add]
    · exact hf.setMode s _
  | lineComment =>
    simp only
    split
    · exact hf.setMode s _
    · rfl
  | comment =>
    simp only
    split
    · exact hf.setMode s _
    · split
      · exact hf.setMode s _
      · rfl
  | commentStar =>
    simp only
    split
    · exact hf.setMode s _
    · split
      · rfl
      · exact hf.setMode s _
  | commentSlash =>
    simp only
    split
    · exact hf.setMode s _
    · split
      · rfl
      · exact hf.setMode s _
  | broken => rfl

theorem run_eq {s : State} {cs : List Char} (h : (run s cs).mode ≠ .broken) :
    run (f s) cs = f (run s cs) := by
  induction cs generalizing s with
  | nil => rfl
  | cons c cs ih =>
    have hstep : (step s c).mode ≠ .broken := by
      intro hbroken
      apply h
      show (run (step s c) cs).mode = .broken
      rw [run_broken hbroken, hbroken]
    show run (step (f s) c) cs = f (run (step s c) cs)
    rw [hf.step_eq hstep]
    exact ih h

end Surrounding

/-- A reader that has found lexemes before all that it has found. -/
def State.behind (ls : List Lexeme) (s : State) : State := { s with found := ls ++ s.found }

theorem surrounding_behind (ls : List Lexeme) : Surrounding (State.behind ls) := by
  have hadd : ∀ s x, (State.behind ls s).add x = State.behind ls (s.add x) := by
    rintro ⟨mode, word, groups, found⟩ x
    cases groups with
    | nil => simp [State.behind, State.add]
    | cons g rest => rfl
  refine ⟨fun _ => rfl, fun _ => rfl, fun _ _ => rfl, fun _ _ => rfl, hadd, fun _ _ => rfl, ?_,
    fun _ => rfl⟩
  rintro ⟨mode, word, groups, found⟩ b h
  cases groups with
  | nil => exact absurd rfl h
  | cons g rest =>
    obtain ⟨b', xs⟩ := g
    unfold State.closeGroup
    by_cases hb : b' = b
    · simp only [State.behind, if_pos hb]
      exact hadd ⟨mode, word, rest, found⟩ (.group b xs)
    · simp only [State.behind, if_neg hb]

/-! ## Texts one behind the other -/

/-- A text is read as lexemes where a blank behind it leaves nothing open. -/
theorem readsAs_iff {t : String} {ls : List Lexeme} :
    ReadsAs t ls ↔ run {} (t.toList ++ [' ']) = { found := ls } := by
  unfold ReadsAs lexemes?
  constructor
  · intro h
    split at h
    · next found heq =>
      obtain rfl := Option.some.inj h
      exact heq
    · cases h
  · intro h
    rw [h]

/-- A reader that has found lexemes reads on as one that starts anew. -/
theorem run_found {la lb : List Lexeme} {cs : List Char} (h : run {} cs = { found := lb }) :
    run { found := la } cs = { found := la ++ lb } := by
  have hstart : State.behind la {} = { found := la } := by simp [State.behind]
  have hread : (run {} cs).mode ≠ .broken := by
    rw [h]
    exact fun hbroken => (nomatch hbroken)
  rw [← hstart, (surrounding_behind la).run_eq hread, h]
  rfl

/-- A text between blanks is read on its own. -/
theorem ReadsAs.append {a b : String} {la lb : List Lexeme} (ha : ReadsAs a la)
    (hb : ReadsAs b lb) : ReadsAs (a ++ " " ++ b) (la ++ lb) := by
  rw [readsAs_iff] at ha hb ⊢
  have hchars : (a ++ " " ++ b).toList ++ [' '] = (a.toList ++ [' ']) ++ (b.toList ++ [' ']) := by
    simp [String.toList_append]
  rw [hchars, run_append, ha]
  exact run_found hb

/-- Where a blank leaves nothing open, a comma does not either. -/
theorem step_comma {s : State} {ls : List Lexeme} (h : step s ' ' = { found := ls }) :
    step s ',' = { found := ls ++ [.mark ','] } := by
  have hplain : ∀ s', plainStep s' ' ' = { found := ls } →
      plainStep s' ',' = { found := ls ++ [.mark ','] } := by
    intro s' hs
    show s'.endWord.add (.mark ',') = _
    rw [show s'.endWord = { found := ls } from hs]
    rfl
  obtain ⟨mode, word, groups, found⟩ := s
  -- Inside quotes and comments a blank would not have ended anything.
  cases mode with
  | plain => exact hplain _ h
  | afterDash => exact hplain _ h
  | afterSlash => exact hplain _ h
  | quoted q cs => cases q <;> cases h
  | lineComment => cases h
  | comment => cases h
  | commentStar => cases h
  | commentSlash => cases h
  | broken => cases h

/-- A text behind a comma is read on its own. -/
theorem ReadsAs.append_comma {a b : String} {la lb : List Lexeme} (ha : ReadsAs a la)
    (hb : ReadsAs b lb) : ReadsAs (a ++ ", " ++ b) (la ++ .mark ',' :: lb) := by
  rw [readsAs_iff] at ha hb ⊢
  have hchars : (a ++ ", " ++ b).toList ++ [' '] =
      a.toList ++ ',' :: ' ' :: (b.toList ++ [' ']) := by
    simp [String.toList_append]
  rw [run_append] at ha
  rw [hchars, run_append]
  show run (step (step (run {} a.toList) ',') ' ') (b.toList ++ [' ']) = _
  rw [step_comma ha, show la ++ .mark ',' :: lb = la ++ [.mark ','] ++ lb by simp]
  show run { found := la ++ [.mark ','] } (b.toList ++ [' ']) = _
  exact run_found hb

/-! ## Words and numbers -/

/-- Characters of a word are read into the word. -/
theorem run_word {cs : List Char} (h : ∀ c ∈ cs, role c = .word) (word : List Char)
    (groups : List (Bracket × List Lexeme)) (found : List Lexeme) :
    run ⟨.plain, word, groups, found⟩ cs = ⟨.plain, cs.reverse ++ word, groups, found⟩ := by
  induction cs generalizing word with
  | nil => rfl
  | cons c cs ih =>
    have hstep : step ⟨.plain, word, groups, found⟩ c = ⟨.plain, c :: word, groups, found⟩ := by
      simp [step, plainStep, h c List.mem_cons_self]
    show run (step _ c) cs = _
    rw [hstep, ih fun d hd => h d (List.mem_cons_of_mem _ hd)]
    simp

/-- A word that opens and closes nothing. -/
structure PlainWord (w : List Char) : Prop where
  ne_nil : w ≠ []
  word : ∀ c ∈ w, role c = .word
  opensNot : spells "CASE" w = false
  closesNot : spells "END" w = false

theorem PlainWord.of_check {w : List Char} (h : (!w.isEmpty && w.all (fun c => role c == .word) &&
    !spells "CASE" w && !spells "END" w) = true) : PlainWord w := by
  simp only [Bool.and_eq_true, Bool.not_eq_true', List.isEmpty_eq_false_iff, List.all_eq_true,
    beq_iff_eq] at h
  obtain ⟨⟨⟨hne, hword⟩, hopens⟩, hcloses⟩ := h
  exact ⟨hne, hword, hopens, hcloses⟩

/-- A plain word and the blank behind it. -/
theorem run_plainWord {w : List Char} (hw : PlainWord w) (groups : List (Bracket × List Lexeme))
    (found : List Lexeme) :
    run ⟨.plain, [], groups, found⟩ (w ++ [' ']) =
      State.add ⟨.plain, [], groups, found⟩ (.word w) := by
  rw [run_append, run_word hw.word, List.append_nil]
  show State.endWord ⟨.plain, w.reverse, groups, found⟩ = _
  cases hrev : w.reverse with
  | nil => exact absurd (List.reverse_eq_nil_iff.mp hrev) hw.ne_nil
  | cons c cs =>
    show State.addWord ⟨.plain, [], groups, found⟩ (c :: cs).reverse = _
    rw [← hrev, List.reverse_reverse, State.addWord, hw.opensNot, hw.closesNot]
    rfl

theorem role_of_isDigit {c : Char} (h : c.isDigit = true) : role c = .word := by
  obtain ⟨hlow, hhigh⟩ : 48 ≤ c.toNat ∧ c.toNat ≤ 57 := Char.isDigit_iff_toNat.mp h
  have hten : ∀ k < 10, role (Char.ofNat (48 + k)) = .word := by decide
  have hc : c = Char.ofNat (48 + (c.toNat - 48)) := by
    rw [Nat.add_sub_cancel' hlow, Char.ofNat_toNat]
  rw [hc]
  exact hten _ (by omega)

/-- No letter is a digit, so digits spell no word. -/
theorem spells_digits {w : String} {c : Char} {cs : List Char} (hc : c.isDigit = true)
    (hw : w.toList.head?.all fun l => !l.isDigit) : spells w (c :: cs) = false := by
  have hupper : c.toUpper = c := by
    have hhigh : c.toNat ≤ 57 := (Char.isDigit_iff_toNat.mp hc).2
    have hlower : ¬('a'.val ≤ c.val ∧ c.val ≤ 'z'.val) := by
      rintro ⟨hle, -⟩
      have hlow : 97 ≤ c.toNat := UInt32.le_iff_toNat_le.mp hle
      omega
    unfold Char.toUpper
    rw [dif_neg hlower]
  unfold spells
  rw [List.map_cons, hupper]
  cases hl : w.toList with
  | nil => rfl
  | cons l rest =>
    rw [hl] at hw
    have hne : c ≠ l := by
      rintro rfl
      simp [hc] at hw
    simp [hne]

theorem plainWord_digits {c : Char} {cs : List Char} (h : ∀ d ∈ c :: cs, d.isDigit = true) :
    PlainWord (c :: cs) where
  ne_nil := List.cons_ne_nil c cs
  word := fun d hd => role_of_isDigit (h d hd)
  opensNot := spells_digits (h c List.mem_cons_self) rfl
  closesNot := spells_digits (h c List.mem_cons_self) rfl

/-- Digits are one word. -/
theorem run_digits {c : Char} {cs : List Char} (h : ∀ d ∈ c :: cs, d.isDigit = true)
    (found : List Lexeme) :
    run { found } (c :: cs ++ [' ']) = { found := found ++ [.word (c :: cs)] } := by
  exact run_plainWord (plainWord_digits h) [] found

/-- The digits of a number are one word, behind a mark where the number is negative. -/
theorem intText_readsAs (n : Int) :
    ∃ c cs, c.isDigit = true ∧
      ReadsAs (intText n) (if n < 0 then [.mark '-', .word (c :: cs)] else [.word (c :: cs)]) := by
  have hdigits : ∀ c ∈ Nat.toDigits 10 n.natAbs, c.isDigit = true := fun c hc =>
    Nat.isDigit_of_mem_toDigits (by decide) (by decide) hc
  cases hcs : Nat.toDigits 10 n.natAbs with
  | nil => exact absurd hcs Nat.toDigits_ne_nil
  | cons c cs =>
    rw [hcs] at hdigits
    have hc := hdigits c List.mem_cons_self
    refine ⟨c, cs, hc, ?_⟩
    rw [readsAs_iff]
    unfold intText
    rw [String.toList_ofList, hcs]
    by_cases hneg : n < 0
    · rw [if_pos hneg, if_pos hneg]
      -- What the dash is shows only at the character behind it.
      have hdash : step (step {} '-') c = step { found := [.mark '-'] } c := by
        have hne : (c == '-') = false := by
          rw [beq_eq_false_iff_ne]
          rintro rfl
          exact absurd hc (by decide)
        show (if (c == '-') = true then _ else _) = _
        rw [hne]
        rfl
      show run (step (step {} '-') c) (cs ++ [' ']) = _
      rw [hdash]
      exact run_digits hdigits [.mark '-']
    · rw [if_neg hneg, if_neg hneg]
      exact run_digits hdigits []

end FluentQuery.Reading
