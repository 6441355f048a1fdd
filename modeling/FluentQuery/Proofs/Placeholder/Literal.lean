import Mathlib.Data.List.Forall2
import FluentQuery.Proofs.Placeholder.Formatted
import FluentQuery.Proofs.Reading.Lexeme

/-!
# Question marks in literals

A question mark inside a literal in single quotes is text and no placeholder. Formatting does not
look at quotes: it makes a marker of every question mark. `placeholders_alone_iff` gives the exact
condition under which the values still go with the placeholders and literals stay as they are.

* **`Placeholder.inLiterals`** — the characters of a text, each with whether it is inside a literal;
* **`Placeholder.placeholders`**, **`Placeholder.literalMarks`** — the question marks of a text
  outside and inside literals.
-/

namespace FluentQuery.Placeholder

open Reading (Quote)

/-- The characters of a text, each with whether it stands inside a literal in single quotes. A
doubled quote in a literal ends it and starts it again, with nothing in between. -/
def inLiterals (inside : Bool) : List Char → List (Char × Bool)
  | [] => []
  | c :: rest =>
    (c, inside) :: inLiterals (if c = Quote.single.char then !inside else inside) rest

/-- The number of placeholders: question marks outside literals. -/
def placeholders (sql : String) : Nat := (inLiterals false sql.toList).count ('?', false)

/-- The number of question marks inside literals. -/
def literalMarks (sql : String) : Nat := (inLiterals false sql.toList).count ('?', true)

/-- Every question mark inside a literal is still one in what a driver makes of the text. -/
def KeepsLiterals (sql : String) (pieces : List Piece) : Prop :=
  List.Forall₂ (fun c piece => c = ('?', true) → piece = .char '?') (inLiterals false sql.toList)
    pieces

/-- A question mark is either a placeholder or in a literal. -/
theorem count_inLiterals (inside : Bool) (cs : List Char) :
    (inLiterals inside cs).count ('?', false) + (inLiterals inside cs).count ('?', true) =
      cs.count '?' := by
  induction cs generalizing inside with
  | nil => rfl
  | cons c cs ih =>
    rw [inLiterals, List.count_cons, List.count_cons, List.count_cons]
    generalize (if c = Quote.single.char then !inside else inside) = next
    have hrest := ih next
    by_cases hmark : c = '?'
    · subst hmark
      cases inside <;> simp <;> omega
    · have hne : ∀ flag, ((c, inside) == ('?', flag)) = false := by simp [hmark]
      simp only [hne, beq_eq_false_iff_ne.mpr hmark]
      exact hrest

theorem marks_eq (sql : String) : placeholders sql + literalMarks sql = marks sql :=
  count_inLiterals false sql.toList

/-- Every question mark in a literal becomes a marker, so all are kept only if there is none. -/
theorem keeps_ofChars_iff (inside : Bool) (cs : List Char) :
    List.Forall₂ (fun c piece => c = ('?', true) → piece = .char '?') (inLiterals inside cs)
        (cs.map Piece.ofChar) ↔
      (inLiterals inside cs).count ('?', true) = 0 := by
  induction cs generalizing inside with
  | nil => exact iff_of_true .nil rfl
  | cons c cs ih =>
    rw [inLiterals, List.map_cons, List.forall₂_cons, ih, List.count_cons]
    by_cases hhere : (c, inside) = ('?', true)
    · obtain ⟨rfl, rfl⟩ := Prod.mk.inj hhere
      simp [Piece.ofChar]
    · simp [hhere]

theorem keepsLiterals_iff (sql : String) :
    KeepsLiterals sql (sql.toList.map Piece.ofChar) ↔ literalMarks sql = 0 :=
  keeps_ofChars_iff false sql.toList

/-- **Only placeholders are rewritten exactly if no literal has a question mark.** Where as many
values come as there are placeholders, a driver that formats finds a marker for each of them and one
more for every question mark in a literal. So the markers go with the values, and literals stay as
they are, just where no literal has a question mark. -/
theorem placeholders_alone_iff (sql : String) (params : List Value) (hsome : params ≠ [])
    (hcount : params.length = placeholders sql) :
    ∃ pieces, read (Engine.postgres.prepare sql params).1.toList = some pieces ∧
      pieces.count .marker = params.length + literalMarks sql ∧
      (pieces.count .marker = params.length ↔ literalMarks sql = 0) ∧
      (KeepsLiterals sql pieces ↔ literalMarks sql = 0) := by
  have hprepare : (Engine.postgres.prepare sql params).1 = format sql := by
    unfold Engine.prepare
    rw [if_pos ⟨rfl, hsome⟩]
  have hmarkers : (sql.toList.map Piece.ofChar).count .marker =
      params.length + literalMarks sql := by
    rw [count_marker_ofChars, hcount, marks_eq]
    rfl
  rw [hprepare]
  refine ⟨_, read_format sql, hmarkers, ?_, keepsLiterals_iff sql⟩
  rw [hmarkers]
  omega

theorem placeholders_alone_beside_literal :
    placeholders "SELECT 'it''s' FROM t WHERE a = ?" = 1 ∧
      literalMarks "SELECT 'it''s' FROM t WHERE a = ?" = 0 ∧
      ∃ pieces, read (Engine.postgres.prepare "SELECT 'it''s' FROM t WHERE a = ?"
          [.int 1]).1.toList = some pieces ∧
        pieces.count .marker = 1 ∧ KeepsLiterals "SELECT 'it''s' FROM t WHERE a = ?" pieces := by
  have hcount : placeholders "SELECT 'it''s' FROM t WHERE a = ?" = 1 := by decide +kernel
  have hnone : literalMarks "SELECT 'it''s' FROM t WHERE a = ?" = 0 := by decide +kernel
  obtain ⟨pieces, hread, -, hmarkers, hkeeps⟩ := placeholders_alone_iff
    "SELECT 'it''s' FROM t WHERE a = ?" [.int 1] (List.cons_ne_nil _ _) hcount.symm
  exact ⟨hcount, hnone, pieces, hread, hmarkers.mpr hnone, hkeeps.mpr hnone⟩

/-- A question mark in a literal takes the value of the placeholder behind it. -/
theorem mark_in_literal_rewritten :
    [Value.int 1].length = placeholders "SELECT '?' FROM t WHERE a = ?" ∧
      (Engine.postgres.prepare "SELECT '?' FROM t WHERE a = ?" [.int 1]).1 =
        "SELECT '%s' FROM t WHERE a = %s" ∧
      ∃ pieces, read (Engine.postgres.prepare "SELECT '?' FROM t WHERE a = ?"
          [.int 1]).1.toList = some pieces ∧
        pieces.count .marker ≠ [Value.int 1].length ∧
        ¬KeepsLiterals "SELECT '?' FROM t WHERE a = ?" pieces := by
  have hmarks : literalMarks "SELECT '?' FROM t WHERE a = ?" ≠ 0 := by decide +kernel
  have hmarkers : ("SELECT '?' FROM t WHERE a = ?".toList.map Piece.ofChar).count .marker ≠
      [Value.int 1].length := by decide +kernel
  refine ⟨by decide +kernel, by decide +kernel, _, read_format _, hmarkers, ?_⟩
  rw [keepsLiterals_iff]
  exact hmarks

end FluentQuery.Placeholder
