import FluentQuery.Proofs.Adapter.Calls
import FluentQuery.Proofs.Statement.Placeholders

/-!
# Texts for a driver that formats

A driver that formats its text goes over it from left to right: a doubled percent sign stands for
one, `%s` for the next value, and any other percent sign is an error. Without values it does not
format at all. `statement_survives` proves that what such a driver makes of the text it is handed
is the statement that was to be executed:

* **`Placeholder.read`** — the pieces that the driver finds in a text, values among them;
* **`Placeholder.read_eq_some_iff`** — a text can be read if every percent sign in it belongs to a
  pair, and in one way only;
* **`Placeholder.received`** — what is made of a text that comes with or without values.
-/

namespace FluentQuery

namespace Placeholder

/-- A piece of a text as a driver that formats reads it. -/
inductive Piece where
  | char (c : Char)
  /-- The place of the next value. -/
  | marker
  deriving DecidableEq

namespace Piece

/-- A piece in a text that is to be formatted. -/
def spelled : Piece → List Char
  | .char c => if c = '%' then ['%', '%'] else [c]
  | .marker => ['%', 's']

/-- A piece in a statement with placeholders. -/
def written : Piece → Char
  | .char c => c
  | .marker => '?'

/-- The piece that a character of a statement is meant to be. -/
def ofChar (c : Char) : Piece := if c = '?' then .marker else .char c

theorem written_ofChar (c : Char) : (ofChar c).written = c := by
  unfold ofChar
  split
  · next h => exact h.symm
  · rfl

theorem spelled_ofChar (c : Char) : (ofChar c).spelled = formatChar c := by
  unfold ofChar formatChar
  by_cases hmark : c = '?'
  · subst hmark
    rfl
  · rw [if_neg hmark, if_neg hmark]
    rfl

end Piece

/-- The pieces of a text, unless a percent sign stands outside a pair. -/
def read : List Char → Option (List Piece)
  | [] => some []
  | '%' :: '%' :: rest => (read rest).map (.char '%' :: ·)
  | '%' :: 's' :: rest => (read rest).map (.marker :: ·)
  | '%' :: _ => none
  | c :: rest => (read rest).map (.char c :: ·)

theorem read_cons {c : Char} (h : c ≠ '%') (rest : List Char) :
    read (c :: rest) = (read rest).map (.char c :: ·) := by
  rw [read.eq_def]
  split <;> simp_all

/-- Reading undoes spelling. -/
theorem read_spelled (pieces : List Piece) : read (pieces.flatMap Piece.spelled) = some pieces := by
  induction pieces with
  | nil => rfl
  | cons p pieces ih =>
    rw [List.flatMap_cons]
    cases p with
    | marker => simp [Piece.spelled, read, ih]
    | char c =>
      by_cases h : c = '%'
      · subst h
        simp [Piece.spelled, read, ih]
      · simp [Piece.spelled, h, read_cons h, ih]

/-- A text that can be read is the spelling of what is read: each percent sign in it belongs to a
pair. -/
theorem spelled_of_read {cs : List Char} {pieces : List Piece} (h : read cs = some pieces) :
    cs = pieces.flatMap Piece.spelled := by
  fun_induction read cs generalizing pieces with
  | case1 =>
    cases h
    rfl
  | case2 rest ih =>
    obtain ⟨more, hmore, rfl⟩ := Option.map_eq_some_iff.mp h
    simp [Piece.spelled, ← ih hmore]
  | case3 rest ih =>
    obtain ⟨more, hmore, rfl⟩ := Option.map_eq_some_iff.mp h
    simp [Piece.spelled, ← ih hmore]
  | case4 => cases h
  | case5 c rest hdouble hmarker hlone ih =>
    obtain ⟨more, hmore, rfl⟩ := Option.map_eq_some_iff.mp h
    rw [List.flatMap_cons, ← ih hmore]
    simp [Piece.spelled, show c ≠ '%' from hlone]

theorem read_eq_some_iff {cs : List Char} {pieces : List Piece} :
    read cs = some pieces ↔ cs = pieces.flatMap Piece.spelled :=
  ⟨spelled_of_read, fun h => h ▸ read_spelled pieces⟩

/-- A formatted text is read as what its characters are meant to be, one by one. -/
theorem read_format (sql : String) :
    read (format sql).toList = some (sql.toList.map Piece.ofChar) := by
  rw [read_eq_some_iff, format, String.toList_ofList, List.flatMap_map]
  simp only [Piece.spelled_ofChar]

theorem written_ofChars (sql : String) :
    String.ofList ((sql.toList.map Piece.ofChar).map Piece.written) = sql := by
  simp [Function.comp_def, Piece.written_ofChar]

theorem count_marker_ofChars (cs : List Char) :
    (cs.map Piece.ofChar).count .marker = cs.count '?' := by
  induction cs with
  | nil => rfl
  | cons c cs ih =>
    by_cases h : c = '?' <;> simp [Piece.ofChar, h, ih]

/-- What a driver makes of a text: without values it is not formatted. -/
def received (text : String) : Option (List Value) → Option (List Piece)
  | none => some (text.toList.map .char)
  | some _ => read text.toList

end Placeholder

namespace Adapter

open Placeholder

/-- A cursor can be taken on the connection that an adapter holds. -/
def GivesCursor (a : Adapter) : Prop :=
  ∃ n, a.connection = some n ∧ a.driver.fault (a.calls ++ [.cursor n]) = none

theorem takeCursor_runFrom {a : Adapter} (hengine : a.engine ≠ .duckdb)
    (records : List LogRecord) :
    (takeCursor.runFrom ⟨a, records⟩).1 =
      (match a.connection with
        | some n => a.outcome (.cursor n)
        | none => .error (.misuse (.noMember "NoneType" "cursor"))) := by
  unfold takeCursor
  rw [Action.runFrom_bind_ok (Action.runFrom_current _)]
  show ((if a.engine = .duckdb then pure () else do
    call (.cursor (← held "cursor")) : Action Adapter Unit).runFrom ⟨a, records⟩).1 = _
  rw [if_neg hengine]
  have hheld := held_runFrom "cursor" ⟨a, records⟩
  cases hconnection : a.connection with
  | none =>
    simp only [hconnection] at hheld
    rw [Action.runFrom_bind_error hheld]
  | some n =>
    simp only [hconnection] at hheld
    rw [Action.runFrom_bind_ok hheld, call_runFrom]

theorem takeCursor_eq_ok_iff {a : Adapter} (hengine : a.engine ≠ .duckdb)
    (records : List LogRecord) :
    (takeCursor.runFrom ⟨a, records⟩).1 = .ok () ↔ a.GivesCursor := by
  rw [takeCursor_runFrom hengine]
  unfold GivesCursor outcome
  cases a.connection with
  | none => simp
  | some n => cases hfault : a.driver.fault (a.calls ++ [.cursor n]) <;> simp [hfault]

/-- A call hands over a statement with its values so that the driver, formatting or not, runs just
that statement. -/
def HandsOver (c : DriverCall) (sql : String) (values : List Value) : Prop :=
  ∃ n text args pieces, c = .execute n text args ∧
    (args = none ↔ values = []) ∧ (∀ given, args = some given → given = values) ∧
    received text args = some pieces ∧
    (args ≠ none → text.toList = pieces.flatMap Piece.spelled ∧
      pieces.count .marker = marks sql) ∧
    String.ofList (pieces.map Piece.written) = sql

theorem handing_handsOver (n : Nat) (sql : String) (values : List Value) :
    HandsOver (handing n (Engine.postgres.prepare sql values).1
      (Engine.postgres.prepare sql values).2) sql values := by
  cases values with
  | nil =>
    refine ⟨n, sql, none, sql.toList.map .char, rfl, by simp, by simp, rfl, by simp, ?_⟩
    simp [Function.comp_def, Piece.written]
  | cons v values =>
    refine ⟨n, format sql, some (v :: values), sql.toList.map Piece.ofChar, rfl, by simp, ?_,
      read_format sql, ?_, written_ofChars sql⟩
    · intro given hgiven
      exact (Option.some.inj hgiven).symm
    · intro _
      exact ⟨spelled_of_read (read_format sql), count_marker_ofChars sql.toList⟩

/-- **A statement survives being formatted.** On a connected adapter for a driver that formats, one
execution hands over one statement if a cursor can be taken, and else none; it comes with values
exactly if there are some, and with just these; and what the driver makes of it is the text that was
to be executed, with a value in the place of each placeholder. -/
theorem statement_survives (a : Adapter) (sql : String) (params : Value) (values : List Value)
    (records : List LogRecord) (hengine : a.engine = .postgres) (hconnected : a.connected = true)
    (hvalues : boundValues params = .ok values) :
    ∃ made, ((execute sql params).runFrom ⟨a, records⟩).2.state = a.after made ∧
      (a.GivesCursor → ∃ c, made.filter DriverCall.handsStatement = [c] ∧
        HandsOver c sql values) ∧
      (¬a.GivesCursor → made.filter DriverCall.handsStatement = []) := by
  obtain ⟨made, hstate, hmade⟩ := execute_hands hconnected hvalues records
  have hcursor := takeCursor_eq_ok_iff (a := a) (by rw [hengine]; decide) records
  refine ⟨made, hstate, fun hgives => ?_, fun hrefuses => ?_⟩
  · obtain ⟨n, hconnection, -⟩ := id hgives
    rw [hcursor.mpr hgives, hconnection, hengine] at hmade
    exact ⟨_, hmade, handing_handsOver n sql values⟩
  · cases hrun : (takeCursor.runFrom ⟨a, records⟩).1 with
    | error e =>
      rw [hrun] at hmade
      exact hmade
    | ok u => exact absurd (hcursor.mp hrun) hrefuses

/-- An adapter for a driver that formats and never fails. -/
def formatting : Adapter where
  engine := .postgres
  options := .dict []
  connection := some 0
  connected := true
  opened := 1

theorem statement_survives_percents :
    formatting.engine = .postgres ∧ formatting.connected = true ∧ formatting.GivesCursor ∧
      ∃ made c, ((execute "SELECT a FROM t WHERE b LIKE '%s%' AND c = ? AND d % ? = 0"
          (.list [.int 1, .int 2])).runFrom ⟨formatting, []⟩).2.state = formatting.after made ∧
        made.filter DriverCall.handsStatement = [c] ∧
        HandsOver c "SELECT a FROM t WHERE b LIKE '%s%' AND c = ? AND d % ? = 0"
          [.int 1, .int 2] := by
  have hgives : formatting.GivesCursor := ⟨0, rfl, rfl⟩
  obtain ⟨made, hstate, hmade, -⟩ := statement_survives formatting
    "SELECT a FROM t WHERE b LIKE '%s%' AND c = ? AND d % ? = 0" (.list [.int 1, .int 2])
    [.int 1, .int 2] [] rfl rfl (boundValues_list _)
  obtain ⟨c, hc, hover⟩ := hmade hgives
  exact ⟨rfl, rfl, hgives, made, c, hstate, hc, hover⟩

end Adapter

end FluentQuery
