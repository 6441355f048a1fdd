import FluentQuery.Proofs.Number.Numeral
import Mathlib.Data.Rat.Floor
import Mathlib.Tactic.Linarith

/-!
# Integers that values stand for

A value that is asked for an integer gives one if it is a number, a text or bytes. A number gives
what is left when its fraction is cut off, so it gives itself only if it has none.

* **`CutTo`** — an integer is what is left of a number when its fraction is cut off;
* **`Text.Writes`** — a text writes an integer;
* **`Value.Stands`** — a value stands for an integer;
* **`Value.toInteger_eq_ok_iff`** — this is the integer that it gives;
* **`Value.toInteger_infinite_iff`** — the numbers that fail in a way of their own.
-/

namespace FluentQuery

/-! ## Cutting fractions off -/

/-- An integer is what is left of a number when its fraction is cut off. -/
structure CutTo (q : Rat) (n : Int) : Prop where
  below : 0 ≤ q → (n : Rat) ≤ q ∧ q < n + 1
  above : q ≤ 0 → q ≤ n ∧ (n : Rat) - 1 < q

namespace CutTo

variable {q : Rat} {m n : Int}

theorem unique (h : CutTo q m) (h' : CutTo q n) : m = n := by
  -- Both are within less than one of the number, on the same side of it.
  have hnear : (m : Rat) < n + 1 ∧ (n : Rat) < m + 1 := by
    rcases le_total 0 q with hq | hq
    · obtain ⟨hm, hm'⟩ := h.below hq
      obtain ⟨hn, hn'⟩ := h'.below hq
      exact ⟨by linarith, by linarith⟩
    · obtain ⟨hm, hm'⟩ := h.above hq
      obtain ⟨hn, hn'⟩ := h'.above hq
      exact ⟨by linarith, by linarith⟩
  have hless : m < n + 1 ∧ n < m + 1 := by exact_mod_cast hnear
  omega

theorem int (n : Int) : CutTo n n :=
  ⟨fun _ => ⟨le_refl _, by linarith⟩, fun _ => ⟨le_refl _, by linarith⟩⟩

theorem neg (h : CutTo q n) : CutTo (-q) (-n) := by
  refine ⟨fun hq => ?_, fun hq => ?_⟩
  · obtain ⟨hle, hlt⟩ := h.above (by linarith)
    push_cast
    exact ⟨by linarith, by linarith⟩
  · obtain ⟨hle, hlt⟩ := h.below (by linarith)
    push_cast
    exact ⟨by linarith, by linarith⟩

/-- Cutting a fraction off is division without a remainder. -/
theorem div (n : Nat) {d : Nat} (hd : 0 < d) : CutTo ((n : Rat) / d) ((n / d : Nat) : Int) := by
  have hd' : (0 : Rat) < d := by exact_mod_cast hd
  have hle : ((n / d : Nat) : Rat) ≤ (n : Rat) / d := by
    rw [le_div_iff₀ hd']
    exact_mod_cast Nat.div_mul_le_self n d
  have hlt : (n : Rat) / d < ((n / d : Nat) : Rat) + 1 := by
    rw [div_lt_iff₀ hd', mul_comm]
    exact_mod_cast Nat.lt_mul_div_succ n hd
  refine ⟨fun _ => ⟨by exact_mod_cast hle, by exact_mod_cast hlt⟩, fun hq => ?_⟩
  -- A quotient that is not positive is zero.
  have hzero : (n : Rat) / d = 0 := le_antisymm hq (div_nonneg (Nat.cast_nonneg n) hd'.le)
  rw [hzero] at hle hlt ⊢
  have hsame : n / d = 0 := by
    have hnot : ((n / d : Nat) : Rat) ≤ 0 := hle
    exact Nat.le_zero.mp (by exact_mod_cast hnot)
  rw [hsame]
  norm_num

theorem signed (negative : Bool) (n : Nat) {d : Nat} (hd : 0 < d) :
    CutTo (((if negative then -(n : Int) else (n : Int) : Int) : Rat) / d)
      (if negative then -((n / d : Nat) : Int) else ((n / d : Nat) : Int)) := by
  cases negative with
  | false =>
    show CutTo (((n : Int) : Rat) / d) ((n / d : Nat) : Int)
    rw [Int.cast_natCast]
    exact div n hd
  | true =>
    show CutTo (((-(n : Int) : Int) : Rat) / d) (-((n / d : Nat) : Int))
    rw [Int.cast_neg, Int.cast_natCast, neg_div]
    exact (div n hd).neg

/-- Nothing is left over exactly if there is no fraction. -/
theorem eq_iff (h : CutTo q n) : q = n ↔ ∃ k : Int, q = k := by
  refine ⟨fun hq => ⟨n, hq⟩, ?_⟩
  rintro ⟨k, rfl⟩
  rw [h.unique (int k)]

end CutTo

theorem Binary64.cut {x : Binary64} {q : Rat} (h : x.toRat? = some q) :
    ∃ n, x.truncate? = some n ∧ CutTo q n := by
  cases x with
  | finite negative m e =>
    have hpositive : 0 < (magnitude m e).2 := by
      unfold magnitude
      split
      · exact Nat.one_pos
      · exact Nat.pow_pos (by decide)
    have hq : q = ((if negative then -((magnitude m e).1 : Int) else ((magnitude m e).1 : Int) :
        Int) : Rat) / ((magnitude m e).2 : Rat) := (Option.some.inj h).symm
    rw [hq]
    exact ⟨_, rfl, .signed negative _ hpositive⟩
  | _ => cases h

theorem Decimal.cut {d : Decimal} {q : Rat} (h : d.toRat? = some q) :
    ∃ n, d.truncate? = some n ∧ CutTo q n := by
  cases d with
  | finite negative c e =>
    have hq := (Option.some.inj h).symm
    unfold truncate?
    simp only
    by_cases he : 0 ≤ e
    · rw [if_pos he] at hq ⊢
      refine ⟨_, rfl, ?_⟩
      have hsame : q = ((if negative then -((c * Nat.pow 10 e.toNat : Nat) : Int)
          else ((c * Nat.pow 10 e.toNat : Nat) : Int) : Int) : Rat) := by
        rw [hq]
        cases negative <;> simp
      rw [hsame]
      exact .int _
    · rw [if_neg he] at hq ⊢
      refine ⟨_, rfl, ?_⟩
      rw [hq]
      exact .signed negative c (Nat.pow_pos (by decide))
  | _ => cases h

/-! ## Texts and bytes -/

/-- A text writes an integer: it is a numeral, in digits of any script, among blanks. -/
def Text.Writes (s : String) (n : Int) : Prop :=
  ∃ inner, Padded isSpacing s.toList inner ∧ Numeral Text.digitValue? inner n

/-- The number of digits in a text. -/
def Text.digitCount (s : String) : Nat :=
  (s.toList.filter fun c => (Text.digitValue? c).isSome).length

/-- The characters that bytes stand for. -/
def bytesText (b : List UInt8) : List Char := b.map fun byte => Char.ofNat byte.toNat

theorem Text.exists_range {ranges : List (Nat × Nat)} {code i : Nat}
    (h : rangeIndex? ranges code = some i) : ∃ r ∈ ranges, r.1 ≤ code ∧ code ≤ r.2 := by
  induction ranges with
  | nil => cases h
  | cons r rest ih =>
    obtain ⟨first, last⟩ := r
    unfold rangeIndex? at h
    split at h
    · next hin =>
      rw [Bool.and_eq_true, decide_eq_true_iff, decide_eq_true_iff] at hin
      exact ⟨_, List.mem_cons_self, hin⟩
    · obtain ⟨r, hr, hin⟩ := ih h
      exact ⟨r, List.mem_cons_of_mem _ hr, hin⟩

/-- The digits of all scripts and the blanks of Unicode have no character in common. -/
theorem Text.separates : Separates Text.digitValue? isSpacing where
  underscore := by decide
  plus := by decide
  minus := by decide
  noPlus := by decide
  noMinus := by decide
  digit := by
    intro c d hd
    obtain ⟨i, hi, -⟩ := Option.map_eq_some_iff.mp hd
    obtain ⟨r, hr, hlow, hhigh⟩ := exists_range hi
    have hapart : ∀ r ∈ digitRanges, ∀ b ∈ blankRanges, r.2 < b.1 ∨ b.2 < r.1 := by decide
    unfold isSpacing isBlankChar
    rw [Bool.and_eq_false_iff]
    left
    rw [← Bool.not_eq_true, inRanges_iff]
    rintro ⟨b, hb, hlow', hhigh'⟩
    rcases hapart r hr b hb with h | h <;> omega

theorem Text.asciiSeparates : Separates Text.asciiDigit? isAsciiBlank where
  underscore := by decide
  plus := by decide
  minus := by decide
  noPlus := by decide
  noMinus := by decide
  digit := by
    intro c d hd
    unfold asciiDigit? at hd
    split at hd
    · next hdigit =>
      have hrange : 48 ≤ c.toNat ∧ c.toNat ≤ 57 := by
        simpa [Char.isDigit, UInt32.le_iff_toNat_le] using hdigit
      unfold isAsciiBlank
      rw [Bool.or_eq_false_iff, beq_eq_false_iff_ne, Bool.and_eq_false_iff, decide_eq_false_iff_not,
        decide_eq_false_iff_not]
      refine ⟨?_, .inr (by omega)⟩
      rintro rfl
      exact absurd hrange (by decide)
    · cases hd

namespace Value

/-- A value stands for an integer. -/
inductive Stands : Value → Int → Prop
  /-- A number stands for what is left when its fraction is cut off. -/
  | number {v : Value} {q : Rat} {n : Int} : v.toRat? = some q → CutTo q n → Stands v n
  /-- A text stands for the integer that it writes, if it has not too many digits. -/
  | text {s : String} {n : Int} : Text.Writes s n → Text.digitCount s ≤ maxNumeralDigits →
      Stands (.text s) n
  /-- Bytes stand for the integer that they write in ASCII. -/
  | bytes {b : List UInt8} {inner : List Char} {n : Int} :
      Padded isAsciiBlank (bytesText b) inner → Numeral Text.asciiDigit? inner n →
      ((bytesText b).filter fun c => (Text.asciiDigit? c).isSome).length ≤ maxNumeralDigits →
      Stands (.bytes b) n

variable {v : Value} {n : Int}

theorem exists_toInteger {q : Rat} (h : v.toRat? = some q) :
    ∃ m, v.toInteger = .ok m ∧ CutTo q m := by
  cases v with
  | bool b =>
    cases h
    refine ⟨_, rfl, ?_⟩
    cases b
    · exact_mod_cast CutTo.int 0
    · exact_mod_cast CutTo.int 1
  | int m =>
    cases h
    exact ⟨m, rfl, .int m⟩
  | float x =>
    obtain ⟨m, hm, hcut⟩ := Binary64.cut h
    cases x with
    | finite negative c e =>
      refine ⟨m, ?_, hcut⟩
      unfold toInteger
      simp only [hm, Option.getD_some]
    | _ => cases hm
  | decimal d =>
    obtain ⟨m, hm, hcut⟩ := Decimal.cut h
    cases d with
    | finite negative c e =>
      refine ⟨m, ?_, hcut⟩
      unfold toInteger
      simp only [hm, Option.getD_some]
    | _ => cases hm
  | _ => cases h

theorem toInteger_text_iff {s : String} :
    (Value.text s).toInteger = .ok n ↔
      Text.Writes s n ∧ Text.digitCount s ≤ maxNumeralDigits :=
  readNumeral_eq_ok_iff Text.separates

theorem toInteger_bytes_iff {b : List UInt8} :
    (Value.bytes b).toInteger = .ok n ↔
      (∃ inner, Padded isAsciiBlank (bytesText b) inner ∧ Numeral Text.asciiDigit? inner n) ∧
        ((bytesText b).filter fun c => (Text.asciiDigit? c).isSome).length ≤ maxNumeralDigits :=
  readNumeral_eq_ok_iff Text.asciiSeparates

/-- **A value gives the integer that it stands for**, and none if it stands for none. -/
theorem toInteger_eq_ok_iff : v.toInteger = .ok n ↔ v.Stands n := by
  constructor
  · intro h
    cases hnumber : v.toRat? with
    | some q =>
      obtain ⟨m, hm, hcut⟩ := exists_toInteger hnumber
      rw [hm] at h
      cases h
      exact .number hnumber hcut
    | none =>
      cases v with
      | text s =>
        obtain ⟨hwrites, hcount⟩ := toInteger_text_iff.mp h
        exact .text hwrites hcount
      | bytes b =>
        obtain ⟨⟨inner, hinner, hnumeral⟩, hcount⟩ := toInteger_bytes_iff.mp h
        exact .bytes hinner hnumeral hcount
      | float x =>
        cases x with
        | finite negative m e => exact absurd hnumber (by simp [toRat?, Binary64.toRat?])
        | _ => cases h
      | decimal d =>
        cases d with
        | finite negative c e => exact absurd hnumber (by simp [toRat?, Decimal.toRat?])
        | _ => cases h
      | bool b => cases hnumber
      | int m => cases hnumber
      | _ => cases h
  · intro h
    cases h with
    | number hnumber hcut =>
      obtain ⟨m, hm, hcut'⟩ := exists_toInteger hnumber
      rw [hm, hcut.unique hcut']
    | text hwrites hcount => exact toInteger_text_iff.mpr ⟨hwrites, hcount⟩
    | bytes hinner hnumeral hcount =>
      exact toInteger_bytes_iff.mpr ⟨⟨_, hinner, hnumeral⟩, hcount⟩

/-- An infinite number. -/
def IsInfinite (v : Value) : Prop :=
  (∃ negative, v = .float (.infinite negative)) ∨ ∃ negative, v = .decimal (.infinite negative)

theorem toInteger_infinite_iff :
    (∃ written, v.toInteger = .error (.infinite written)) ↔ v.IsInfinite := by
  constructor
  · rintro ⟨written, h⟩
    have hnumeral : ∀ {digit? : Char → Option Nat} {shown : String} {cs : List Char},
        readNumeral digit? shown cs ≠ .error (.infinite written) := by
      intro digit? shown cs hread
      unfold readNumeral at hread
      split at hread
      · cases hread
      · dsimp only at hread
        split at hread <;> cases hread
    cases v with
    | text s => exact absurd h hnumeral
    | bytes b => exact absurd h hnumeral
    | float x =>
      cases x with
      | infinite negative => exact .inl ⟨negative, rfl⟩
      | _ => cases h
    | decimal d =>
      cases d with
      | infinite negative => exact .inr ⟨negative, rfl⟩
      | _ => cases h
    | _ => cases h
  · rintro (⟨negative, rfl⟩ | ⟨negative, rfl⟩)
    · exact ⟨_, rfl⟩
    · exact ⟨_, rfl⟩

end Value

end FluentQuery
