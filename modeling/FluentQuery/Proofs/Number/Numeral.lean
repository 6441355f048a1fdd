import FluentQuery.Number.Integer
import Mathlib.Data.List.DropRight

/-!
# Numerals

What reads a numeral goes through its characters one by one. What a numeral is can be said without
that: digits with single underscores between them, behind an optional sign and among blanks.

* **`Digits`**, **`Numeral`** — the texts that write a number, and the number;
* **`readInteger?_eq_some_iff`** — just these are read, and as their number;
* **`Padded`**, **`trim_eq_of_padded`** — blanks around a text, and how they are dropped;
* **`readNumeral_eq_ok_iff`** — both together, up to the number of digits that is allowed.
-/

namespace FluentQuery

variable {digit? : Char → Option Nat}

/-- Digits with single underscores between them, and the number that they write. -/
inductive Digits (digit? : Char → Option Nat) : List Char → Nat → Prop
  | first {c : Char} {d : Nat} : digit? c = some d → Digits digit? [c] d
  | next {cs : List Char} {n : Nat} {c : Char} {d : Nat} : Digits digit? cs n →
      digit? c = some d → Digits digit? (cs ++ [c]) (10 * n + d)
  | apart {cs : List Char} {n : Nat} {c : Char} {d : Nat} : Digits digit? cs n →
      digit? c = some d → Digits digit? (cs ++ ['_', c]) (10 * n + d)

/-- Digits behind an optional sign, and the integer that they write. -/
inductive Numeral (digit? : Char → Option Nat) : List Char → Int → Prop
  | unsigned {cs : List Char} {n : Nat} : Digits digit? cs n → Numeral digit? cs n
  | plus {cs : List Char} {n : Nat} : Digits digit? cs n → Numeral digit? ('+' :: cs) n
  | minus {cs : List Char} {n : Nat} : Digits digit? cs n → Numeral digit? ('-' :: cs) (-n)

/-- The other characters of a numeral are no digits. -/
structure Distinguishes (digit? : Char → Option Nat) : Prop where
  underscore : digit? '_' = none
  plus : digit? '+' = none
  minus : digit? '-' = none

/-! ## Digits -/

namespace Digits

variable {cs : List Char} {n : Nat}

/-- A digit stands first. -/
theorem exists_head (h : Digits digit? cs n) :
    ∃ c rest d, cs = c :: rest ∧ digit? c = some d := by
  induction h with
  | first hc => exact ⟨_, _, _, rfl, hc⟩
  | next _ _ ih =>
    obtain ⟨c, rest, d, rfl, hc⟩ := ih
    exact ⟨c, _, d, rfl, hc⟩
  | apart _ _ ih =>
    obtain ⟨c, rest, d, rfl, hc⟩ := ih
    exact ⟨c, _, d, rfl, hc⟩

/-- A digit stands last. -/
theorem exists_last (h : Digits digit? cs n) :
    ∃ front c d, cs = front ++ [c] ∧ digit? c = some d := by
  cases h with
  | first hc => exact ⟨[], _, _, rfl, hc⟩
  | next _ hc => exact ⟨_, _, _, rfl, hc⟩
  | @apart front _ c d _ hc => exact ⟨front ++ ['_'], c, d, by simp, hc⟩

end Digits

section Steps

variable {acc d : Nat} {fresh : Bool} {c : Char} {rest : List Char}

theorem readDigits?_digit (hd : Distinguishes digit?) (hc : digit? c = some d) :
    readDigits? digit? acc fresh (c :: rest) = readDigits? digit? (10 * acc + d) false rest := by
  have hne : (c == '_') = false := by
    rw [beq_eq_false_iff_ne]
    rintro rfl
    rw [hd.underscore] at hc
    cases hc
  simp [readDigits?, hne, hc]

theorem readDigits?_underscore :
    readDigits? digit? acc fresh ('_' :: rest) =
      if fresh then none else readDigits? digit? acc true rest := by
  simp [readDigits?]

theorem readDigits?_other (hne : c ≠ '_') (hc : digit? c = none) :
    readDigits? digit? acc fresh (c :: rest) = none := by
  simp [readDigits?, hne, hc]

end Steps

/-- Behind digits the reader goes on from their number. -/
theorem Digits.read_append (hd : Distinguishes digit?) {cs : List Char} {n : Nat}
    (h : Digits digit? cs n) (rest : List Char) :
    readDigits? digit? 0 true (cs ++ rest) = readDigits? digit? n false rest := by
  induction h generalizing rest with
  | @first c d hc =>
    show readDigits? digit? 0 true (c :: rest) = _
    rw [readDigits?_digit hd hc, Nat.mul_zero, Nat.zero_add]
  | next _ hc ih =>
    rw [List.append_assoc, ih]
    exact readDigits?_digit hd hc
  | @apart cs n c d _ hc ih =>
    rw [List.append_assoc, ih]
    show readDigits? digit? n false ('_' :: c :: rest) = _
    rw [readDigits?_underscore, if_neg Bool.false_ne_true, readDigits?_digit hd hc]

/-- Where the reader stands: at the start, behind digits, or behind an underscore after them. -/
inductive StandsBehind (digit? : Char → Option Nat) : List Char → Nat → Bool → Prop
  | nothing : StandsBehind digit? [] 0 true
  | digits {front : List Char} {acc : Nat} : Digits digit? front acc →
      StandsBehind digit? front acc false
  | underscore {front : List Char} {acc : Nat} : Digits digit? front acc →
      StandsBehind digit? (front ++ ['_']) acc true

theorem StandsBehind.digit {front : List Char} {acc d : Nat} {fresh : Bool} {c : Char}
    (h : StandsBehind digit? front acc fresh) (hc : digit? c = some d) :
    Digits digit? (front ++ [c]) (10 * acc + d) := by
  cases h with
  | nothing => simpa using Digits.first hc
  | digits hdigits => exact hdigits.next hc
  | underscore hdigits => simpa using hdigits.apart hc

/-- What the reader gets to the end of is digits. -/
theorem digits_of_read (hd : Distinguishes digit?) {front rest : List Char} {acc n : Nat}
    {fresh : Bool} (hfront : StandsBehind digit? front acc fresh)
    (h : readDigits? digit? acc fresh rest = some n) : Digits digit? (front ++ rest) n := by
  induction rest generalizing front acc fresh with
  | nil =>
    cases hfront with
    | digits hdigits =>
      cases h
      rwa [List.append_nil]
    | _ => cases h
  | cons c rest ih =>
    rw [List.append_cons]
    by_cases hc : c = '_'
    · subst hc
      rw [readDigits?_underscore] at h
      cases hfront with
      | digits hdigits => exact ih (.underscore hdigits) h
      | _ => cases h
    · cases hdigit : digit? c with
      | none =>
        rw [readDigits?_other hc hdigit] at h
        cases h
      | some d =>
        rw [readDigits?_digit hd hdigit] at h
        exact ih (.digits (hfront.digit hdigit)) h

theorem readDigits?_eq_some_iff (hd : Distinguishes digit?) {cs : List Char} {n : Nat} :
    readDigits? digit? 0 true cs = some n ↔ Digits digit? cs n := by
  constructor
  · exact digits_of_read hd .nothing
  · intro h
    have hread := h.read_append hd []
    rwa [List.append_nil] at hread

/-! ## Signs -/

theorem readInteger?_eq (cs : List Char) :
    readInteger? digit? cs = (readDigits? digit? 0 true (takeSign cs).2).map
      fun n : Nat => if (takeSign cs).1 then -(n : Int) else n := by
  unfold readInteger?
  cases takeSign cs with
  | mk negative digits =>
    simp only
    cases readDigits? digit? 0 true digits <;> rfl

theorem takeSign_of_digits (hd : Distinguishes digit?) {cs : List Char} {n : Nat}
    (h : Digits digit? cs n) : takeSign cs = (false, cs) := by
  obtain ⟨c, rest, d, rfl, hc⟩ := h.exists_head
  unfold takeSign
  split
  · next heq =>
    cases heq
    rw [hd.minus] at hc
    cases hc
  · next heq =>
    cases heq
    rw [hd.plus] at hc
    cases hc
  · rfl

/-- A numeral is read as the integer that it writes, and nothing else is read. -/
theorem readInteger?_eq_some_iff (hd : Distinguishes digit?) {cs : List Char} {n : Int} :
    readInteger? digit? cs = some n ↔ Numeral digit? cs n := by
  rw [readInteger?_eq]
  simp only [Option.map_eq_some_iff, readDigits?_eq_some_iff hd]
  constructor
  · rintro ⟨m, hm, rfl⟩
    unfold takeSign at hm ⊢
    split at hm
    · exact .minus hm
    · exact .plus hm
    · exact .unsigned hm
  · intro h
    cases h with
    | minus hm => exact ⟨_, hm, rfl⟩
    | plus hm => exact ⟨_, hm, rfl⟩
    | unsigned hm =>
      rw [takeSign_of_digits hd hm]
      exact ⟨_, hm, rfl⟩

/-! ## Blanks -/

/-- A text is another one among blanks. -/
def Padded (blank : Char → Bool) (cs inner : List Char) : Prop :=
  ∃ before after, cs = before ++ inner ++ after ∧ (∀ c ∈ before, blank c = true) ∧
    ∀ c ∈ after, blank c = true

/-- A text without the blanks at its ends. -/
def trim (blank : Char → Bool) (cs : List Char) : List Char :=
  ((cs.dropWhile blank).reverse.dropWhile blank).reverse

section Blanks

variable {blank : Char → Bool} {cs inner : List Char}

theorem padded_trim (blank : Char → Bool) (cs : List Char) : Padded blank cs (trim blank cs) := by
  refine ⟨cs.takeWhile blank, ((cs.dropWhile blank).reverse.takeWhile blank).reverse, ?_, ?_, ?_⟩
  · unfold trim
    rw [List.append_assoc, ← List.reverse_append, List.takeWhile_append_dropWhile,
      List.reverse_reverse, List.takeWhile_append_dropWhile]
  · exact fun c hc => List.mem_takeWhile_imp hc
  · exact fun c hc => List.mem_takeWhile_imp (List.mem_reverse.mp hc)

theorem dropWhile_blanks {before : List Char} (h : ∀ c ∈ before, blank c = true)
    {rest : List Char} (hrest : ∀ c ∈ rest.head?, blank c = false) :
    (before ++ rest).dropWhile blank = rest := by
  rw [List.dropWhile_append_of_pos h]
  cases rest with
  | nil => rfl
  | cons c rest => exact List.dropWhile_cons_of_neg (by simpa using hrest c rfl)

/-- A text that neither starts nor ends with a blank is what is left of it among blanks. -/
theorem trim_eq_of_padded (h : Padded blank cs inner) (hne : inner ≠ [])
    (hhead : ∀ c ∈ inner.head?, blank c = false) (hlast : ∀ c ∈ inner.getLast?, blank c = false) :
    trim blank cs = inner := by
  obtain ⟨before, after, rfl, hbefore, hafter⟩ := h
  have hhead' : ∀ c ∈ (inner ++ after).head?, blank c = false := by
    cases inner with
    | nil => exact absurd rfl hne
    | cons c rest => exact hhead
  unfold trim
  rw [List.append_assoc, dropWhile_blanks hbefore hhead', List.reverse_append,
    dropWhile_blanks (fun c hc => hafter c (List.mem_reverse.mp hc)) (by simpa using hlast),
    List.reverse_reverse]

end Blanks

/-! ## Numerals among blanks -/

/-- Neither digits nor signs are blanks. -/
structure Separates (digit? : Char → Option Nat) (blank : Char → Bool) : Prop extends
    Distinguishes digit? where
  digit : ∀ c d, digit? c = some d → blank c = false
  noPlus : blank '+' = false
  noMinus : blank '-' = false

variable {blank : Char → Bool} {cs inner : List Char} {n : Int}

theorem Numeral.unpadded (hs : Separates digit? blank) (h : Numeral digit? inner n) :
    inner ≠ [] ∧ (∀ c ∈ inner.head?, blank c = false) ∧
      ∀ c ∈ inner.getLast?, blank c = false := by
  have hdigits : ∀ {cs : List Char} {m : Nat}, Digits digit? cs m → cs ≠ [] ∧
      (∀ c ∈ cs.head?, blank c = false) ∧ ∀ c ∈ cs.getLast?, blank c = false := by
    intro cs m hm
    obtain ⟨c, rest, d, hcs, hc⟩ := hm.exists_head
    obtain ⟨front, e, d', hcs', he⟩ := hm.exists_last
    refine ⟨by rw [hcs]; exact List.cons_ne_nil _ _, ?_, ?_⟩
    · rw [hcs]
      rintro x ⟨⟩
      exact hs.digit c d hc
    · rw [hcs', List.getLast?_concat]
      rintro x ⟨⟩
      exact hs.digit e d' he
  have hsigned : ∀ {sign : Char} {cs : List Char} {m : Nat}, blank sign = false →
      Digits digit? cs m → sign :: cs ≠ [] ∧ (∀ c ∈ (sign :: cs).head?, blank c = false) ∧
        ∀ c ∈ (sign :: cs).getLast?, blank c = false := by
    intro sign cs m hsign hm
    obtain ⟨hne, -, hlast⟩ := hdigits hm
    refine ⟨List.cons_ne_nil _ _, ?_, ?_⟩
    · rintro x ⟨⟩
      exact hsign
    · rwa [List.getLast?_cons_of_ne_nil hne]
  cases h with
  | unsigned hm => exact hdigits hm
  | plus hm => exact hsigned hs.noPlus hm
  | minus hm => exact hsigned hs.noMinus hm

/-- Blanks have no part in the number of digits. -/
theorem Padded.count_digits (hs : Separates digit? blank) (h : Padded blank cs inner) :
    (inner.filter fun c => (digit? c).isSome).length =
      (cs.filter fun c => (digit? c).isSome).length := by
  have hblanks : ∀ {cs : List Char}, (∀ c ∈ cs, blank c = true) →
      cs.filter (fun c => (digit? c).isSome) = [] := by
    intro cs hcs
    rw [List.filter_eq_nil_iff]
    intro c hc hdigit
    obtain ⟨d, hd⟩ := Option.isSome_iff_exists.mp hdigit
    have hblank := hcs c hc
    rw [hs.digit c d hd] at hblank
    cases hblank
  obtain ⟨before, after, rfl, hbefore, hafter⟩ := h
  rw [List.filter_append, List.filter_append, hblanks hbefore, hblanks hafter, List.append_nil,
    List.nil_append]

/-- **What is read as an integer is a numeral among blanks**, as long as it has no more digits than
are allowed. -/
theorem readNumeral_eq_ok_iff (hs : Separates digit? blank) {shown : String} :
    readNumeral digit? shown (trim blank cs) = .ok n ↔
      (∃ inner, Padded blank cs inner ∧ Numeral digit? inner n) ∧
        (cs.filter fun c => (digit? c).isSome).length ≤ maxNumeralDigits := by
  have htrim := padded_trim blank cs
  unfold readNumeral
  constructor
  · intro h
    split at h
    · cases h
    · next m hm =>
      dsimp only at h
      split at h
      · cases h
      · next hcount =>
        cases h
        refine ⟨⟨_, htrim, (readInteger?_eq_some_iff hs.toDistinguishes).mp hm⟩, ?_⟩
        rw [← htrim.count_digits hs]
        exact Nat.not_lt.mp hcount
  · rintro ⟨⟨inner, hinner, hnumeral⟩, hcount⟩
    obtain ⟨hne, hhead, hlast⟩ := hnumeral.unpadded hs
    rw [trim_eq_of_padded hinner hne hhead hlast,
      (readInteger?_eq_some_iff hs.toDistinguishes).mpr hnumeral]
    rw [← hinner.count_digits hs] at hcount
    exact if_neg (Nat.not_lt.mpr hcount)

end FluentQuery
