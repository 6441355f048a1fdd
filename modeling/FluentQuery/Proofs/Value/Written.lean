import FluentQuery.Error.Failure

/-!
# What can be written

An integer can be written unless it has too many digits, and any other value unless there is such an
integer in it. What is put together of texts fails for the first that cannot be written, and always
in the same way:

* **`fitsNumeral_iff`** — the integers that can be written are those below a power of ten;
* **`WrittenIf`** — what comes about exactly under a condition, and else fails to be written; it is
  closed under the ways to put texts together;
* **`Failure.refusal_eq_builder_iff`** — a refusal is an error of the builder exactly if all that its
  report shows can be written.
-/

namespace FluentQuery

theorem ok_bind {ε α β : Type} (a : α) (f : α → Except ε β) : (Except.ok a >>= f) = f a := rfl

/-- Both steps of a check that passes have passed. -/
theorem ok_of_bind {ε α β : Type} {x : Except ε α} {f : α → Except ε β} {b : β}
    (h : (x >>= f) = .ok b) : ∃ a, x = .ok a ∧ f a = .ok b := by
  cases x with
  | error e => cases h
  | ok a => exact ⟨a, rfl, h⟩

theorem ok_of_map {ε α β : Type} {r : Except ε α} {f : α → β} {b : β} (h : r.map f = .ok b) :
    ∃ a, r = .ok a ∧ f a = b := by
  cases r with
  | error e => cases h
  | ok a => exact ⟨a, rfl, Except.ok.inj h⟩

theorem error_of_map {ε α β : Type} {r : Except ε α} {f : α → β} {e : ε}
    (h : r.map f = .error e) : r = .error e := by
  cases r with
  | error e' => exact congrArg Except.error (Except.error.inj h)
  | ok a => cases h

/-! ## Conditions for writing -/

/-- Something comes about exactly if a condition holds, and else its writing fails. -/
def WrittenIf {α : Type} (p : Prop) (r : Except Failure α) : Prop :=
  (p → ∃ x, r = .ok x) ∧ (¬p → r = .error .unwritable)

namespace WrittenIf

variable {α β : Type} {p p' : Prop} {r : Except Failure α} {f : α → Except Failure β}

theorem ok (x : α) : WrittenIf True (.ok x) := ⟨fun _ => ⟨x, rfl⟩, fun h => absurd trivial h⟩

theorem congr (h : WrittenIf p r) (hp : p ↔ p') : WrittenIf p' r :=
  ⟨fun hp' => h.1 (hp.2 hp'), fun hp' => h.2 (mt hp.1 hp')⟩

/-- What is put together of two needs what both need. -/
theorem bind (h : WrittenIf p r) (hf : ∀ x, WrittenIf p' (f x)) :
    WrittenIf (p ∧ p') (r >>= f) := by
  by_cases hp : p
  · obtain ⟨x, rfl⟩ := h.1 hp
    exact (hf x).congr (and_iff_right hp).symm
  · -- The second is not come to, so its condition does not matter.
    rw [h.2 hp]
    exact ⟨fun hpp => absurd hpp.1 hp, fun _ => rfl⟩

/-- What is made of something needs nothing more. -/
theorem map (h : WrittenIf p r) (g : α → β) : WrittenIf p (r >>= fun x => pure (g x)) :=
  (h.bind fun x => ok (g x)).congr (and_iff_left trivial)

theorem ite {c : Prop} [Decidable c] {x : α} (h : WrittenIf p r) :
    WrittenIf (c → p) (if c then r else .ok x) := by
  by_cases hc : c
  · rw [if_pos hc]
    exact h.congr ⟨fun hp _ => hp, fun hp => hp hc⟩
  · rw [if_neg hc]
    exact (ok x).congr (iff_of_true trivial fun h => absurd h hc)

theorem of_error {e : Failure} (h : WrittenIf p r) (he : r = .error e) : e = .unwritable := by
  by_cases hp : p
  · obtain ⟨x, hx⟩ := h.1 hp
    rw [hx] at he
    cases he
  · rw [h.2 hp] at he
    exact (Except.error.inj he).symm

theorem of_ok {x : α} (h : WrittenIf p r) (hx : r = .ok x) : p := by
  apply Classical.byContradiction
  intro hp
  rw [h.2 hp] at hx
  cases hx

end WrittenIf

/-! ## Integers and values -/

theorem fitsNumeral_iff {n : Int} :
    fitsNumeral n = true ↔ n.natAbs < Nat.pow 10 maxNumeralDigits := by
  have hsome : 0 < maxNumeralDigits := by decide
  unfold fitsNumeral
  -- The power is not to be computed.
  generalize maxNumeralDigits = digits at hsome ⊢
  rw [decide_eq_true_eq]
  exact Nat.length_toDigits_le_iff (by decide) hsome

/-- What is nearer to zero than an integer that can be written can be written too. -/
theorem fitsNumeral_of_le {m n : Int} (hn : fitsNumeral n = true) (h : m.natAbs ≤ n.natAbs) :
    fitsNumeral m = true :=
  fitsNumeral_iff.2 (Nat.lt_of_le_of_lt h (fitsNumeral_iff.1 hn))

theorem numeral_of_fits {n : Int} (h : fitsNumeral n = true) : numeral n = .ok (intText n) :=
  if_pos h

theorem numeral_written (n : Int) : WrittenIf (fitsNumeral n = true) (numeral n) :=
  ⟨fun h => ⟨_, numeral_of_fits h⟩, fun h => if_neg h⟩

theorem Value.written_written (v : Value) : WrittenIf (v.isWritable = true) v.written :=
  ⟨fun h => ⟨_, if_pos h⟩, fun h => if_neg h⟩

/-! ## Refusals -/

namespace Failure

variable {b : BuilderError}

theorem refusal_of_writable (h : ∀ v ∈ b.values, v.isWritable = true) :
    refusal b = .builder b :=
  if_pos (List.all_eq_true.2 h)

theorem refusal_of_not_writable (h : ¬∀ v ∈ b.values, v.isWritable = true) :
    refusal b = .unwritable :=
  if_neg (mt List.all_eq_true.1 h)

theorem refusal_eq_builder_iff {b' : BuilderError} :
    refusal b = .builder b' ↔ b' = b ∧ ∀ v ∈ b.values, v.isWritable = true := by
  by_cases h : ∀ v ∈ b.values, v.isWritable = true
  · rw [refusal_of_writable h, and_iff_left h, Failure.builder.injEq, eq_comm]
  · rw [refusal_of_not_writable h]
    exact ⟨nofun, fun hb => absurd hb.2 h⟩

end Failure

end FluentQuery
