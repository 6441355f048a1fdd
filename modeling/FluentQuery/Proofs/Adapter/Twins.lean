import FluentQuery.Proofs.Adapter.Bisimulation

/-!
# Adapters in the same state

Two adapters in the same state whose drivers answer alike are run side by side on statements that
differ in the values that are bound. They make the same calls but for these values, and come to the
same.

* **`DriverCall.Rebinds`** — the same call, or the same statement with these values and with those;
* **`Adapter.Twins`** — adapters in the same state whose drivers answer alike;
* **`Adapter.InStep`** — states that both come to by calls that rebind;
* **`Adapter.Twins.bisimulation`** — twins that are kept in step cannot be told apart;
* **`Adapter.twins_of_script`** — an adapter whose driver follows a script is its own twin.
-/

namespace FluentQuery

/-- Two calls are the same and bind nothing, or hand over the same statement with these values and
with those. -/
inductive DriverCall.Rebinds (p p' : List Value) : DriverCall → DriverCall → Prop
  | same {c : DriverCall} : c.binds = false → Rebinds p p' c c
  | bound (n : Nat) (sql : String) :
      Rebinds p p' (.execute n sql (some p)) (.execute n sql (some p'))

theorem DriverCall.Rebinds.bare_eq {p p' : List Value} {c c' : DriverCall}
    (h : Rebinds p p' c c') : c.bare = c'.bare := by
  cases h <;> rfl

namespace Adapter

/-- Adapters in the same state, whose drivers answer alike whichever of the values are bound. -/
structure Twins (p p' : List Value) (a b : Adapter) : Prop where
  state : b = { a with driver := b.driver, calls := b.calls }
  fault : ∀ made made', List.Forall₂ (DriverCall.Rebinds p p') made made' →
    a.driver.fault (a.calls ++ made) = b.driver.fault (b.calls ++ made')
  answer : ∀ made made', List.Forall₂ (DriverCall.Rebinds p p') made made' →
    a.driver.answer (a.calls ++ made) = b.driver.answer (b.calls ++ made')
  inTransaction : ∀ made made', List.Forall₂ (DriverCall.Rebinds p p') made made' →
    a.driver.inTransaction (a.calls ++ made) = b.driver.inTransaction (b.calls ++ made')

/-- States that two adapters come to by calls that are the same but for the values bound. -/
def InStep (p p' : List Value) (a b x y : Adapter) : Prop :=
  ∃ made made', List.Forall₂ (DriverCall.Rebinds p p') made made' ∧
    x = a.after made ∧ y = b.after made'

variable {p p' : List Value} {a b x y : Adapter} {c c' : DriverCall}

theorem InStep.start : InStep p p' a b a b :=
  ⟨[], [], .nil, (after_nil a).symm, (after_nil b).symm⟩

theorem InStep.call (h : InStep p p' a b x y) (hc : DriverCall.Rebinds p p' c c') :
    InStep p p' a b (x.after [c]) (y.after [c']) := by
  obtain ⟨made, made', hmade, rfl, rfl⟩ := h
  refine ⟨made ++ [c], made' ++ [c'], ?_, after_after a made [c], after_after b made' [c']⟩
  exact List.rel_append hmade (.cons hc .nil)

/-- Adapters that are kept in step stay twins. -/
theorem Twins.of_inStep (h : Twins p p' a b) (hxy : InStep p p' a b x y) : Twins p p' x y := by
  obtain ⟨made, made', hmade, rfl, rfl⟩ := hxy
  have hmore : ∀ more more', List.Forall₂ (DriverCall.Rebinds p p') more more' →
      List.Forall₂ (DriverCall.Rebinds p p') (made ++ more) (made' ++ more') :=
    fun _ _ hrest => List.rel_append hmade hrest
  -- What a driver does after more calls is what it does after all of them, counted from the start.
  refine ⟨?_, fun more more' hrest => ?_, fun more more' hrest => ?_, fun more more' hrest => ?_⟩
  · unfold after
    rw [h.state]
  · rw [after_driver, after_driver, after_calls, after_calls, List.append_assoc, List.append_assoc]
    exact h.fault _ _ (hmore _ _ hrest)
  · rw [after_driver, after_driver, after_calls, after_calls, List.append_assoc, List.append_assoc]
    exact h.answer _ _ (hmore _ _ hrest)
  · rw [after_driver, after_driver, after_calls, after_calls, List.append_assoc, List.append_assoc]
    exact h.inTransaction _ _ (hmore _ _ hrest)

/-- Without values no list is handed over in either run. -/
theorem handing_rebinds (hlength : p.length = p'.length) (n : Nat) (sql : String) :
    DriverCall.Rebinds p p' (handing n sql p) (handing n sql p') := by
  unfold handing
  cases p with
  | nil =>
    obtain rfl := List.length_eq_zero_iff.mp hlength.symm
    exact .same rfl
  | cons v rest =>
    cases p' with
    | nil => cases hlength
    | cons v' rest' => exact .bound n sql

/-- Values in equal number can be interchanged between twins. -/
theorem interchange_of_length (hlength : p.length = p'.length) :
    Interchange (DriverCall.Rebinds p p') p p' := ⟨hlength, handing_rebinds hlength⟩

theorem alike_boundValues (hlength : p.length = p'.length) :
    Action.Alike (Interchange (DriverCall.Rebinds p p')) (boundValues (.list p))
      (boundValues (.list p')) := by
  rw [boundValues_list, boundValues_list]
  exact .ok (interchange_of_length hlength)

/-- What twins come to when they are kept in step cannot be told apart. -/
theorem Twins.bisimulation (h : Twins p p' a b) :
    Bisimulation (DriverCall.Rebinds p p') (InStep p p' a b) where
  same _ hc := .same hc
  engine x y hxy := by rw [(h.of_inStep hxy).state]
  connection x y hxy := by rw [(h.of_inStep hxy).state]
  connected x y hxy := by rw [(h.of_inStep hxy).state]
  fault x y c c' hxy hc := (h.of_inStep hxy).fault [c] [c'] (.cons hc .nil)
  answer x y hxy := by simpa using (h.of_inStep hxy).answer [] [] .nil
  inTransaction x y hxy := by simpa using (h.of_inStep hxy).inTransaction [] [] .nil
  after _ _ _ _ hxy hc := hxy.call hc

/-! ## Scripted drivers -/

/-- An adapter whose driver follows a script is its own twin: a script does not look at values. -/
theorem twins_of_script {s : Script} (hdriver : a.driver = s.driver) : Twins p p' a a := by
  have hbare : ∀ made made', List.Forall₂ (DriverCall.Rebinds p p') made made' →
      (a.calls ++ made).map DriverCall.bare = (a.calls ++ made').map DriverCall.bare := by
    intro made made' hmade
    rw [List.map_append, List.map_append, DriverCall.map_bare_eq (fun _ _ h => h.bare_eq) hmade]
  refine ⟨rfl, fun made made' hmade => ?_, fun made made' hmade => ?_, fun made made' _ => ?_⟩
  · rw [hdriver]
    exact s.fault_eq (hbare made made' hmade)
  · rw [hdriver]
    exact s.answer_eq (hbare made made' hmade)
  · rw [hdriver]
    rfl

end Adapter

end FluentQuery
