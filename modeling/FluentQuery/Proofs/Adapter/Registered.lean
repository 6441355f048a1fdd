import FluentQuery.Adapter.Registry
import Mathlib.Data.String.Basic

/-!
# Registrations

What a registry holds after registrations is told by the list of these alone: a name stands for the
engine that was registered last under it, the case of letters left aside, and the names are those
that were registered, in small letters.

* **`Registry.lookup_put`**, **`Registry.mem_put`**, **`Registry.pairwise_put`** — one entry put
  among others;
* **`Registry.last?`**, **`Engine.builtIn?`** — the engine registered last under a name, and the one
  that is built in under it;
* **`Registry.after`** — a registry after registrations, with what a name stands for
  (`resolve?_after`), which names there are (`mem_names_after`) and their order (`Ordered.after`).
-/

namespace FluentQuery

/-- The engines that are built in, each under its own name. -/
def Engine.builtIn : List Engine := [.sqlite, .duckdb, .postgres]

/-- The engine that is built in under a name. -/
def Engine.builtIn? (name : String) : Option Engine :=
  builtIn.find? fun e => e.name = Text.lower name

namespace Registry

/-! ## One entry among others -/

section Entries

variable {name other : String} {engine : Engine} {entries : List (String × Engine)}

theorem lookup_entry (n : String) (k : Engine) (rest : List (String × Engine)) :
    ((n, k) :: rest).lookup other = if other = n then some k else rest.lookup other := by
  rw [List.lookup_cons]
  split
  · next h => rw [if_pos (beq_iff_eq.mp h)]
  · next h => rw [if_neg (beq_eq_false_iff_ne.mp h)]

theorem lookup_put :
    (put name engine entries).lookup other =
      if other = name then some engine else entries.lookup other := by
  induction entries with
  | nil => exact lookup_entry name engine []
  | cons e rest ih =>
    obtain ⟨n, k⟩ := e
    unfold put
    split
    · next hn =>
      -- The entry of that name is replaced where it stands.
      subst hn
      rw [lookup_entry, lookup_entry]
      split <;> rfl
    · next hn =>
      split
      · exact lookup_entry name engine _
      · rw [lookup_entry, lookup_entry, ih]
        by_cases h : other = n
        · subst h
          rw [if_pos rfl, if_pos rfl, if_neg hn]
        · rw [if_neg h, if_neg h]

theorem mem_put :
    other ∈ (put name engine entries).map Prod.fst ↔
      other = name ∨ other ∈ entries.map Prod.fst := by
  induction entries with
  | nil => simp [put]
  | cons e rest ih =>
    obtain ⟨n, k⟩ := e
    unfold put
    split
    · next hn => simp [hn]
    · split
      · simp
      · simp only [List.map_cons, List.mem_cons, ih]
        exact or_left_comm

theorem pairwise_put (h : (entries.map Prod.fst).Pairwise (· < ·)) :
    ((put name engine entries).map Prod.fst).Pairwise (· < ·) := by
  induction entries with
  | nil => exact List.pairwise_singleton _ _
  | cons e rest ih =>
    obtain ⟨n, k⟩ := e
    obtain ⟨hfirst, hrest⟩ := List.pairwise_cons.mp h
    unfold put
    split
    · next hn =>
      subst hn
      exact List.pairwise_cons.mpr ⟨hfirst, hrest⟩
    · next hn =>
      split
      · next hlt =>
        refine List.pairwise_cons.mpr ⟨fun m hm => ?_, h⟩
        rcases List.mem_cons.mp hm with rfl | hm
        · exact hlt
        · exact hlt.trans (hfirst m hm)
      · next hlt =>
        refine List.pairwise_cons.mpr ⟨fun m hm => ?_, ih hrest⟩
        rcases mem_put.mp hm with rfl | hm
        · exact lt_of_le_of_ne (not_lt.mp hlt) hn
        · exact hfirst m hm

end Entries

/-! ## One registration -/

variable {r : Registry} {name other : String} {engine : Engine}

/-- The names are in order, each of them once. -/
def Ordered (r : Registry) : Prop := r.names.Pairwise (· < ·)

/-- A registration decides on what its own name stands for, and on no other. -/
theorem resolve?_register :
    (r.register name engine).resolve? other =
      if Text.lower other = Text.lower name then some engine else r.resolve? other := lookup_put

theorem resolve?_register_of_ne (h : Text.lower other ≠ Text.lower name) :
    (r.register name engine).resolve? other = r.resolve? other := by
  rw [resolve?_register, if_neg h]

theorem mem_names_register :
    other ∈ (r.register name engine).names ↔ other = Text.lower name ∨ other ∈ r.names := mem_put

theorem Ordered.register (h : r.Ordered) : (r.register name engine).Ordered := pairwise_put h

/-! ## Any number of registrations -/

/-- A registry after registrations. -/
def after (r : Registry) (registrations : List (String × Engine)) : Registry :=
  registrations.foldl (fun r x => r.register x.1 x.2) r

theorem after_append (r : Registry) (front back : List (String × Engine)) :
    r.after (front ++ back) = (r.after front).after back := List.foldl_append

/-- The engine that was registered last under a name, where the case of letters does not count. -/
def last? (registrations : List (String × Engine)) (name : String) : Option Engine :=
  (registrations.reverse.find? fun x => Text.lower x.1 = Text.lower name).map Prod.snd

variable {registrations : List (String × Engine)}

theorem last?_cons (x : String × Engine) :
    last? (x :: registrations) name =
      (last? registrations name).or
        (if Text.lower name = Text.lower x.1 then some x.2 else none) := by
  unfold last?
  rw [List.reverse_cons, List.find?_append, Option.map_or]
  congr 1
  by_cases h : Text.lower name = Text.lower x.1
  · simp [h]
  · simp [h, Ne.symm h]

theorem resolve?_after :
    (r.after registrations).resolve? name = (last? registrations name).or (r.resolve? name) := by
  induction registrations generalizing r with
  | nil => rfl
  | cons x rest ih =>
    show ((r.register x.1 x.2).after rest).resolve? name = _
    rw [ih, resolve?_register, last?_cons, Option.or_assoc]
    -- What stood under the name before counts only where the registration is for another one.
    congr 1
    split <;> rfl

theorem mem_names_after :
    other ∈ (r.after registrations).names ↔
      other ∈ r.names ∨ ∃ x ∈ registrations, Text.lower x.1 = other := by
  induction registrations generalizing r with
  | nil => simp [after]
  | cons x rest ih =>
    show other ∈ ((r.register x.1 x.2).after rest).names ↔ _
    rw [ih, mem_names_register, List.exists_mem_cons_iff, eq_comm, or_comm (b := other ∈ r.names),
      or_assoc]

theorem Ordered.after (h : r.Ordered) : (r.after registrations).Ordered := by
  induction registrations generalizing r with
  | nil => exact h
  | cons x rest ih => exact ih h.register

/-! ## The built-in engines -/

theorem resolve?_builtIn : builtIn.resolve? name = Engine.builtIn? name := by
  unfold resolve? Engine.builtIn?
  generalize Text.lower name = n
  rw [builtIn, lookup_entry, lookup_entry, lookup_entry]
  -- The names are different ones, so that their order makes no difference.
  by_cases hduckdb : n = "duckdb"
  · subst hduckdb
    decide
  by_cases hpostgres : n = "postgres"
  · subst hpostgres
    decide
  rw [if_neg hduckdb, if_neg hpostgres]
  by_cases hsqlite : n = "sqlite"
  · subst hsqlite
    decide
  · simp [Engine.builtIn, Engine.name, hsqlite, Ne.symm hsqlite, Ne.symm hduckdb, Ne.symm hpostgres]

theorem mem_names_builtIn : name ∈ builtIn.names ↔ ∃ e ∈ Engine.builtIn, e.name = name := by
  simp only [names, builtIn, Engine.builtIn, Engine.name, List.map_cons, List.map_nil,
    List.mem_cons, List.not_mem_nil, or_false, exists_eq_or_imp, exists_eq_left]
  tauto

theorem builtIn_ordered : builtIn.Ordered := by
  unfold Ordered
  decide

/-! ## Making an adapter -/

variable {options : Value} {driver : Driver} {files : Path.Files}

theorem make_of_resolve?_some (h : r.resolve? name = some engine) :
    r.make (.text name) options driver files = Adapter.make engine options driver files := by
  simp only [make, h]

theorem make_of_resolve?_none (h : r.resolve? name = none) :
    r.make (.text name) options driver files =
      .error (.connection
        ⟨"Unsupported engine: " ++ name ++ ". Available: " ++ joinWith ", " r.names,
          name, none⟩) := by
  simp only [make, h]
  rfl

end Registry

end FluentQuery
