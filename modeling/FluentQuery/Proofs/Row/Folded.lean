import FluentQuery.Adapter.Execute
import Mathlib.Data.List.Induction

/-!
# Rows as dictionaries

A row of values under the names of columns is a dictionary. Columns of one name share an entry,
which stands where the name first comes and has the value that comes last.

* **`Entries.Named.insert`**, **`Entries.Named.get?_insert`** — what an entry that is put in does to
  the names and to the values under them;
* **`Row.Folds`** — what a dictionary keeps of named values;
* **`Row.Folds.eq_singleton_iff`** — one entry is left exactly of values that all have one name;
* **`Adapter.rowOf_folds`**, **`Adapter.rowOf_of_nodup`** — a row keeps that of its columns, and all
  of them if their names differ.
-/

namespace FluentQuery

namespace Entries

variable {entries : Entries} {names : List String}

/-- The keys of a dictionary are names. -/
def Named (names : List String) (entries : Entries) : Prop :=
  entries.map Prod.fst = names.map Value.text

theorem Named.of_cons {key v : Value} (h : Named names ((key, v) :: entries)) :
    ∃ name others, names = name :: others ∧ key = .text name ∧ Named others entries := by
  cases names with
  | nil => cases h
  | cons name others =>
    obtain ⟨hkey, hrest⟩ := List.cons.inj h
    exact ⟨name, others, rfl, hkey, hrest⟩

theorem insert_text_cons (name other : String) (v w : Value) (entries : Entries) :
    insert (.text name) v ((.text other, w) :: entries) =
      if other = name then (.text other, v) :: entries
      else (.text other, w) :: insert (.text name) v entries := by
  rw [insert, Value.equals_text]
  simp only [beq_iff_eq]

theorem get?_text_cons (name other : String) (v : Value) (entries : Entries) :
    get? (.text name) ((.text other, v) :: entries) =
      if other = name then some v else get? (.text name) entries := by
  rw [get?, Value.equals_text]
  simp only [beq_iff_eq]

/-- A name that is there keeps its place, and a new one goes to the end. -/
theorem Named.insert (h : Named names entries) (name : String) (v : Value) :
    Named (if name ∈ names then names else names ++ [name])
      (Entries.insert (.text name) v entries) := by
  induction entries generalizing names with
  | nil =>
    obtain rfl : names = [] := List.map_eq_nil_iff.mp h.symm
    rfl
  | cons e entries ih =>
    obtain ⟨key, w⟩ := e
    obtain ⟨other, others, rfl, rfl, hrest⟩ := h.of_cons
    rw [insert_text_cons]
    by_cases hname : other = name
    · subst hname
      rw [if_pos rfl, if_pos List.mem_cons_self]
      exact h
    · have hmem : name ∈ other :: others ↔ name ∈ others := by
        simp [show name ≠ other from fun heq => hname heq.symm]
      have htail := ih hrest
      rw [if_neg hname]
      simp only [hmem]
      unfold Named at htail ⊢
      rw [List.map_cons, htail]
      split <;> rfl

/-- What is put in is found under its name, and under all others what was there before. -/
theorem Named.get?_insert (h : Named names entries) (name other : String) (v : Value) :
    get? (.text other) (Entries.insert (.text name) v entries) =
      if other = name then some v else get? (.text other) entries := by
  induction entries generalizing names with
  | nil =>
    rw [Entries.insert, get?_text_cons]
    simp only [eq_comm]
  | cons e entries ih =>
    obtain ⟨key, w⟩ := e
    obtain ⟨first, others, rfl, rfl, hrest⟩ := h.of_cons
    rw [insert_text_cons, get?_text_cons]
    by_cases hname : first = name
    · subst hname
      rw [if_pos rfl, get?_text_cons]
      by_cases hother : first = other
      · rw [if_pos hother, if_pos hother.symm]
      · rw [if_neg hother, if_neg (Ne.symm hother), if_neg hother]
    · rw [if_neg hname, get?_text_cons, ih hrest]
      by_cases hother : first = other
      · subst hother
        rw [if_pos rfl, if_pos rfl, if_neg hname]
      · rw [if_neg hother, if_neg hother]

/-- A name that is not there goes to the end. -/
theorem Named.insert_of_not_mem (h : Named names entries) {name : String} (hname : name ∉ names)
    (v : Value) : Entries.insert (.text name) v entries = entries ++ [(.text name, v)] := by
  induction entries generalizing names with
  | nil => rfl
  | cons e entries ih =>
    obtain ⟨key, w⟩ := e
    obtain ⟨other, others, rfl, rfl, hrest⟩ := h.of_cons
    obtain ⟨hother, hothers⟩ := not_or.mp (mt List.mem_cons.mpr hname)
    rw [insert_text_cons, if_neg fun heq => hother heq.symm, ih hrest hothers]
    rfl

end Entries

/-! ## What is kept of named values -/

/-- A name that has come before adds nothing. -/
theorem eraseDups_concat (names : List String) (name : String) :
    (names ++ [name]).eraseDups =
      if name ∈ names then names.eraseDups else names.eraseDups ++ [name] := by
  rw [List.eraseDups_append, List.cons_removeAll, List.nil_removeAll]
  by_cases hmem : name ∈ names
  · rw [if_pos hmem, if_neg (by simpa using hmem)]
    exact List.append_nil _
  · rw [if_neg hmem, if_pos (by simpa using hmem)]
    rfl

/-- Names that are all the same are one name. -/
theorem eraseDups_eq_singleton_iff {names : List String} {name : String} :
    names.eraseDups = [name] ↔ names ≠ [] ∧ ∀ other ∈ names, other = name := by
  constructor
  · intro h
    refine ⟨?_, fun other hother => ?_⟩
    · rintro rfl
      cases h
    · rw [← List.mem_eraseDups, h] at hother
      exact List.mem_singleton.mp hother
  · rintro ⟨hne, hall⟩
    cases names with
    | nil => exact absurd rfl hne
    | cons first others =>
      obtain rfl := hall first List.mem_cons_self
      have hnone : others.filter (fun other => !other == first) = [] := by
        rw [List.filter_eq_nil_iff]
        intro other hother
        simp [hall other (List.mem_cons_of_mem _ hother)]
      rw [List.eraseDups_cons, hnone, List.eraseDups_nil]

namespace Row

variable {pairs : List (String × Value)} {row : Row}

/-- Values under the names of columns. -/
def named (pairs : List (String × Value)) : Row := pairs.map fun p => (.text p.1, p.2)

/-- What a dictionary keeps of named values: every name once, where it first comes, with the value
that comes last. -/
structure Folds (pairs : List (String × Value)) (row : Row) : Prop where
  names : Entries.Named (pairs.map Prod.fst).eraseDups row
  value : ∀ name, Entries.get? (.text name) row = pairs.reverse.lookup name

theorem Folds.concat (h : Folds pairs row) (name : String) (v : Value) :
    Folds (pairs ++ [(name, v)]) (Entries.insert (.text name) v row) where
  names := by
    have hnames := h.names.insert name v
    simp only [List.mem_eraseDups] at hnames
    rw [List.map_append, List.map_singleton, eraseDups_concat]
    exact hnames
  value other := by
    rw [h.names.get?_insert, h.value, List.reverse_append, List.reverse_singleton,
      List.singleton_append, List.lookup_cons]
    by_cases hother : other = name
    · rw [if_pos hother, beq_iff_eq.mpr hother]
    · rw [if_neg hother, beq_eq_false_iff_ne.mpr hother]

theorem ofPairs_concat (name : String) (v : Value) (pairs : List (String × Value)) :
    Entries.ofPairs (named (pairs ++ [(name, v)])) =
      Entries.insert (.text name) v (Entries.ofPairs (named pairs)) := by
  unfold Entries.ofPairs named
  rw [List.map_append, List.foldl_append]
  rfl

theorem folds_ofPairs (pairs : List (String × Value)) :
    Folds pairs (Entries.ofPairs (named pairs)) := by
  -- Pairs are put in from the first to the last, so the induction takes off the last.
  induction pairs using List.reverseRecOn with
  | nil => exact ⟨rfl, fun _ => rfl⟩
  | append_singleton pairs p ih =>
    rw [ofPairs_concat]
    exact ih.concat p.1 p.2

/-- Values under different names are all kept. -/
theorem ofPairs_of_nodup (h : (pairs.map Prod.fst).Nodup) :
    Entries.ofPairs (named pairs) = named pairs := by
  induction pairs using List.reverseRecOn with
  | nil => rfl
  | append_singleton pairs p ih =>
    rw [List.map_append, List.nodup_append] at h
    obtain ⟨hfront, -, hnew⟩ := h
    have hname : p.1 ∉ (pairs.map Prod.fst).eraseDups := fun hmem =>
      hnew p.1 (List.mem_eraseDups.mp hmem) p.1 List.mem_cons_self rfl
    rw [ofPairs_concat, (folds_ofPairs pairs).names.insert_of_not_mem hname, ih hfront]
    unfold named
    rw [List.map_append]
    rfl

/-- A dictionary has as many entries as there are names. -/
theorem Folds.length_eq (h : Folds pairs row) :
    row.length = (pairs.map Prod.fst).eraseDups.length := by
  have hlength := congrArg List.length h.names
  rwa [List.length_map, List.length_map] at hlength

/-- **One entry is left exactly of values that all have one name, and it has the last of them.** -/
theorem Folds.eq_singleton_iff (h : Folds pairs row) {name : String} {v : Value} :
    row = [(.text name, v)] ↔
      ∃ front, pairs = front ++ [(name, v)] ∧ ∀ p ∈ front, p.1 = name := by
  constructor
  · rintro rfl
    have hone : (pairs.map Prod.fst).eraseDups = [name] :=
      (List.map_inj_right fun _ _ => Value.text.inj).mp h.names.symm
    obtain ⟨hne, hall⟩ := eraseDups_eq_singleton_iff.mp hone
    have hsame : ∀ p ∈ pairs, p.1 = name := fun p hp => hall p.1 (List.mem_map_of_mem hp)
    obtain hnil | ⟨front, last, hconcat⟩ := List.eq_nil_or_concat pairs
    · exact absurd (congrArg (List.map Prod.fst) hnil) hne
    · rw [List.concat_eq_append] at hconcat
      subst hconcat
      obtain rfl := hsame last (List.mem_append_right _ List.mem_cons_self)
      have hvalue := h.value last.1
      rw [Entries.get?_text_cons, if_pos rfl, List.reverse_append, List.reverse_singleton,
        List.singleton_append, List.lookup_cons_self] at hvalue
      cases hvalue
      exact ⟨front, rfl, fun p hp => hsame p (List.mem_append_left _ hp)⟩
  · rintro ⟨front, rfl, hfront⟩
    have hone : ((front ++ [(name, v)]).map Prod.fst).eraseDups = [name] := by
      rw [eraseDups_eq_singleton_iff]
      refine ⟨by simp, fun other hother => ?_⟩
      obtain ⟨p, hp, rfl⟩ := List.mem_map.mp hother
      rcases List.mem_append.mp hp with hold | hlast
      · exact hfront p hold
      · rw [List.mem_singleton.mp hlast]
    have hnames := h.names
    rw [hone] at hnames
    cases row with
    | nil => cases hnames
    | cons e rest =>
      obtain ⟨key, w⟩ := e
      obtain ⟨other, others, hothers, rfl, hrest⟩ := hnames.of_cons
      cases hothers
      obtain rfl : rest = [] := List.map_eq_nil_iff.mp hrest
      have hvalue := h.value name
      rw [Entries.get?_text_cons, if_pos rfl, List.reverse_append, List.reverse_singleton,
        List.singleton_append, List.lookup_cons_self] at hvalue
      cases hvalue
      rfl

end Row

/-! ## Rows that a driver answers with -/

namespace Adapter

theorem rowOf_eq_ofPairs (columns : List String) (values : List Value) :
    rowOf columns values = Entries.ofPairs (Row.named (columns.zip values)) := by
  unfold rowOf Row.named
  rw [List.zip_map_left]
  rfl

theorem rowOf_folds (columns : List String) (values : List Value) :
    Row.Folds (columns.zip values) (rowOf columns values) := by
  rw [rowOf_eq_ofPairs]
  exact Row.folds_ofPairs _

/-- No column is lost where their names differ. -/
theorem rowOf_of_nodup {columns : List String} {values : List Value}
    (hlength : values.length = columns.length) (h : columns.Nodup) :
    rowOf columns values = Row.named (columns.zip values) := by
  rw [rowOf_eq_ofPairs]
  refine Row.ofPairs_of_nodup ?_
  rw [List.map_fst_zip (Nat.le_of_eq hlength.symm)]
  exact h

end Adapter

end FluentQuery
