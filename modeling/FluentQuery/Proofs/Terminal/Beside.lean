import FluentQuery.Proofs.Adapter.Bisimulation
import FluentQuery.Proofs.Statement.Values
import FluentQuery.Session.Run

/-!
# Terminal operations side by side

All that a terminal operation has to do with an adapter is to have statements queried, counted and
executed. So if two adapters come out alike of these, whole terminal operations do, also on clauses
that differ in the values of their conditions.

* **`Context.Beside`** — the same configuration, and adapters in a relation;
* **`Adapter.Reads`**, **`Adapter.Serves`** — adapters in a relation come out alike of statements
  that read rows, and of all;
* **`Query.fetchAll_agree`** and the others — terminal operations come out alike.
-/

namespace FluentQuery

open FluentQuery.Action

variable {α : Type} {tell : Failure → Failure} {R : Adapter → Adapter → Prop} {p p' : List Value}

namespace Adapter

/-- Adapters in a relation come out alike of statements that read rows, with these values and with
those, up to how failures are told. -/
structure Reads (tell : Failure → Failure) (R : Adapter → Adapter → Prop) (p p' : List Value) :
    Prop where
  query : ∀ sql, AgreeUpTo tell R Eq (executeQuery sql (.list p)) (executeQuery sql (.list p'))
  count : ∀ sql, AgreeUpTo tell R Eq (executeCount sql (.list p)) (executeCount sql (.list p'))

/-- Adapters in a relation come out alike of all statements. -/
structure Serves (tell : Failure → Failure) (R : Adapter → Adapter → Prop) (p p' : List Value) :
    Prop extends Reads tell R p p' where
  update : ∀ sql, AgreeUpTo tell R Eq (executeUpdate sql (.list p)) (executeUpdate sql (.list p'))

end Adapter

namespace Context

/-- The same configuration, and adapters in a relation. -/
def Beside (R : Adapter → Adapter → Prop) (x y : Context) : Prop :=
  x.configuration = y.configuration ∧ R x.adapter y.adapter

theorem compile_agree {β : Type} {S : α → β → Prop} {act : Action Configuration α}
    {act' : Action Configuration β} (h : Agree Eq S act act') :
    AgreeUpTo tell (Beside R) S (compile act) (compile act') := by
  refine .of_agree (Agree.zoom h (fun _ _ hxy => hxy.1) fun c c' x y hc hxy => ?_)
  exact ⟨hc, hxy.2⟩

theorem execute_agree {act act' : Action Adapter α} (h : AgreeUpTo tell R Eq act act') :
    AgreeUpTo tell (Beside R) Eq (execute act) (execute act') := by
  refine AgreeUpTo.zoom h (fun _ _ hxy => hxy.2) fun c c' x y hc hxy => ?_
  exact ⟨hxy.1, hc⟩

end Context

namespace Query

variable {d : Value} {s s' : Clauses}

section Reading

variable (h : Adapter.Reads tell R s.params s'.params)
  (hclauses : s.withoutValues = s'.withoutValues) (table : Value)

include h hclauses

theorem fetchAll_agree (type : Option Schema) (fit : Row.Fit) :
    AgreeUpTo tell (Context.Beside R) Eq (fetchAll ⟨d, s⟩ table type fit)
      (fetchAll ⟨d, s'⟩ table type fit) := by
  refine .bind (Context.compile_agree (Compile.select_agree hclauses d table {})) ?_
  rintro st st' ⟨htext, hvalues, hvalues'⟩
  rw [hvalues, hvalues', htext]
  refine .bind (Context.execute_agree (h.query _)) ?_
  rintro rows rows' rfl
  exact .of_agree (.told _ _ _ (.ofExcept (.refl _)))

theorem fetchOne_agree (type : Option Schema) (fit : Row.Fit) :
    AgreeUpTo tell (Context.Beside R) Eq (fetchOne ⟨d, s⟩ table type fit)
      (fetchOne ⟨d, s'⟩ table type fit) := by
  refine .bind (Context.compile_agree (Compile.select_agree hclauses d table _)) ?_
  rintro st st' ⟨htext, hvalues, hvalues'⟩
  rw [hvalues, hvalues', htext]
  refine .bind (Context.execute_agree (h.query _)) ?_
  rintro rows rows' rfl
  refine .of_agree ?_
  cases rows with
  | nil => exact .told _ _ _ (.pure rfl)
  | cons row rest =>
    refine .bind (.ofExcept (.refl _)) ?_
    rintro v v' rfl
    exact .pure rfl

theorem count_agree :
    AgreeUpTo tell (Context.Beside R) Eq (count ⟨d, s⟩ table) (count ⟨d, s'⟩ table) := by
  refine .bind (Context.compile_agree (Compile.count_agree hclauses d table)) ?_
  rintro st st' ⟨htext, hvalues, hvalues'⟩
  rw [hvalues, hvalues', htext]
  exact Context.execute_agree (h.count _)

theorem fetchPage_agree (pageNo pageSize : Value) (type : Option Schema) (fit : Row.Fit) :
    AgreeUpTo tell (Context.Beside R) Eq (fetchPage ⟨d, s⟩ table pageNo pageSize type fit)
      (fetchPage ⟨d, s'⟩ table pageNo pageSize type fit) := by
  refine .bind (Context.compile_agree (.refl (checkPage pageNo pageSize))) ?_
  rintro ⟨number, size⟩ _ rfl
  refine .bind (Context.compile_agree (Compile.count_agree hclauses d table)) ?_
  rintro counting counting' ⟨htext, hvalues, hvalues'⟩
  rw [hvalues, hvalues', htext]
  refine .bind (Context.compile_agree (Compile.select_agree hclauses d table _)) ?_
  rintro reading reading' ⟨htext, hvalues, hvalues'⟩
  rw [hvalues, hvalues', htext]
  refine .bind (Context.execute_agree (h.count _)) ?_
  rintro total total' rfl
  split
  · exact .of_agree (.told _ _ _ (.ofExcept (.refl _)))
  · refine .bind (Context.execute_agree (h.query _)) ?_
    rintro rows rows' rfl
    refine .of_agree (.bind (.ofExcept (.refl _)) ?_)
    rintro records records' rfl
    exact .told _ _ _ (.ofExcept (.refl _))

end Reading

section Serving

variable (h : Adapter.Serves tell R s.params s'.params)
  (hclauses : s.withoutValues = s'.withoutValues)

include h hclauses

theorem delete_agree (table : Value) (allowFullTable : Bool) :
    AgreeUpTo tell (Context.Beside R) Eq (delete ⟨d, s⟩ table allowFullTable)
      (delete ⟨d, s'⟩ table allowFullTable) := by
  have hrefusal : deleteRefusal? s allowFullTable = deleteRefusal? s' allowFullTable := by
    refine Clauses.eq_of_withoutValues (fun s => deleteRefusal? s allowFullTable) (fun s => ?_)
      hclauses
    unfold deleteRefusal?
    rw [Clauses.isEmpty_withoutValues]
    rfl
  unfold delete
  simp only [hrefusal]
  cases deleteRefusal? s' allowFullTable with
  | some reason => exact .of_agree (.throw _)
  | none =>
    refine .bind (Context.compile_agree (Compile.delete_agree hclauses table)) ?_
    rintro st st' ⟨htext, hvalues, hvalues'⟩
    rw [hvalues, hvalues', htext]
    refine .bind (Context.execute_agree (h.update _)) ?_
    rintro affected affected' rfl
    exact .of_agree (.told _ _ _ (.pure rfl))

/-- Every terminal operation comes out alike. -/
theorem terminal_agreeUpTo (c : TerminalCall) :
    AgreeUpTo tell (Context.Beside R) Eq (Session.terminal ⟨d, s⟩ c)
      (Session.terminal ⟨d, s'⟩ c) := by
  have hreply : ∀ {β : Type} {act act' : Action Context β} (f : β → Reply),
      AgreeUpTo tell (Context.Beside R) Eq act act' →
      AgreeUpTo tell (Context.Beside R) Eq (act >>= fun x => pure (f x))
        (act' >>= fun x => pure (f x)) :=
    fun f hact => .bind hact fun _ _ hx => .of_agree (.pure (congrArg f hx))
  cases c with
  | fetchAll table type => exact hreply _ (fetchAll_agree h.toReads hclauses table type _)
  | fetchOne table type => exact hreply _ (fetchOne_agree h.toReads hclauses table type _)
  | count table => exact hreply _ (count_agree h.toReads hclauses table)
  | fetchPage table pageNo pageSize type =>
    exact hreply _ (fetchPage_agree h.toReads hclauses table pageNo pageSize type _)
  | delete table allowFullTable => exact hreply _ (delete_agree h hclauses table allowFullTable)

end Serving

end Query

/-- Adapters that cannot be told apart come out alike of all statements. -/
theorem Adapter.Bisimulation.serves {C : DriverCall → DriverCall → Prop}
    (h : Adapter.Bisimulation C R)
    (hvalues : Alike (Adapter.Interchange C) (boundValues (.list p)) (boundValues (.list p'))) :
    Adapter.Serves id R p p' where
  query sql := .of_agree (h.executeQuery_agree hvalues sql)
  count sql := .of_agree (h.executeCount_agree hvalues sql)
  update sql := .of_agree (h.executeUpdate_agree hvalues sql)

end FluentQuery
