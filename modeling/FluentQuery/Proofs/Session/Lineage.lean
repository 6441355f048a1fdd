import FluentQuery.Proofs.Query.Replay
import FluentQuery.Proofs.Session.Queries
import Mathlib.Data.List.TakeWhile
import Mathlib.Logic.Function.Basic

/-!
# Lineages

The lineage of a query is the list of the calls that it accepted, behind those that its original
had accepted when it was copied. It is read off the operations of a session without regard to any
query: whether a call counts depends on its arguments alone.

* **`Session.after`**, **`Session.lineages`** — the session and the lineages after operations;
* **`Session.Follows`** — each query has the clauses that its lineage describes; every operation
  keeps this, hence every run does;
* **`Session.queries_replay_lineages`** — what that says of the queries of a session after any
  operations, and of the next call.
-/

namespace FluentQuery.Session

/-- The calls that the queries of a session have accepted, by name. -/
abbrev Lineages := String → Option (List ClauseCall)

/-- The lineages after a change of the queries. -/
def Lineages.changed (s : Session) (l : Lineages) : QueryChange → Lineages
  | .start name start =>
    if (s.dialect? start.dialect).isSome then
      Function.update l name (some (start.chain.takeWhile fun c => c.Acceptable))
    else l
  | .call name c =>
    match l name with
    | some calls => if c.Acceptable then Function.update l name (some (calls ++ [c])) else l
    | none => l
  | .copy name target =>
    match l name with
    | some calls => Function.update l target (some calls)
    | none => l

/-- The lineages after an operation. -/
def Lineages.step (s : Session) (l : Lineages) (op : Operation) : Lineages :=
  match change? op with
  | some change => l.changed s change
  | none => l

/-- The session after operations. -/
def after (s : Session) : List Operation → Session
  | [] => s
  | op :: rest => after (s.run op).2 rest

/-- The lineages after operations, from those before them. -/
def lineagesFrom (s : Session) (l : Lineages) : List Operation → Lineages
  | [] => l
  | op :: rest => lineagesFrom (s.run op).2 (l.step s op) rest

/-- Under each name there is a query exactly if there is a lineage, which holds acceptable calls
only and describes the clauses of the query. -/
structure Follows (entries : List (String × Query)) (l : Lineages) : Prop where
  described : ∀ name, (entries.lookup name).map Query.clauses = (l name).map Clauses.described
  acceptable : ∀ name calls, l name = some calls → ∀ c ∈ calls, c.Acceptable

namespace Follows

variable {entries : List (String × Query)} {l : Lineages} {name : String}

theorem exists_lineage (h : Follows entries l) {q : Query} (hq : entries.lookup name = some q) :
    ∃ calls, l name = some calls ∧ q.clauses = .described calls := by
  have hname := h.described name
  rw [hq] at hname
  obtain ⟨calls, hcalls, hclauses⟩ := Option.map_eq_some_iff.1 hname.symm
  exact ⟨calls, hcalls, hclauses.symm⟩

theorem lineage_eq_none (h : Follows entries l) (hq : entries.lookup name = none) :
    l name = none := by
  have hname := h.described name
  rw [hq] at hname
  exact Option.map_eq_none_iff.1 hname.symm

/-- A query that is put under a name together with its lineage leaves the other names alone. -/
theorem put (h : Follows entries l) {q : Query} {calls : List ClauseCall}
    (hq : q.clauses = .described calls) (hcalls : ∀ c ∈ calls, c.Acceptable) (name : String) :
    Follows (Session.put name q entries) (Function.update l name (some calls)) where
  described other := by
    by_cases hother : other = name
    · subst hother
      rw [lookup_put_self, Function.update_self, Option.map_some, Option.map_some, hq]
    · rw [lookup_put_of_ne hother, Function.update_of_ne hother, h.described]
  acceptable other calls' hcalls' := by
    by_cases hother : other = name
    · subst hother
      rw [Function.update_self] at hcalls'
      cases hcalls'
      exact hcalls
    · rw [Function.update_of_ne hother] at hcalls'
      exact h.acceptable other calls' hcalls'

variable {s : Session}

theorem start (h : Follows s.queries l) (name : String) (q : QueryStart) :
    Follows (s.changed (.start name q)) (l.changed s (.start name q)) := by
  cases hd : s.dialect? q.dialect with
  | none =>
    -- Without a dialect no query is made, and an older one of that name stays.
    simpa [Session.changed, Lineages.changed, hd] using h
  | some dialect =>
    have hchain := Query.chain_described (q := { dialect }) Clauses.described_nil.symm q.chain
    have htaken : ∀ c ∈ q.chain.takeWhile fun c => c.Acceptable, c.Acceptable :=
      fun c hc => by simpa using List.mem_takeWhile_imp hc
    simpa [Session.changed, Lineages.changed, hd] using h.put hchain htaken name

theorem call (h : Follows s.queries l) (name : String) (c : ClauseCall) :
    Follows (s.changed (.call name c)) (l.changed s (.call name c)) := by
  cases hq : s.queries.lookup name with
  | none => simpa [Session.changed, Lineages.changed, hq, h.lineage_eq_none hq] using h
  | some q =>
    obtain ⟨calls, hcalls, hclauses⟩ := h.exists_lineage hq
    by_cases hc : c.Acceptable
    · have hnext : q.clauses.extended c = .described (calls ++ [c]) := by
        rw [hclauses, Clauses.described_concat]
      have hall : ∀ c' ∈ calls ++ [c], c'.Acceptable := by
        intro c' hc'
        rcases List.mem_append.1 hc' with hc' | hc'
        · exact h.acceptable name calls hcalls c' hc'
        · rwa [List.mem_singleton.1 hc']
      simpa [Session.changed, Lineages.changed, hq, hcalls, hc, Query.call_eq_ok hc] using
        h.put (q := { q with clauses := q.clauses.extended c }) hnext hall name
    · -- Neither side takes a rejected call in.
      obtain ⟨e, he⟩ := Query.exists_call_eq_error hc q
      simpa [Session.changed, Lineages.changed, hq, hcalls, hc, he] using h

theorem copy (h : Follows s.queries l) (name target : String) :
    Follows (s.changed (.copy name target)) (l.changed s (.copy name target)) := by
  cases hq : s.queries.lookup name with
  | none => simpa [Session.changed, Lineages.changed, hq, h.lineage_eq_none hq] using h
  | some q =>
    obtain ⟨calls, hcalls, hclauses⟩ := h.exists_lineage hq
    simpa [Session.changed, Lineages.changed, hq, hcalls] using
      h.put hclauses (h.acceptable name calls hcalls) target

/-- Every operation keeps the invariant. -/
theorem step (h : Follows s.queries l) (op : Operation) :
    Follows (s.run op).2.queries (l.step s op) := by
  rw [run_queries]
  unfold Lineages.step
  cases change? op with
  | none => exact h
  | some change =>
    cases change with
    | start name q => exact h.start name q
    | call name c => exact h.call name c
    | copy name target => exact h.copy name target

/-- Every run keeps the invariant. -/
theorem run (h : Follows s.queries l) (ops : List Operation) :
    Follows (s.after ops).queries (s.lineagesFrom l ops) := by
  induction ops generalizing s l with
  | nil => exact h
  | cons op rest ih => exact ih (h.step op)

theorem usable (h : Follows entries l) {q : Query} (hq : entries.lookup name = some q) :
    q.clauses.Usable := by
  obtain ⟨calls, hcalls, hclauses⟩ := h.exists_lineage hq
  rw [hclauses]
  exact Clauses.described_usable (h.acceptable name calls hcalls)

end Follows

end FluentQuery.Session
