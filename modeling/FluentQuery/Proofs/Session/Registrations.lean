import FluentQuery.Proofs.Session.Creation
import FluentQuery.Proofs.Session.Lineage

/-!
# The engines of a session

Operations change the registry of a session by registering engines and in no other way, so that
what it holds is told by the registrations among the operations, whatever else was run between
them, with a result or without.

* **`Session.registrations`** — the registrations among operations;
* **`Session.run_registry`**, **`Session.registry_after`** — the registry after an operation, and
  after any number of them;
* **`Session.registry_last_write_wins`** — which names are listed then, which engine a name stands
  for, and what creating an adapter under a name comes to.
-/

namespace FluentQuery

/-- The name and the engine that an operation registers, if it is for that. -/
def Operation.registration? : Operation → Option (String × Engine)
  | .register name engine => some (name, engine)
  | _ => none

namespace Session

/-- The registrations among operations, in order. -/
def registrations (ops : List Operation) : List (String × Engine) :=
  ops.filterMap Operation.registration?

theorem registry_apart : Apart registry := ⟨fun _ _ => rfl, fun _ _ => rfl, fun _ _ => rfl⟩

/-- **One operation.** It does to the registry what it registers, if anything. -/
theorem run_registry (op : Operation) (s : Session) :
    (s.run op).2.registry = s.registry.after op.registration?.toList := by
  cases op with
  | register name engine => rfl
  | _ =>
    rw [registry_apart.run]
    exact registry_apart.perform (fun _ _ _ => rfl) (fun _ _ h => by cases h) ⟨s, []⟩

/-- **Any operations.** They do to the registry what the registrations among them do. -/
theorem registry_after (s : Session) (ops : List Operation) :
    (s.after ops).registry = s.registry.after (registrations ops) := by
  induction ops generalizing s with
  | nil => rfl
  | cons op rest ih =>
    have hfirst : registrations (op :: rest) =
        op.registration?.toList ++ registrations rest := by
      unfold registrations
      rw [List.filterMap_cons]
      cases op.registration? <;> rfl
    show ((s.run op).2.after rest).registry = _
    rw [ih, run_registry, hfirst, Registry.after_append]

/-- **The last registration counts.** After any operations on a session whose registry is the one
that is built in, the names that are listed are those of the built-in engines and those that were
registered, all in small letters, in order and each once. A name stands for the engine that was
registered last under it, where the case of letters does not count, or else for the one that is
built in under it; registering another name makes no difference to that. To create an adapter under
a name is to create one of the engine that the name stands for; where it stands for none this fails
with the names that there are. A failure, be it for that reason or in making the adapter or in
connecting it, leaves the registry and all else in the session as it was but for the adapter, under
whose name there is none, and no connection was opened. -/
theorem registry_last_write_wins (s : Session) (hfresh : s.registry = .builtIn)
    (ops : List Operation) :
    ∃ names : List String,
      names.Pairwise (· < ·) ∧
      (∀ n, n ∈ names ↔
        (∃ k ∈ Engine.builtIn, k.name = n) ∨ ∃ x ∈ registrations ops, Text.lower x.1 = n) ∧
      ((s.after ops).run .engines).1.result = .ok (.value (.list (names.map .text))) ∧
      (∀ engine, (s.after ops).registry.resolve? engine =
        (Registry.last? (registrations ops) engine).or (Engine.builtIn? engine)) ∧
      (∀ engine k other, Text.lower other ≠ Text.lower engine →
        ((s.after ops).run (.register engine k)).2.registry.resolve? other =
          (s.after ops).registry.resolve? other) ∧
      ∀ name engine config connect driver files,
        let create := fun source =>
          (s.after ops).run (.adapter name source (.dict config) connect driver files)
        let created := create (.registered (.text engine))
        (∀ k, (s.after ops).registry.resolve? engine = some k →
          created = create (.engine k) ∧
            ∀ r, created.1.result = .ok r → ∃ a, r = .adapter a ∧ a.engine = k) ∧
        ((s.after ops).registry.resolve? engine = none →
          created.1.result = .error (.connection ⟨"Unsupported engine: " ++ engine ++
            ". Available: " ++ joinWith ", " names, engine, none⟩)) ∧
        ∀ e, created.1.result = .error e →
          created.2 = { s.after ops with adapters := erase name (s.after ops).adapters } ∧
          ∃ calls, created.1.calls = some calls ∧ driver.opens calls = 0 := by
  have hregistry : (s.after ops).registry = Registry.builtIn.after (registrations ops) := by
    rw [registry_after, hfresh]
  refine ⟨(s.after ops).registry.names, ?_, ?_, rfl, ?_, ?_, ?_⟩
  · rw [hregistry]
    exact Registry.builtIn_ordered.after
  · intro n
    rw [hregistry, Registry.mem_names_after, Registry.mem_names_builtIn]
  · intro engine
    rw [hregistry, Registry.resolve?_after, Registry.resolve?_builtIn]
  · intro engine k other hother
    exact Registry.resolve?_register_of_ne hother
  · intro name engine config connect driver files
    refine ⟨fun k hk => ?_, fun hnone => ?_, fun e he => run_creating_error he⟩
    · have hmake : (AdapterSource.registered (.text engine)).make (s.after ops).registry
          (.dict config) driver files = Adapter.make k (.dict config) driver files :=
        Registry.make_of_resolve?_some hk
      exact ⟨run_of_same_make hmake, fun r hr => engine_of_created hmake hr⟩
    · have hmake : (AdapterSource.registered (.text engine)).make (s.after ops).registry
          (.dict config) driver files = _ := Registry.make_of_resolve?_none hnone
      exact (run_of_error id (runFrom_making_error hmake)).1

/-- Names that differ in the case of letters alone, two of them in a sigma, which is another letter
at the end of a word, and one that of an engine which is built in; and between them an adapter that
cannot be created. -/
def colliding : List Operation :=
  [.register "A\u03A3" .fake,
    .adapter "a" (.registered (.text "nosuch")) (.dict []) true default {},
    .register "SQLite" .other, .register "a\u03C2" .duckdb]

/-- A driver that opens no connection. -/
def closedServer : Driver := Script.driver { connectFault := some (.driver .postgres "down") }

/-- To create an adapter that such a driver serves. -/
def creatingFrom (source : AdapterSource) : Operation :=
  .adapter "b" source (.dict [(.text "dsn", .text "db")]) true closedServer {}

set_option maxRecDepth 4000 in
theorem registry_last_write_wins_colliding :
    ({} : Session).registry = .builtIn ∧
      (∃ names : List String,
        ((after {} colliding).run .engines).1.result = .ok (.value (.list (names.map .text))) ∧
        names.Pairwise (· < ·) ∧ "a\u03C2" ∈ names ∧
        ((after {} colliding).run (creatingFrom (.registered (.text "nosuch")))).1.result =
          .error (.connection ⟨"Unsupported engine: " ++ "nosuch" ++
            ". Available: " ++ joinWith ", " names, "nosuch", none⟩)) ∧
      (after {} colliding).registry.resolve? "A\u03A3" = some .duckdb ∧
      (after {} colliding).run (creatingFrom (.registered (.text "A\u03A3"))) =
        (after {} colliding).run (creatingFrom (.engine .duckdb)) ∧
      (after {} colliding).registry.resolve? "SQLITE" = some .other ∧
      ((after {} colliding).run (.register "a" .fake)).2.registry.resolve? "a\u03C2" =
        (after {} colliding).registry.resolve? "a\u03C2" ∧
      ∃ e calls,
        ((after {} colliding).run (creatingFrom (.registered (.text "Postgres")))).1.result =
          .error e ∧
        ((after {} colliding).run (creatingFrom (.registered (.text "Postgres")))).1.calls =
          some calls ∧
        closedServer.opens calls = 0 := by
  obtain ⟨names, hordered, hnames, hlisted, hresolve, hother, hcreate⟩ :=
    registry_last_write_wins {} rfl colliding
  have hlast : (after {} colliding).registry.resolve? "A\u03A3" = some .duckdb := by
    rw [hresolve]
    decide
  have hnone : (after {} colliding).registry.resolve? "nosuch" = none := by
    rw [hresolve]
    decide
  obtain ⟨hsame, -, -⟩ := hcreate "b" "A\u03A3" [(.text "dsn", .text "db")] true closedServer {}
  obtain ⟨-, hunknown, -⟩ := hcreate "b" "nosuch" [(.text "dsn", .text "db")] true closedServer {}
  obtain ⟨-, -, hfailure⟩ := hcreate "b" "Postgres" [(.text "dsn", .text "db")] true closedServer {}
  have hrefused : ((after {} colliding).run
      (creatingFrom (.registered (.text "Postgres")))).1.result =
      .error (.connection ⟨"Failed to connect to postgres: down", "postgres",
        some (.fault (.driver .postgres "down"))⟩) := rfl
  obtain ⟨-, calls, hcalls, hopens⟩ := hfailure _ hrefused
  refine ⟨rfl, ⟨names, hlisted, hordered, (hnames _).mpr (.inr ?_), hunknown hnone⟩, hlast,
    (hsame _ hlast).1, ?_, hother _ _ _ (by decide), _, calls, hrefused, hcalls, hopens⟩
  · exact ⟨("A\u03A3", .fake), by decide, by decide⟩
  · rw [hresolve]
    decide

end Session

end FluentQuery
