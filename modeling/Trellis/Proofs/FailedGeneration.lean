/-
# Trellis.Proofs.FailedGeneration — what a generation leaves behind when it fails

A generation makes all its candidates before it inserts the first of them, so what
it sees is settled by then. The standard builder makes none that the graph refuses
(`Coherent.runGeneration_spec`), but another builder may, and candidates are inserted
one after the other. The generation stops at the first with a fault, with the graph's
cause for refusing it (`runGeneration_of_error`), and the candidates before it stay:
there is no way back, for a generation as for any other batch. So a failed generation
is not undone; what it leaves is the graph that its candidates before the refused one
would have made alone, and that is the graph from before exactly when all their ids
were taken.
-/
import Trellis.Proofs.Stages

namespace Trellis.Graph

set_option autoImplicit false

variable {g : Graph} {rules : List Rule} {build : EdgeBuilder} {generation : Nat}

/-- The edges that a generation inserts, in the order of the rules and of their matches. -/
def batch (g : Graph) (rules : List Rule) (build : EdgeBuilder) (generation : Nat) : List Edge :=
  rules.flatMap fun r => r.candidates g build generation

/-- A batch without a fault leaves the graph alone exactly when every id is taken. -/
theorem Coherent.insertEdges_eq_self_iff (coherent : g.Coherent) {es : List Edge}
    (checked : ∀ e ∈ es, e.normalized.check = .ok ()) :
    (g.insertEdges es).2 = g ↔ ∀ e ∈ es, ∃ f ∈ g.edges, f.id = e.normalized.id := by
  constructor
  · intro same
    obtain ⟨added, -, -, edges, -, kept⟩ := coherent.insertEdges_of_checked checked
    rwa [← edges, same] at kept
  · intro taken
    rw [insertEdges_of_taken fun e here =>
      ⟨checked e here, coherent.toLinked.hasEdge_iff.mpr (taken e here)⟩]

/-- **A generation fails exactly when it makes an edge with a fault.** -/
theorem runGeneration_isOk_iff (reachable : g.Reachable) :
    (∃ count, (g.runGeneration rules build generation).1 = .ok count) ↔
      ∀ e ∈ g.batch rules build generation, e.normalized.check = .ok () := by
  constructor
  · rintro ⟨count, done⟩
    exact checked_of_insertEdges done
  · intro checked
    obtain ⟨added, count, -⟩ := reachable.coherent.insertEdges_of_checked checked
    exact ⟨added.length, count⟩

/-- **A generation that fails keeps its edges from before the fault.** It fails with the
cause for which the graph refuses the first candidate with a fault. The vertices are what
they were, and after the edges that were there come those of the candidates before it
that are new, in their order; nothing is different only if none of them is. -/
theorem runGeneration_of_error (reachable : g.Reachable) {cause : InputError}
    (failed : (g.runGeneration rules build generation).1 = .error cause) :
    let final := (g.runGeneration rules build generation).2
    ∃ before e after, g.batch rules build generation = before ++ e :: after ∧
      (∀ f ∈ before, f.normalized.check = .ok ()) ∧ e.normalized.check = .error cause ∧
      (∃ added, g.insertEdges before = (.ok added.length, final) ∧
        final.vertices = g.vertices ∧ final.edges = g.edges ++ added ∧
        added.Sublist (before.map Edge.normalized)) ∧
      (final = g ↔ ∀ f ∈ before, ∃ old ∈ g.edges, old.id = f.normalized.id) := by
  intro final
  obtain ⟨before, e, after, batch, passed, rejected, same⟩ := insertEdges_of_error failed
  obtain ⟨added, count, vertices, edges, fromThese, -⟩ :=
    reachable.coherent.insertEdges_of_checked passed
  have alone : g.insertEdges before = (.ok added.length, final) := Prod.ext count same.symm
  have unchanged := reachable.coherent.insertEdges_eq_self_iff passed
  rw [alone] at vertices edges unchanged
  exact ⟨before, e, after, batch, passed, rejected, ⟨added, alone, vertices, edges, fromThese⟩,
    unchanged⟩

/-- Ann knows Bob, and Bob likes two cities, one of them with a space in its id. -/
def travels : Graph :=
  (empty.calls [
    .addVertices [.of "ann" ["person"] "Ann", .of "bob" ["person"] "Bob", .of "rome" ["city"] "Rome",
      .of "new york" ["city"] "New York"],
    .addEdges [.asserted "ann" ["knows"] "bob", .asserted "bob" ["likes"] "rome",
      .asserted "bob" ["likes"] "new york"]]).2

theorem travels_reachable : travels.Reachable := Reachable.empty.calls _

/-- Makes the derived edges with the id of the target as one more type. -/
def buildWithTarget : EdgeBuilder := fun source types target derivation =>
  .derived source (types ++ [target]) target derivation

/-- The edge to Rome. -/
def nearRome : Edge := .derived "ann" ["near", "rome"] "rome" ⟨nearRule.name, 1⟩

/-- The edge to New York. One of its types has a space in it. -/
def nearNewYork : Edge := .derived "ann" ["near", "new york"] "new york" ⟨nearRule.name, 1⟩

/-- The edge to Rome has been stored when the one to New York is refused. -/
theorem runGeneration_of_error_travels :
    let final := (travels.runGeneration [nearRule] buildWithTarget 1).2
    travels.Reachable ∧
      (travels.runGeneration [nearRule] buildWithTarget 1).1 =
        .error (.invalidTag .edge "new york") ∧
      travels.batch [nearRule] buildWithTarget 1 = [nearRome, nearNewYork] ∧
      nearRome.normalized.check = .ok () ∧
      nearNewYork.normalized.check = .error (.invalidTag .edge "new york") ∧
      travels.insertEdges [nearRome] = (.ok 1, final) ∧
      final.vertices = travels.vertices ∧ final.edges = travels.edges ++ [nearRome] ∧
      (final = travels ↔ ∃ old ∈ travels.edges, old.id = nearRome.normalized.id) ∧
      final ≠ travels := by
  intro final
  have failed : (travels.runGeneration [nearRule] buildWithTarget 1).1 =
      .error (.invalidTag .edge "new york") := by decide +kernel
  have made : travels.batch [nearRule] buildWithTarget 1 = [nearRome, nearNewYork] := by
    decide +kernel
  have accepted : nearRome.normalized.check = .ok () := by decide +kernel
  have refused : nearNewYork.normalized.check = .error (.invalidTag .edge "new york") := by
    decide +kernel
  have new : ¬∃ old ∈ travels.edges, old.id = nearRome.normalized.id := by decide +kernel
  have stored : (travels.insertEdges [nearRome]).1 = .ok 1 := by decide +kernel
  have normal : nearRome.normalized = nearRome := by decide +kernel
  obtain ⟨before, e, after, batch, passed, rejected, ⟨added, alone, vertices, edges, fromThese⟩,
    unchanged⟩ := runGeneration_of_error travels_reachable failed
  -- the first edge has no fault, so the generation stops at the second
  obtain rfl : before = [nearRome] := by
    rw [made] at batch
    match before, batch with
    | [], batch =>
        obtain ⟨rfl, -⟩ := List.cons.inj batch
        rw [accepted] at rejected
        cases rejected
    | [_], batch =>
        obtain ⟨rfl, -⟩ := List.cons.inj batch
        rfl
    | _ :: _ :: _, batch => simp at batch
  rw [alone] at stored
  have one : added.length = 1 := Except.ok.inj stored
  obtain rfl : added = [nearRome] := by
    rw [← normal]
    exact fromThese.eq_of_length one
  simp only [List.forall_mem_singleton] at unchanged
  exact ⟨travels_reachable, failed, made, accepted, refused, alone, vertices, edges, unchanged,
    unchanged.not.mpr new⟩

/-- A generation is not all or nothing: here it fails, and there is an edge more. -/
theorem failed_generation_adds_edge :
    travels.Reachable ∧ (∃ s : RuleSpec, s.compile = .ok nearRule) ∧
      (travels.runGeneration [nearRule] buildWithTarget 1).1 =
        .error (.invalidTag .edge "new york") ∧
      travels.edges.map (·.id.text) = ["ann>knows>bob", "bob>likes>rome", "bob>likes>new york"] ∧
      (travels.runGeneration [nearRule] buildWithTarget 1).2.edges.map (·.id.text) =
        ["ann>knows>bob", "bob>likes>rome", "bob>likes>new york", "ann>near,rome>rome"] ∧
      (travels.runGeneration [nearRule] buildWithTarget 1).2 ≠ travels := by
  have before : travels.edges.map (·.id.text) =
      ["ann>knows>bob", "bob>likes>rome", "bob>likes>new york"] := by decide +kernel
  have after : (travels.runGeneration [nearRule] buildWithTarget 1).2.edges.map (·.id.text) =
      ["ann>knows>bob", "bob>likes>rome", "bob>likes>new york", "ann>near,rome>rome"] := by
    decide +kernel
  refine ⟨travels_reachable, sampleRules_compiled _ List.mem_cons_self, by decide +kernel, before,
    after, fun same => ?_⟩
  rw [same, before] at after
  simp at after

end Trellis.Graph
