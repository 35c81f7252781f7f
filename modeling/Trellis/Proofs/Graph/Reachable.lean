/-
# Trellis.Proofs.Graph.Reachable — the graphs that a client can make

A `Call` changes a graph from outside and has an `Answer`; a derivation changes
it by rules. `Reachable` closes the empty graph under both, whether they succeed
or fail, with any rules, any edge builder and any generation numbers. Every
reachable graph is coherent (`Reachable.coherent`).
-/
import Trellis.Derive
import Trellis.Proofs.Graph.Removal

namespace Trellis.Graph

set_option autoImplicit false

/-! ## Calls -/

/-- What a client may ask a store of vertices and edges to change. -/
inductive Call where
  | addVertex (v : Vertex)
  | addVertices (vs : List Vertex)
  | addEdge (e : Edge)
  | addEdges (es : List Edge)
  | removeVertex (id : String)
  /-- The edge is named by its identity as text. -/
  | removeEdge (raw : String)
  | compact

/-- What a call gives back. -/
inductive Answer where
  | accepted (result : Except InputError Unit)
  /-- How many elements of a batch were stored. -/
  | counted (result : Except InputError Nat)
  /-- Whether an edge was new. -/
  | stored (result : Except InputError Bool)
  | removedVertex (result : Option Vertex)
  | removedEdge (result : Except EdgeIdError (Option Edge))
  | done

/-- The answer of a call and the graph after it. -/
def call (g : Graph) : Call → Answer × Graph
  | .addVertex v =>
    match g.insertVertex v with
    | .error cause => (.accepted (.error cause), g)
    | .ok after => (.accepted (.ok ()), after)
  | .addVertices vs =>
    let (result, after) := g.insertVertices vs
    (.counted result, after)
  | .addEdge e =>
    match g.insertEdge e with
    | .error cause => (.stored (.error cause), g)
    | .ok (isNew, after) => (.stored (.ok isNew), after)
  | .addEdges es =>
    let (result, after) := g.insertEdges es
    (.counted result, after)
  | .removeVertex id =>
    let (result, after) := g.removeVertex id
    (.removedVertex result, after)
  | .removeEdge raw =>
    match g.removeEdge raw with
    | .error cause => (.removedEdge (.error cause), g)
    | .ok (result, after) => (.removedEdge (.ok result), after)
  | .compact => (.done, g.compact)

/-- The answers to calls made one after the other, and the graph after the last. -/
def calls (g : Graph) : List Call → List Answer × Graph
  | [] => ([], g)
  | c :: rest =>
    let (answer, after) := g.call c
    let (answers, final) := after.calls rest
    (answer :: answers, final)

theorem call_addVertex_of_fault {g : Graph} {v : Vertex} {cause : InputError}
    (fault : v.normalized.check = .error cause) : (g.call (.addVertex v)).2 = g := by
  rw [call, insertVertex_of_fault fault]

theorem call_addVertex_of_checked {g : Graph} {v : Vertex} (checked : v.normalized.check = .ok ()) :
    (g.call (.addVertex v)).2 =
      if g.hasVertex v.normalized then g else g.storeVertex v.normalized := by
  rw [call, insertVertex_of_checked checked]
  cases g.hasVertex v.normalized <;> rfl

theorem call_addEdge_of_fault {g : Graph} {e : Edge} {cause : InputError}
    (fault : e.normalized.check = .error cause) : (g.call (.addEdge e)).2 = g := by
  rw [call, insertEdge_of_fault fault]

theorem call_addEdge_of_checked {g : Graph} {e : Edge} (checked : e.normalized.check = .ok ()) :
    (g.call (.addEdge e)).2 = if g.hasEdge e.normalized then g else g.storeEdge e.normalized := by
  rw [call, insertEdge_of_checked checked]
  cases g.hasEdge e.normalized <;> rfl

/-- A vertex that is added is stored in its normal form, or nothing happens. -/
theorem call_addVertex_cases (g : Graph) (v : Vertex) :
    (g.call (.addVertex v)).2 = g ∨ (g.call (.addVertex v)).2 = g.storeVertex v.normalized := by
  cases checked : v.normalized.check with
  | error cause => exact Or.inl (call_addVertex_of_fault checked)
  | ok =>
      rw [call_addVertex_of_checked checked]
      exact ite_eq_or_eq _ _ _

/-- An edge that is added is stored in its normal form, or nothing happens. -/
theorem call_addEdge_cases (g : Graph) (e : Edge) :
    (g.call (.addEdge e)).2 = g ∨ (g.call (.addEdge e)).2 = g.storeEdge e.normalized := by
  cases checked : e.normalized.check with
  | error cause => exact Or.inl (call_addEdge_of_fault checked)
  | ok =>
      rw [call_addEdge_of_checked checked]
      exact ite_eq_or_eq _ _ _

theorem edges_addVertex (g : Graph) (v : Vertex) : (g.call (.addVertex v)).2.edges = g.edges := by
  rcases call_addVertex_cases g v with same | stored
  · rw [same]
  · rw [stored, edges_storeVertex]

theorem vertices_subset_addVertex (g : Graph) (v : Vertex) :
    g.vertices ⊆ (g.call (.addVertex v)).2.vertices := by
  rcases call_addVertex_cases g v with same | stored
  · rw [same]
    exact List.Subset.refl _
  · rw [stored, vertices_storeVertex]
    exact List.subset_append_left _ _

theorem vertices_addEdge (g : Graph) (e : Edge) : (g.call (.addEdge e)).2.vertices = g.vertices := by
  rcases call_addEdge_cases g e with same | stored
  · rw [same]
  · rw [stored, vertices_storeEdge]

theorem call_removeEdge_of_fault {g : Graph} {raw : String} {cause : EdgeIdError}
    (fault : EdgeId.parse raw = .error cause) : (g.call (.removeEdge raw)).2 = g := by
  rw [call, removeEdge, fault]
  rfl

/-! ## Reachable graphs -/

/-- The graphs that calls and derivations make of the empty one. -/
inductive Reachable : Graph → Prop
  | empty : Reachable empty
  | call {g : Graph} (reachable : Reachable g) (c : Call) : Reachable (g.call c).2
  | runGeneration {g : Graph} (reachable : Reachable g) (rules : List Rule) (build : EdgeBuilder)
      (generation : Nat) : Reachable (g.runGeneration rules build generation).2
  | deriveEdges {g : Graph} (reachable : Reachable g) (rules : List Rule) (build : EdgeBuilder)
      (generations : Nat) : Reachable (g.deriveEdges rules build generations).2

variable {g : Graph}

theorem Coherent.call (coherent : g.Coherent) (c : Call) : (g.call c).2.Coherent := by
  cases c with
  | addVertex v =>
      cases done : g.insertVertex v with
      | error cause => simpa only [Graph.call, done] using coherent
      | ok after => simpa only [Graph.call, done] using (coherent.insertVertex done).1
  | addVertices vs => exact coherent.insertVertices vs
  | addEdge e =>
      cases done : g.insertEdge e with
      | error cause => simpa only [Graph.call, done] using coherent
      | ok result => simpa only [Graph.call, done] using (coherent.insertEdge done).1
  | addEdges es => exact coherent.insertEdges es
  | removeVertex id => exact (coherent.removeVertex_spec id).2.1
  | removeEdge raw =>
      cases read : EdgeId.parse raw with
      | error cause => rwa [call_removeEdge_of_fault read]
      | ok id =>
          obtain ⟨after, removed, final, -⟩ := coherent.removeEdge_spec read
          simpa only [Graph.call, removed] using final
  | compact => exact coherent.compact.1

theorem Coherent.runGeneration (coherent : g.Coherent) (rules : List Rule) (build : EdgeBuilder)
    (generation : Nat) : (g.runGeneration rules build generation).2.Coherent :=
  coherent.insertEdges _

theorem Coherent.deriveThrough (coherent : g.Coherent) (rules : List Rule) (build : EdgeBuilder)
    (generations : List Nat) (report : Report) :
    (Graph.deriveThrough rules build generations report g).2.Coherent := by
  induction generations generalizing g report with
  | nil => exact coherent
  | cons generation rest ih =>
      have step := coherent.runGeneration rules build generation
      rw [Graph.deriveThrough]
      split
      · next cause after failed => rwa [failed] at step
      · next created after done => exact ih (by rwa [done] at step) _

/-- **Every reachable graph is coherent.** -/
theorem Reachable.coherent (reachable : g.Reachable) : g.Coherent := by
  induction reachable with
  | empty => exact coherent_empty
  | call _ c ih => exact ih.call c
  | runGeneration _ rules build generation ih => exact ih.runGeneration rules build generation
  | deriveEdges _ rules build generations ih =>
      exact ih.deriveThrough rules build (List.range' 1 generations) {}

theorem Reachable.calls (reachable : g.Reachable) (cs : List Call) : (g.calls cs).2.Reachable := by
  induction cs generalizing g with
  | nil => exact reachable
  | cons c rest ih => exact ih (reachable.call c)

/-! ## A small graph -/

/-- Three people in a row, a loop, an edge both ways, an edge to a vertex that has
gone and an edge that is no longer there. -/
def sample : Graph :=
  (empty.calls [
    .addEdge (.asserted "ann" ["knows"] "bob"),
    .addVertices [.of "ann" ["person"] "Ann", .of "bob" ["person", "host"] "Bob",
      .of "cyd" ["person"] "Cyd", .of "dan" ["person"] "Dan"],
    .addEdges [.asserted "bob" ["likes", "knows"] "cyd", .asserted "bob" ["knows"] "bob",
      .asserted "cyd" ["knows"] "dan", .asserted "bob" ["knows"] "ann",
      .derived "ann" ["near"] "cyd" ⟨"by hand", 2⟩],
    .removeVertex "dan",
    .addEdge (.asserted "bob" ["knows"] "dan"),
    .removeEdge "ann>near>cyd"]).2

theorem sample_reachable : sample.Reachable := Reachable.empty.calls _

end Trellis.Graph
