/-
# Trellis.Proofs.Rebuild — a graph from its own elements

Compaction stores the elements of a graph anew without looking at them, while a document
puts its elements into their normal form, checks them and looks for their ids first. For the
elements of a graph it comes to the same (`buildGraph_elements`). They were put into normal
form and checked when they came in; a normal form is its own, so that they are so still, and
no two of them have one id. So the graph of a document that holds a graph's elements is the
graph compacted: the same elements in the same order, pending ones and records of derivation
included, under the same lookups and with the same counters, but with no slot vacant.
-/
import Trellis.Document
import Trellis.Proofs.Graph.Tombstones
import Trellis.Proofs.SameReads
import Trellis.Proofs.Tag

namespace Trellis

set_option autoImplicit false

/-! ## Stored elements are in normal form -/

theorem Vertex.Storable.normalized_eq {v : Vertex} (storable : v.Storable) : v.normalized = v := by
  obtain ⟨raw, rfl⟩ := storable.normal
  simp only [Vertex.normalized, Tag.normalize_normalize]

theorem Edge.Storable.normalized_eq {e : Edge} (storable : e.Storable) : e.normalized = e := by
  obtain ⟨raw, rfl⟩ := storable.normal
  simp only [Edge.normalized, Tag.normalize_normalize]

namespace Graph

variable {g : Graph}

/-! ## Inserting what may be stored -/

/-- A vertex that may be stored is stored as it is, if its id is new. -/
theorem Coherent.insertVertex_of_storable (coherent : g.Coherent) {v : Vertex}
    (storable : v.Storable) (fresh : ∀ w ∈ g.vertices, w.id ≠ v.id) :
    g.insertVertex v = .ok (g.storeVertex v) := by
  have free : ¬g.hasVertex v = true := by
    rw [coherent.toLinked.hasVertex_iff]
    rintro ⟨w, stored, same⟩
    exact fresh w stored same
  have normal := storable.normalized_eq
  rw [insertVertex_of_checked (normal.symm ▸ storable.checked), normal, if_neg free]

theorem Coherent.insertEdge_of_storable (coherent : g.Coherent) {e : Edge}
    (storable : e.Storable) (fresh : ∀ f ∈ g.edges, f.id ≠ e.id) :
    g.insertEdge e = .ok (true, g.storeEdge e) := by
  have free : ¬g.hasEdge e = true := by
    rw [coherent.toLinked.hasEdge_iff]
    rintro ⟨f, stored, same⟩
    exact fresh f stored same
  have normal := storable.normalized_eq
  rw [insertEdge_of_checked (normal.symm ▸ storable.checked), normal, if_neg free]

/-- A batch of them is stored whole. -/
theorem Coherent.insertVertices_of_storable (coherent : g.Coherent) {vs : List Vertex}
    (storable : ∀ v ∈ vs, v.Storable) (apart : ((g.vertices ++ vs).map (·.id)).Nodup) :
    g.insertVertices vs = (.ok vs.length, vs.foldl Graph.storeVertex g) := by
  induction vs generalizing g with
  | nil => rfl
  | cons v vs ih =>
      obtain ⟨first, later⟩ := List.forall_mem_cons.mp storable
      have fresh : ∀ w ∈ g.vertices, w.id ≠ v.id := key_ne_of_nodup_append apart
      have rest := ih (coherent.storeVertex first fresh) later
        (by simpa [vertices_storeVertex] using apart)
      rw [Graph.insertVertices, coherent.insertVertex_of_storable first fresh]
      simp only [rest, List.foldl_cons, List.length_cons]
      rfl

theorem Coherent.insertEdges_of_storable (coherent : g.Coherent) {es : List Edge}
    (storable : ∀ e ∈ es, e.Storable) (apart : ((g.edges ++ es).map (·.id)).Nodup) :
    g.insertEdges es = (.ok es.length, es.foldl Graph.storeEdge g) := by
  induction es generalizing g with
  | nil => rfl
  | cons e es ih =>
      obtain ⟨first, later⟩ := List.forall_mem_cons.mp storable
      have fresh : ∀ f ∈ g.edges, f.id ≠ e.id := key_ne_of_nodup_append apart
      have rest := ih (coherent.storeEdge first fresh) later
        (by simpa [edges_storeEdge] using apart)
      rw [insertEdges_cons (coherent.insertEdge_of_storable first fresh), rest]
      rfl

/-! ## The elements of a graph -/

/-- **What a graph is built of its own elements is the graph compacted.** -/
theorem Coherent.build_elements (coherent : g.Coherent) :
    Graph.build g.vertices g.edges = .ok g.compact := by
  have linked := coherent.toLinked
  obtain ⟨started, -, start⟩ := coherent.storeVertices_empty
  have vertices := coherent_empty.insertVertices_of_storable
    (fun _ stored => linked.storable_of_mem_vertices stored)
    (by simpa [Graph.vertices, empty, Arena.live] using linked.nodup_vertexIds)
  have edges := started.insertEdges_of_storable
    (fun _ stored => linked.storable_of_mem_edges stored)
    (by simpa [start] using linked.nodup_edgeIds)
  rw [Graph.build, vertices]
  dsimp only
  rw [edges]
  rfl

/-- The counters of a compacted graph: as before, with no slot vacant. -/
theorem Coherent.stats_compact (coherent : g.Coherent) :
    g.compact.stats = { g.stats with vertexTombstones := 0, edgeTombstones := 0 } := by
  obtain ⟨after, vertices, edges⟩ := coherent.compact
  have same : g.compact.plain = g.plain := by rw [plain, plain, vertices, edges]
  have none_ : g.compact.vertexTombstones + g.compact.edgeTombstones = 0 :=
    coherent.tombstones_compact
  obtain ⟨noVertex, noEdge⟩ := Nat.add_eq_zero_iff.mp none_
  rw [← after.counters_congr coherent same 0 0, stats, noVertex, noEdge]

/-- **A document of a graph's own elements builds the compacted graph**, whatever its rules.
That one has the elements of the graph in their order, answers every lookup as the graph
does, and has its counters but for the vacant slots. -/
theorem buildGraph_elements (reachable : g.Reachable) (rules : List RuleSpec) (n : Nat) :
    (⟨g.vertices, g.edges, rules, n⟩ : Document).buildGraph = .ok g.compact ∧
      g.compact.vertices = g.vertices ∧ g.compact.edges = g.edges ∧
      g.compact.filterVertices = g.filterVertices ∧ g.compact.filterEdges = g.filterEdges ∧
      g.compact.stats = { g.stats with vertexTombstones := 0, edgeTombstones := 0 } := by
  have coherent := reachable.coherent
  obtain ⟨after, vertices, edges⟩ := coherent.compact
  have same : g.compact.plain = g.plain := by rw [plain, plain, vertices, edges]
  exact ⟨coherent.build_elements, vertices, edges, after.filterVertices_congr coherent same,
    after.filterEdges_congr coherent same, coherent.stats_compact⟩

/-- The small graph with a derived edge: one of its edges is pending, and slots are vacant
in both arenas. -/
def derivedSample : Graph :=
  (sample.call (.addEdge (.derived "ann" ["near"] "cyd" ⟨"by hand", 2⟩))).2

theorem buildGraph_elements_derivedSample :
    derivedSample.Reachable ∧
      (derivedSample.stats.pendingEdges = 1 ∧ derivedSample.stats.vertexTombstones = 1 ∧
        derivedSample.stats.edgeTombstones = 2 ∧
        derivedSample.edges.any (·.isDerived) = true) ∧
      (⟨derivedSample.vertices, derivedSample.edges, [], 1⟩ : Document).buildGraph =
        .ok derivedSample.compact ∧
      derivedSample.compact.edges = derivedSample.edges ∧
      derivedSample.compact.stats.edgeTombstones = 0 := by
  have reachable : derivedSample.Reachable := sample_reachable.call _
  obtain ⟨built, -, edges, -, -, stats⟩ := buildGraph_elements reachable [] 1
  exact ⟨reachable, by decide +kernel, built, edges, congrArg Stats.edgeTombstones stats⟩

end Graph

end Trellis
