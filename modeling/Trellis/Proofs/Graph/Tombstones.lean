/-
# Trellis.Proofs.Graph.Tombstones — vacant slots stay few

Each element has a slot of its own, so a map from ids is never longer than its arena
and the vacant slots are what is left over (`Linked.size_vertexSlots_add`). A graph is
dense when its vacant slots are fewer than the threshold, or no more than its elements:
just then it is not compacted (`Linked.isSparse_eq_false_iff`).

Elements come without leaving a slot vacant (`Fills`), so a graph that was dense stays
dense. Elements go in a removal alone, which may leave any number of slots vacant at
once (`Thins`); but then it asks whether the graph is sparse, and compacts it if so. So
every reachable graph is dense, and its arenas are at most about twice as long as its
lists (`tombstones_bounded`).
-/
import Trellis.Proofs.Graph.Stats

namespace Trellis.Graph

set_option autoImplicit false

variable {g h : Graph}

/-! ## Slots and elements -/

theorem length_vertices_le (g : Graph) : g.vertices.length ≤ g.vertexArena.size := by
  rw [vertices_eq]
  exact (List.length_filterMap_le _ _).trans_eq List.length_range

theorem length_edges_le (g : Graph) : g.edges.length ≤ g.edgeArena.size := by
  rw [edges_eq]
  exact (List.length_filterMap_le _ _).trans_eq List.length_range

/-- A slot of the arena of vertices is in the map from ids, or it is vacant. -/
theorem Linked.size_vertexSlots_add (linked : g.Linked) :
    g.vertexSlots.size + g.vertexTombstones = g.vertexArena.size := by
  have count : g.vertexSlots.size = g.vertices.length := linked.vertexCount_eq
  have few := g.length_vertices_le
  have vacant := linked.vertexTombstones_eq
  omega

theorem Linked.size_edgeSlots_add (linked : g.Linked) :
    g.edgeSlots.size + g.edgeTombstones = g.edgeArena.size := by
  have count : g.edgeSlots.size = g.edges.length := linked.edgeCount_eq
  have few := g.length_edges_le
  have vacant := linked.edgeTombstones_eq
  omega

/-- The elements in both arenas. -/
def liveCount (g : Graph) : Nat := g.vertices.length + g.edges.length

/-- The vacant slots of both arenas. -/
def tombstones (g : Graph) : Nat := g.vertexTombstones + g.edgeTombstones

/-- The vacant slots are too few for a compaction. -/
def IsDense (g : Graph) : Prop := g.tombstones < compactionThreshold ∨ g.tombstones ≤ g.liveCount

theorem Linked.isSparse_eq_false_iff (linked : g.Linked) : g.isSparse = false ↔ g.IsDense := by
  have vertices := linked.size_vertexSlots_add
  have edges := linked.size_edgeSlots_add
  have sum : g.vertexArena.size + g.edgeArena.size - (g.vertexCount + g.edgeCount) = g.tombstones := by
    simp only [vertexCount, edgeCount, tombstones]
    omega
  have live : g.vertexCount + g.edgeCount = g.liveCount := by
    rw [linked.vertexCount_eq, linked.edgeCount_eq, liveCount]
  rw [isSparse, sum, live, IsDense, Bool.and_eq_false_iff, decide_eq_false_iff_not,
    decide_eq_false_iff_not, Nat.not_le, Nat.not_lt]

/-! ## Elements that come -/

/-- Slots have become no more vacant and elements no fewer. -/
structure Fills (g h : Graph) : Prop where
  vertexTombstones : h.vertexTombstones = g.vertexTombstones
  edgeTombstones : h.edgeTombstones = g.edgeTombstones
  liveCount : g.liveCount ≤ h.liveCount

theorem Fills.refl (g : Graph) : g.Fills g := ⟨rfl, rfl, Nat.le_refl _⟩

theorem Fills.trans {k : Graph} (first : g.Fills h) (second : h.Fills k) : g.Fills k :=
  ⟨second.vertexTombstones.trans first.vertexTombstones,
    second.edgeTombstones.trans first.edgeTombstones, first.liveCount.trans second.liveCount⟩

theorem Fills.isDense (fills : g.Fills h) (dense : g.IsDense) : h.IsDense := by
  have same : h.tombstones = g.tombstones := by
    rw [tombstones, tombstones, fills.vertexTombstones, fills.edgeTombstones]
  rw [IsDense, same]
  exact dense.imp_right fun few => few.trans fills.liveCount

theorem Linked.fills_storeVertex (before : g.Linked) {v : Vertex} (after : (g.storeVertex v).Linked) :
    g.Fills (g.storeVertex v) where
  vertexTombstones := by
    rw [after.vertexTombstones_eq, before.vertexTombstones_eq, vertices_storeVertex,
      size_vertexArena_storeVertex, List.length_append]
    exact Nat.add_sub_add_right _ _ _
  edgeTombstones := by
    rw [after.edgeTombstones_eq, before.edgeTombstones_eq, edges_storeVertex,
      size_edgeArena_storeVertex]
  liveCount := by
    rw [Graph.liveCount, Graph.liveCount, vertices_storeVertex, edges_storeVertex, List.length_append]
    omega

theorem Linked.fills_storeEdge (before : g.Linked) {e : Edge} (after : (g.storeEdge e).Linked) :
    g.Fills (g.storeEdge e) where
  vertexTombstones := by
    rw [after.vertexTombstones_eq, before.vertexTombstones_eq, vertices_storeEdge,
      size_vertexArena_storeEdge]
  edgeTombstones := by
    rw [after.edgeTombstones_eq, before.edgeTombstones_eq, edges_storeEdge,
      size_edgeArena_storeEdge, List.length_append]
    exact Nat.add_sub_add_right _ _ _
  liveCount := by
    rw [Graph.liveCount, Graph.liveCount, vertices_storeEdge, edges_storeEdge, List.length_append]
    omega

theorem Coherent.fills_insertVertex (coherent : g.Coherent) {v : Vertex} {after : Graph}
    (done : g.insertVertex v = .ok after) : g.Fills after := by
  have linked := (coherent.insertVertex done).1.toLinked
  cases checked : v.normalized.check with
  | error cause =>
      rw [insertVertex_of_fault checked] at done
      cases done
  | ok =>
      rw [insertVertex_of_checked checked] at done
      split at done
      · cases done
      · obtain rfl := Except.ok.inj done
        exact coherent.toLinked.fills_storeVertex linked

theorem Coherent.fills_insertEdge (coherent : g.Coherent) {e : Edge} {isNew : Bool} {after : Graph}
    (done : g.insertEdge e = .ok (isNew, after)) : g.Fills after := by
  have linked := (coherent.insertEdge done).1.toLinked
  rw [insertEdge_of_checked (checked_of_insertEdge done)] at done
  split at done
  · obtain ⟨-, rfl⟩ := Prod.mk.inj (Except.ok.inj done)
    exact .refl g
  · obtain ⟨-, rfl⟩ := Prod.mk.inj (Except.ok.inj done)
    exact coherent.toLinked.fills_storeEdge linked

theorem Coherent.fills_addVertex (coherent : g.Coherent) (v : Vertex) :
    g.Fills (g.call (.addVertex v)).2 := by
  cases done : g.insertVertex v with
  | error cause => simpa only [Graph.call, done] using Fills.refl g
  | ok after => simpa only [Graph.call, done] using coherent.fills_insertVertex done

theorem Coherent.fills_addEdge (coherent : g.Coherent) (e : Edge) :
    g.Fills (g.call (.addEdge e)).2 := by
  cases done : g.insertEdge e with
  | error cause => simpa only [Graph.call, done] using Fills.refl g
  | ok result => simpa only [Graph.call, done] using coherent.fills_insertEdge done

theorem Coherent.fills_insertVertices (coherent : g.Coherent) (vs : List Vertex) :
    g.Fills (g.insertVertices vs).2 := by
  induction vs generalizing g with
  | nil => exact .refl g
  | cons v vs ih =>
      rw [Graph.insertVertices]
      split
      · exact .refl g
      · next stored done =>
          exact (coherent.fills_insertVertex done).trans (ih (coherent.insertVertex done).1)

theorem Coherent.fills_insertEdges (coherent : g.Coherent) (es : List Edge) :
    g.Fills (g.insertEdges es).2 := by
  induction es generalizing g with
  | nil => exact .refl g
  | cons e es ih =>
      rw [Graph.insertEdges]
      split
      · exact .refl g
      · next isNew stored done =>
          exact (coherent.fills_insertEdge done).trans (ih (coherent.insertEdge done).1)

theorem Coherent.fills_deriveThrough (coherent : g.Coherent) (rules : List Rule) (build : EdgeBuilder)
    (generations : List Nat) (report : Report) :
    g.Fills (Graph.deriveThrough rules build generations report g).2 := by
  induction generations generalizing g report with
  | nil => exact .refl g
  | cons generation rest ih =>
      have step := coherent.runGeneration rules build generation
      have filled : g.Fills (g.runGeneration rules build generation).2 :=
        coherent.fills_insertEdges _
      rw [Graph.deriveThrough]
      split
      · next cause after failed => rwa [failed] at filled
      · next created after done =>
          rw [done] at step filled
          exact filled.trans (ih step _)

/-! ## Compaction -/

/-- Storing elements one after the other takes one slot for each. -/
theorem size_storeVertices (g : Graph) (vs : List Vertex) :
    (vs.foldl storeVertex g).vertexArena.size = g.vertexArena.size + vs.length ∧
      (vs.foldl storeVertex g).edgeArena.size = g.edgeArena.size := by
  induction vs generalizing g with
  | nil => exact ⟨rfl, rfl⟩
  | cons v vs ih =>
      obtain ⟨vertices, edges⟩ := ih (g.storeVertex v)
      rw [size_vertexArena_storeVertex] at vertices
      rw [size_edgeArena_storeVertex] at edges
      exact ⟨by rw [List.foldl_cons, vertices, List.length_cons]; omega, edges⟩

theorem size_storeEdges (g : Graph) (es : List Edge) :
    (es.foldl storeEdge g).vertexArena.size = g.vertexArena.size ∧
      (es.foldl storeEdge g).edgeArena.size = g.edgeArena.size + es.length := by
  induction es generalizing g with
  | nil => exact ⟨rfl, rfl⟩
  | cons e es ih =>
      obtain ⟨vertices, edges⟩ := ih (g.storeEdge e)
      rw [size_vertexArena_storeEdge] at vertices
      rw [size_edgeArena_storeEdge] at edges
      exact ⟨vertices, by rw [List.foldl_cons, edges, List.length_cons]; omega⟩

/-- **Compaction leaves no slot vacant.** -/
theorem Coherent.tombstones_compact (coherent : g.Coherent) : g.compact.tombstones = 0 := by
  obtain ⟨after, sameVertices, sameEdges⟩ := coherent.compact
  have vertexSlots : g.compact.vertexArena.size = g.vertices.length := by
    rw [Graph.compact, (size_storeEdges _ _).1, (size_storeVertices _ _).1]
    exact Nat.zero_add _
  have edgeSlots : g.compact.edgeArena.size = g.edges.length := by
    rw [Graph.compact, (size_storeEdges _ _).2, (size_storeVertices _ _).2]
    exact Nat.zero_add _
  rw [tombstones, after.toLinked.vertexTombstones_eq, after.toLinked.edgeTombstones_eq, sameVertices,
    sameEdges, vertexSlots, edgeSlots, Nat.sub_self, Nat.sub_self]

theorem Coherent.isDense_compact (coherent : g.Coherent) : g.compact.IsDense :=
  Or.inl (coherent.tombstones_compact ▸ by decide)

theorem Coherent.isDense_compactIfSparse (coherent : g.Coherent) : g.compactIfSparse.IsDense := by
  unfold Graph.compactIfSparse
  split
  · exact coherent.isDense_compact
  · next dense => exact coherent.toLinked.isSparse_eq_false_iff.mp (by simpa using dense)

/-! ## Elements that go -/

/-- What a removal makes of a graph before it asks whether the graph is sparse. -/
inductive Thins (g : Graph) : Graph → Prop
  | vertex {id : String} {slot : Nat} (indexed : g.vertexSlots[id]? = some slot) :
      Thins g (g.uproot id slot)
  | edge {id : EdgeId} {slot : Nat} (indexed : g.edgeSlots[id]? = some slot) :
      Thins g (g.detachEdge slot)

theorem Thins.coherent (thins : g.Thins h) (coherent : g.Coherent) : h.Coherent := by
  cases thins with
  | vertex indexed =>
      obtain ⟨v, held, rfl⟩ := (coherent.toLinked.vertexSlots _ _).mp indexed
      exact (coherent.uproot held).1
  | edge indexed => exact coherent.detachEdge _

/-- A removal finds nothing, or thins the graph and compacts it if it has become sparse. -/
theorem removeVertex_cases (g : Graph) (id : String) :
    (g.removeVertex id).2 = g ∨ ∃ h, g.Thins h ∧ (g.removeVertex id).2 = h.compactIfSparse := by
  cases indexed : g.vertexSlots[id]? with
  | none => exact Or.inl (by rw [removeVertex_of_missing indexed])
  | some slot => exact Or.inr ⟨_, .vertex indexed, by rw [removeVertex_of_indexed indexed]⟩

theorem call_removeEdge_cases (g : Graph) (raw : String) :
    (g.call (.removeEdge raw)).2 = g ∨
      ∃ h, g.Thins h ∧ (g.call (.removeEdge raw)).2 = h.compactIfSparse := by
  cases read : EdgeId.parse raw with
  | error cause => exact Or.inl (call_removeEdge_of_fault read)
  | ok id =>
      cases indexed : g.edgeSlots[id]? with
      | none => exact Or.inl (by rw [call, removeEdge_of_missing read indexed])
      | some slot =>
          exact Or.inr ⟨_, .edge indexed, by rw [call, removeEdge_of_indexed read indexed]⟩

/-! ## Reachable graphs -/

theorem Coherent.isDense_call (coherent : g.Coherent) (dense : g.IsDense) (c : Call) :
    (g.call c).2.IsDense := by
  have ofRemoval {after : Graph}
      (done : after = g ∨ ∃ h, g.Thins h ∧ after = h.compactIfSparse) : after.IsDense := by
    rcases done with rfl | ⟨h, thins, rfl⟩
    · exact dense
    · exact (thins.coherent coherent).isDense_compactIfSparse
  cases c with
  | addVertex v => exact (coherent.fills_addVertex v).isDense dense
  | addVertices vs => exact (coherent.fills_insertVertices vs).isDense dense
  | addEdge e => exact (coherent.fills_addEdge e).isDense dense
  | addEdges es => exact (coherent.fills_insertEdges es).isDense dense
  | removeVertex id => exact ofRemoval (removeVertex_cases g id)
  | removeEdge raw => exact ofRemoval (call_removeEdge_cases g raw)
  | compact => exact coherent.isDense_compact

/-- **Every reachable graph is dense.** -/
theorem Reachable.isDense (reachable : g.Reachable) : g.IsDense := by
  induction reachable with
  | empty => exact Or.inl (by decide)
  | call before c ih => exact before.coherent.isDense_call ih c
  | runGeneration before rules build generation ih =>
      exact (before.coherent.fills_insertEdges _).isDense ih
  | deriveEdges before rules build generations ih =>
      exact (before.coherent.fills_deriveThrough rules build (List.range' 1 generations) {}).isDense ih

/-- **Vacant slots stay few, and to count them never takes more than there is.** The maps
from ids are no longer than the arenas, also in the midst of a removal, when it is asked
whether the graph is sparse. Afterwards the vacant slots are fewer than the threshold or
no more than the elements, which bounds the arenas. -/
theorem tombstones_bounded (reachable : g.Reachable) :
    (g.vertexSlots.size ≤ g.vertexArena.size ∧ g.edgeSlots.size ≤ g.edgeArena.size) ∧
      (∀ h, g.Thins h →
        h.vertexSlots.size ≤ h.vertexArena.size ∧ h.edgeSlots.size ≤ h.edgeArena.size) ∧
      (g.stats.vertexTombstones + g.stats.edgeTombstones < compactionThreshold ∨
        g.stats.vertexTombstones + g.stats.edgeTombstones ≤ g.vertices.length + g.edges.length) ∧
      g.vertexArena.size + g.edgeArena.size ≤ 2 * (g.vertices.length + g.edges.length) + 63 := by
  have fits {h : Graph} (linked : h.Linked) :
      h.vertexSlots.size ≤ h.vertexArena.size ∧ h.edgeSlots.size ≤ h.edgeArena.size :=
    ⟨linked.size_vertexSlots_add ▸ Nat.le_add_right _ _,
      linked.size_edgeSlots_add ▸ Nat.le_add_right _ _⟩
  have linked := reachable.coherent.toLinked
  have dense := reachable.isDense
  refine ⟨fits linked, fun h thins => fits (thins.coherent reachable.coherent).toLinked, dense, ?_⟩
  have vertices : g.vertices.length + g.vertexTombstones = g.vertexArena.size :=
    linked.vertexCount_eq ▸ linked.size_vertexSlots_add
  have edges : g.edges.length + g.edgeTombstones = g.edgeArena.size :=
    linked.edgeCount_eq ▸ linked.size_edgeSlots_add
  simp only [IsDense, tombstones, liveCount, compactionThreshold] at dense
  omega

/-- So many times a vertex comes, an edge to it comes, and both go. -/
def churn (rounds : Nat) : List Call :=
  (List.replicate rounds [.addVertex (.of "eve" ["person"] "Eve"),
    .addEdge (.asserted "ann" ["knows"] "eve"), .removeVertex "eve"]).flatten

/-- The small graph with as many vacant slots as it may have; one more round compacts it. -/
def churned : Graph := (sample.calls (churn 30)).2

theorem tombstones_bounded_churned :
    churned.Reachable ∧
      churned.vertexArena.size + churned.edgeArena.size ≤
        2 * (churned.vertices.length + churned.edges.length) + 63 ∧
      churned.vertices.length + churned.edges.length = 8 ∧
      churned.stats.vertexTombstones + churned.stats.edgeTombstones = 63 ∧
      (churned.calls (churn 1)).2.tombstones = 0 := by
  have reachable : churned.Reachable := sample_reachable.calls _
  exact ⟨reachable, (tombstones_bounded reachable).2.2.2, by decide +kernel⟩

end Trellis.Graph
