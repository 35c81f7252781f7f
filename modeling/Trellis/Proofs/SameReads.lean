/-
# Trellis.Proofs.SameReads — graphs of the same elements read the same

What a reader sees of a coherent graph is settled by its two lists of living elements:
reads by id and by filter are scans of the lists, and a run asks for nothing else. The
counters are settled by them too, but for the vacant slots (`Coherent.sameReads`). So it does
not show in which order the indexes were filled, nor in which buckets an edge waited.
-/
import Trellis.Proofs.Graph.Stats
import Trellis.Proofs.PlainStore
import Trellis.Proofs.Query

namespace Trellis.Graph

set_option autoImplicit false

variable {g h : Graph}

/-- Every read of the two graphs gives the same, in the same order, and so does every
counter. -/
structure SameReads (g h : Graph) : Prop where
  vertices : g.vertices = h.vertices
  edges : g.edges = h.edges
  vertex? : ∀ id, g.vertex? id = h.vertex? id
  edge? : ∀ id, g.edge? id = h.edge? id
  filterVertices : ∀ f, g.filterVertices f = h.filterVertices f
  filterEdges : ∀ source? f target?,
    g.filterEdges source? f target? = h.filterEdges source? f target?
  run : ∀ limit? plan, g.run limit? plan = h.run limit? plan
  search : ∀ pattern, g.search pattern = h.search pattern
  stats : g.stats = h.stats

/-- A run reads a graph through its two lookups only. -/
theorem run_congr (vertices : g.filterVertices = h.filterVertices)
    (edges : g.filterEdges = h.filterEdges) : g.run = h.run := by
  have moves : g.moves = h.moves := by
    funext limit? t id
    simp only [moves, edges]
  have expand : g.expand = h.expand := by
    funext limit? t row
    simp only [expand, moves]
  have anchors : g.anchors = h.anchors := by
    funext node
    simp only [anchors, vertices]
  funext limit? plan
  cases plan with
  | vertices filter => simp only [run, vertices]
  | walk triples =>
      cases triples with
      | nil => rfl
      | cons first rest => simp only [run, runWalk, expand, anchors]

namespace Coherent

variable (left : g.Coherent) (right : h.Coherent) (same : g.plain = h.plain)
include left right same

theorem vertex?_congr : g.vertex? = h.vertex? := by
  funext id
  rw [left.vertex?_eq, right.vertex?_eq, same]

theorem keysFor?_congr : g.keysFor? = h.keysFor? := by
  funext e
  simp only [keysFor?, left.vertex?_congr right same]

theorem filterVertices_congr : g.filterVertices = h.filterVertices := by
  have vertices : g.vertices = h.vertices := congrArg PlainStore.vertices same
  funext f
  rw [left.toLinked.filterVertices_eq, right.toLinked.filterVertices_eq, vertices]

theorem filterEdges_congr : g.filterEdges = h.filterEdges := by
  have vertices : g.vertices = h.vertices := congrArg PlainStore.vertices same
  have edges : g.edges = h.edges := congrArg PlainStore.edges same
  have endpoint : g.isEndpoint = h.isEndpoint := by
    funext id f?
    simp only [isEndpoint, vertices]
  have found : g.isFound = h.isFound := by
    funext source? f target? e
    simp only [isFound, endpoint]
  funext source? f target?
  rw [left.filterEdges_eq, right.filterEdges_eq, edges, found]

/-- The counters of equal lists differ in the vacant slots alone. -/
theorem counters_congr (vertexTombstones edgeTombstones : Nat) :
    { g.stats with vertexTombstones, edgeTombstones } =
      { h.stats with vertexTombstones, edgeTombstones } := by
  have vertices : g.vertices = h.vertices := congrArg PlainStore.vertices same
  have edges : g.edges = h.edges := congrArg PlainStore.edges same
  have joins : g.joins = h.joins := by
    funext e
    simp only [joins, isStored, vertices]
  have typeCount : g.typeCount = h.typeCount := by
    funext id
    simp only [typeCount, left.vertex?_congr right same]
  have pending : g.stats.pendingEdges = h.stats.pendingEdges := by
    rw [left.pendingEdges_eq, right.pendingEdges_eq, edges, joins]
  have buckets : g.buckets.keyCount = h.buckets.keyCount := by
    rw [left.keyCount_buckets, right.keyCount_buckets, edges, left.keysFor?_congr right same]
  have entries : g.buckets.entryCount = h.buckets.entryCount := by
    rw [left.entryCount_buckets, right.entryCount_buckets, edges, joins, typeCount]
  have vertexCount : g.vertexCount = h.vertexCount := by
    rw [left.toLinked.vertexCount_eq, right.toLinked.vertexCount_eq, vertices]
  have edgeCount : g.edgeCount = h.edgeCount := by
    rw [left.toLinked.edgeCount_eq, right.toLinked.edgeCount_eq, edges]
  rw [Stats.mk.injEq]
  exact ⟨vertexCount, edgeCount, pending, buckets, entries, rfl, rfl⟩

theorem stats_congr (vertexTombstones : g.vertexTombstones = h.vertexTombstones)
    (edgeTombstones : g.edgeTombstones = h.edgeTombstones) : g.stats = h.stats := by
  have counters := left.counters_congr right same g.vertexTombstones g.edgeTombstones
  calc g.stats = { h.stats with
        vertexTombstones := g.vertexTombstones, edgeTombstones := g.edgeTombstones } := counters
    _ = h.stats := by rw [vertexTombstones, edgeTombstones]; rfl

/-- **Coherent graphs of the same elements read the same**, when as many slots are vacant. -/
theorem sameReads (vertexTombstones : g.vertexTombstones = h.vertexTombstones)
    (edgeTombstones : g.edgeTombstones = h.edgeTombstones) : g.SameReads h := by
  have filterVertices := left.filterVertices_congr right same
  have filterEdges := left.filterEdges_congr right same
  have run := run_congr filterVertices filterEdges
  exact {
    vertices := congrArg PlainStore.vertices same
    edges := congrArg PlainStore.edges same
    vertex? := congrFun (left.vertex?_congr right same)
    edge? := fun id => by rw [left.edge?_eq, right.edge?_eq, same]
    filterVertices := congrFun filterVertices
    filterEdges := fun source? f target? => by rw [filterEdges]
    run := fun limit? plan => by rw [run]
    search := fun pattern => by rw [search, search, run]
    stats := left.stats_congr right same vertexTombstones edgeTombstones }

end Coherent

end Trellis.Graph
