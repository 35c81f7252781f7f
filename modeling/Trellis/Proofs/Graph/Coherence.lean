/-
# Trellis.Proofs.Graph.Coherence — the indexes say what the arenas hold

`Linked` is the invariant that ties the six maps of a graph to its two arenas:
each map lists exactly the slots whose living element it is about. `Coherent`
adds that every edge is filed under the keys that its endpoints give it, and
under none while one of them is missing. Between two operations a graph is
coherent; while a vertex that has just been stored waits for its edges to be
filed it is only linked.

In a linked graph reading by id agrees with the list of living elements
(`vertex?_eq_some_iff`, `edge?_eq_some_iff`), and no id is taken twice.
-/
import Trellis.Graph.Removal
import Trellis.Proofs.Graph.Arena
import Trellis.Proofs.Graph.SlotMap

namespace Trellis

set_option autoImplicit false

/-! ## Elements that may be stored -/

/-- In normal form and without a fault. -/
structure Vertex.Storable (v : Vertex) : Prop where
  normal : ∃ raw : Vertex, raw.normalized = v
  checked : v.check = .ok ()

/-- In normal form and without a fault. -/
structure Edge.Storable (e : Edge) : Prop where
  normal : ∃ raw : Edge, raw.normalized = e
  checked : e.check = .ok ()

theorem Vertex.Storable.pairwise_types {v : Vertex} (storable : v.Storable) :
    v.types.Pairwise (· < ·) := by
  obtain ⟨raw, rfl⟩ := storable.normal
  exact Ascending.pairwise_ofList _

theorem Edge.Storable.pairwise_types {e : Edge} (storable : e.Storable) :
    e.types.Pairwise (· < ·) := by
  obtain ⟨raw, rfl⟩ := storable.normal
  exact Ascending.pairwise_ofList _

namespace Graph

/-! ## What a slot holds -/

def vertexAt? (g : Graph) (slot : Nat) : Option Vertex := g.vertexArena.get? slot

def edgeAt? (g : Graph) (slot : Nat) : Option Edge := (g.edgeArena.get? slot).map (·.edge)

/-- The keys that the edge in a slot is filed under. -/
def keysAt (g : Graph) (slot : Nat) : List BucketKey :=
  ((g.edgeArena.get? slot).map (·.keys)).getD []

theorem vertices_eq (g : Graph) :
    g.vertices = (List.range g.vertexArena.size).filterMap g.vertexAt? :=
  g.vertexArena.live_eq

theorem edges_eq (g : Graph) : g.edges = (List.range g.edgeArena.size).filterMap g.edgeAt? :=
  g.edgeArena.map_live _

theorem mem_vertices {g : Graph} {v : Vertex} : v ∈ g.vertices ↔ ∃ slot, g.vertexAt? slot = some v :=
  Arena.mem_live

theorem mem_edges {g : Graph} {e : Edge} : e ∈ g.edges ↔ ∃ slot, g.edgeAt? slot = some e := by
  simp only [edges, List.mem_map, Arena.mem_live, edgeAt?, Option.map_eq_some_iff]
  constructor
  · rintro ⟨entry, ⟨slot, held⟩, rfl⟩
    exact ⟨slot, entry, held, rfl⟩
  · rintro ⟨slot, entry, held, rfl⟩
    exact ⟨entry, ⟨slot, held⟩, rfl⟩

/-! ## The invariant -/

/-- Every map lists exactly the slots of the elements that it is about. -/
structure Linked (g : Graph) : Prop where
  vertexSlots : ∀ id slot, g.vertexSlots[id]? = some slot ↔ ∃ v, g.vertexAt? slot = some v ∧ v.id = id
  edgeSlots : ∀ id slot, g.edgeSlots[id]? = some slot ↔ ∃ e, g.edgeAt? slot = some e ∧ e.id = id
  verticesByType :
    g.verticesByType.Tracks fun type slot => ∃ v, g.vertexAt? slot = some v ∧ type ∈ v.types
  outbound : g.outbound.Tracks fun id slot => ∃ e, g.edgeAt? slot = some e ∧ e.source = id
  inbound : g.inbound.Tracks fun id slot => ∃ e, g.edgeAt? slot = some e ∧ e.target = id
  buckets : g.buckets.Tracks fun key slot => key ∈ g.keysAt slot
  vertexStorable : ∀ slot v, g.vertexAt? slot = some v → v.Storable
  edgeStorable : ∀ slot e, g.edgeAt? slot = some e → e.Storable

/-- And every edge is filed as its endpoints say; a pending one has no keys. -/
structure Coherent (g : Graph) : Prop extends Linked g where
  keys : ∀ slot e, g.edgeAt? slot = some e → g.keysAt slot = (g.keysFor? e).getD []

theorem coherent_empty : Coherent empty where
  vertexSlots id slot := by simp [empty, vertexAt?, Arena.get?_empty]
  edgeSlots id slot := by simp [empty, edgeAt?, Arena.get?_empty]
  verticesByType := Postings.tracks_empty.congr (by simp [empty, vertexAt?, Arena.get?_empty])
  outbound := Postings.tracks_empty.congr (by simp [empty, edgeAt?, Arena.get?_empty])
  inbound := Postings.tracks_empty.congr (by simp [empty, edgeAt?, Arena.get?_empty])
  buckets := Postings.tracks_empty.congr (by simp [empty, keysAt, Arena.get?_empty])
  vertexStorable slot v held := by simp [empty, vertexAt?, Arena.get?_empty] at held
  edgeStorable slot e held := by simp [empty, edgeAt?, Arena.get?_empty] at held
  keys slot e held := by simp [empty, edgeAt?, Arena.get?_empty] at held

namespace Linked

variable {g : Graph}

/-! ## Reading by id -/

theorem vertex?_eq_some_iff (linked : g.Linked) {id : String} {v : Vertex} :
    g.vertex? id = some v ↔ v ∈ g.vertices ∧ v.id = id := by
  rw [vertex?, Option.bind_eq_bind, Option.bind_eq_some_iff, mem_vertices]
  constructor
  · rintro ⟨slot, indexed, held⟩
    obtain ⟨w, held', named⟩ := (linked.vertexSlots id slot).mp indexed
    obtain rfl : v = w := Option.some.inj (held.symm.trans held')
    exact ⟨⟨slot, held⟩, named⟩
  · rintro ⟨⟨slot, held⟩, named⟩
    exact ⟨slot, (linked.vertexSlots id slot).mpr ⟨v, held, named⟩, held⟩

theorem edge?_eq_some_iff (linked : g.Linked) {id : EdgeId} {e : Edge} :
    g.edge? id = some e ↔ e ∈ g.edges ∧ e.id = id := by
  simp only [edge?, Option.bind_eq_bind, Option.bind_eq_some_iff, mem_edges]
  constructor
  · rintro ⟨slot, indexed, held⟩
    obtain ⟨f, held', named⟩ := (linked.edgeSlots id slot).mp indexed
    obtain rfl : e = f := Option.some.inj (held.symm.trans held')
    exact ⟨⟨slot, held⟩, named⟩
  · rintro ⟨⟨slot, held⟩, named⟩
    exact ⟨slot, (linked.edgeSlots id slot).mpr ⟨e, held, named⟩, held⟩

/-- No element has an id under which none is found. -/
theorem filter_vertices_of_missing (linked : g.Linked) {id : String} (missing : g.vertex? id = none) :
    g.vertices.filter (·.id ≠ id) = g.vertices := by
  apply List.filter_eq_self.mpr
  intro v stored
  rw [decide_eq_true_eq]
  intro same
  have found := linked.vertex?_eq_some_iff.mpr ⟨stored, same⟩
  rw [missing] at found
  cases found

theorem filter_edges_of_missing (linked : g.Linked) {id : EdgeId} (missing : g.edge? id = none) :
    g.edges.filter (·.id ≠ id) = g.edges := by
  apply List.filter_eq_self.mpr
  intro e stored
  rw [decide_eq_true_eq]
  intro same
  have found := linked.edge?_eq_some_iff.mpr ⟨stored, same⟩
  rw [missing] at found
  cases found

theorem hasVertex_iff (linked : g.Linked) {v : Vertex} :
    g.hasVertex v = true ↔ ∃ w ∈ g.vertices, w.id = v.id := by
  rw [hasVertex, Std.TreeMap.contains_eq_isSome_getElem?, Option.isSome_iff_exists]
  simp only [linked.vertexSlots, mem_vertices]
  constructor
  · rintro ⟨slot, w, held, named⟩
    exact ⟨w, ⟨slot, held⟩, named⟩
  · rintro ⟨w, ⟨slot, held⟩, named⟩
    exact ⟨slot, w, held, named⟩

theorem hasEdge_iff (linked : g.Linked) {e : Edge} :
    g.hasEdge e = true ↔ ∃ f ∈ g.edges, f.id = e.id := by
  rw [hasEdge, Std.TreeMap.contains_eq_isSome_getElem?, Option.isSome_iff_exists]
  simp only [linked.edgeSlots, mem_edges]
  constructor
  · rintro ⟨slot, f, held, named⟩
    exact ⟨f, ⟨slot, held⟩, named⟩
  · rintro ⟨f, ⟨slot, held⟩, named⟩
    exact ⟨slot, f, held, named⟩

/-! ## Distinct ids -/

theorem slot_eq_of_vertexId (linked : g.Linked) {s t : Nat} {v w : Vertex}
    (atS : g.vertexAt? s = some v) (atT : g.vertexAt? t = some w) (same : v.id = w.id) : s = t := by
  have indexed := (linked.vertexSlots v.id s).mpr ⟨v, atS, rfl⟩
  have indexed' := (linked.vertexSlots v.id t).mpr ⟨w, atT, same.symm⟩
  exact Option.some.inj (indexed.symm.trans indexed')

theorem slot_eq_of_edgeId (linked : g.Linked) {s t : Nat} {e f : Edge} (atS : g.edgeAt? s = some e)
    (atT : g.edgeAt? t = some f) (same : e.id = f.id) : s = t := by
  have indexed := (linked.edgeSlots e.id s).mpr ⟨e, atS, rfl⟩
  have indexed' := (linked.edgeSlots e.id t).mpr ⟨f, atT, same.symm⟩
  exact Option.some.inj (indexed.symm.trans indexed')

theorem nodup_vertexIds (linked : g.Linked) : (g.vertices.map (·.id)).Nodup :=
  Arena.nodup_map_live fun _ _ _ _ atS atT same => linked.slot_eq_of_vertexId atS atT same

theorem nodup_edgeIds (linked : g.Linked) : (g.edges.map (·.id)).Nodup := by
  rw [edges, List.map_map]
  apply Arena.nodup_map_live
  intro s t x y atS atT same
  exact linked.slot_eq_of_edgeId (e := x.edge) (f := y.edge) (by simp [edgeAt?, atS])
    (by simp [edgeAt?, atT]) same

theorem nodup_edges (linked : g.Linked) : g.edges.Nodup := linked.nodup_edgeIds.of_map _

theorem nodup_vertices (linked : g.Linked) : g.vertices.Nodup := linked.nodup_vertexIds.of_map _

theorem edge_eq_of_id (linked : g.Linked) {e f : Edge} (stored : e ∈ g.edges) (stored' : f ∈ g.edges)
    (same : e.id = f.id) : e = f := by
  have found := linked.edge?_eq_some_iff.mpr ⟨stored, same⟩
  have found' := linked.edge?_eq_some_iff.mpr ⟨stored', rfl⟩
  exact Option.some.inj (found.symm.trans found')

theorem vertex_eq_of_id (linked : g.Linked) {v w : Vertex} (stored : v ∈ g.vertices)
    (stored' : w ∈ g.vertices) (same : v.id = w.id) : v = w := by
  have found := linked.vertex?_eq_some_iff.mpr ⟨stored, same⟩
  have found' := linked.vertex?_eq_some_iff.mpr ⟨stored', rfl⟩
  exact Option.some.inj (found.symm.trans found')

/-! ## Stored elements -/

theorem storable_of_mem_vertices (linked : g.Linked) {v : Vertex} (stored : v ∈ g.vertices) :
    v.Storable := by
  obtain ⟨slot, held⟩ := mem_vertices.mp stored
  exact linked.vertexStorable slot v held

theorem storable_of_mem_edges (linked : g.Linked) {e : Edge} (stored : e ∈ g.edges) :
    e.Storable := by
  obtain ⟨slot, held⟩ := mem_edges.mp stored
  exact linked.edgeStorable slot e held

end Linked

end Graph

end Trellis
