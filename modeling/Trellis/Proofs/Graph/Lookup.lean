/-
# Trellis.Proofs.Graph.Lookup — an indexed lookup finds what a scan finds

A lookup of vertices looks among the ids or the types that it is given, or among
all slots, and finds what its filter accepts of all vertices: whichever of them it
looks among, no vertex that is accepted is missing (`filterVertices_eq_scan`). So
an id list narrows what the filter finds without one, and nothing more.

An edge is found by a lookup when the edge filter accepts it and each of its
endpoints is a stored vertex that the filter on it, if there is one, accepts
(`isFound`). The lookup looks only among the candidates of one index; in a
coherent graph no edge that is to be found is missing from them, whichever index
it is (`Coherent.mem_edgeCandidates`), so the answer is that of a scan over all
edges (`filterEdges_eq_scan`).
-/
import Trellis.Graph.Lookup
import Trellis.Proofs.Graph.Reachable

namespace Trellis.Graph

set_option autoImplicit false

variable {g : Graph}

/-- A vertex with the id is stored, and the filter accepts it if there is one. -/
def isEndpoint (g : Graph) (id : String) (f? : Option VertexFilter) : Bool :=
  g.vertices.any fun v => v.id = id && f?.all (·.accepts v)

/-- What a lookup is for, said of one edge and the lists of living elements alone. -/
def isFound (g : Graph) (source? : Option VertexFilter) (f : EdgeFilter)
    (target? : Option VertexFilter) (e : Edge) : Bool :=
  f.accepts e && g.isEndpoint e.source source? && g.isEndpoint e.target target?

theorem isEndpoint_iff {id : String} {f? : Option VertexFilter} :
    g.isEndpoint id f? = true ↔ ∃ v ∈ g.vertices, v.id = id ∧ ∀ f ∈ f?, f.accepts v = true := by
  simp [isEndpoint, Option.all_eq_true]

theorem Linked.endpointAccepted_eq (linked : g.Linked) (id : String) (f? : Option VertexFilter) :
    g.endpointAccepted id f? = g.isEndpoint id f? := by
  rw [Bool.eq_iff_iff, isEndpoint_iff, endpointAccepted, Option.any_eq_true]
  constructor
  · rintro ⟨v, found, accepted⟩
    obtain ⟨stored, named⟩ := linked.vertex?_eq_some_iff.mp found
    exact ⟨v, stored, named, fun f here => (Option.all_eq_true _ _).mp accepted f here⟩
  · rintro ⟨v, stored, named, accepted⟩
    exact ⟨v, linked.vertex?_eq_some_iff.mpr ⟨stored, named⟩,
      (Option.all_eq_true _ _).mpr fun f here => accepted f here⟩

/-! ## What acceptance says about types and ids -/

/-- What a vertex filter asks for: each of its fields narrows unless it is empty. -/
theorem accepts_vertex_iff {f : VertexFilter} {v : Vertex} :
    f.accepts v = true ↔ (f.ids = [] ∨ v.id ∈ f.ids) ∧
      (f.types = [] ∨ ∃ type ∈ f.types, type ∈ v.types) ∧
      ∀ term ∈ f.term, term ≠ "" → v.nameContains term = true := by
  simp only [VertexFilter.accepts, VertexFilter.activeTerm, Vertex.hasAnyType, Tag.meets,
    Bool.and_eq_true, Bool.or_eq_true, List.isEmpty_iff, List.contains_iff_mem, List.any_eq_true,
    Option.all_eq_true, Option.filter_eq_some_iff, decide_eq_true_eq, and_imp, and_assoc, Option.mem_def]

theorem accepts_ids {f : VertexFilter} {v : Vertex} (accepted : f.accepts v = true)
    (narrow : f.ids ≠ []) : v.id ∈ f.ids :=
  (accepts_vertex_iff.mp accepted).1.resolve_left narrow

/-- A filter with an id list accepts what it accepts without one, of the vertices
that are listed. -/
theorem accepts_of_ids {f : VertexFilter} (narrow : f.ids ≠ []) (v : Vertex) :
    f.accepts v = (({ f with ids := [] } : VertexFilter).accepts v && decide (v.id ∈ f.ids)) := by
  rw [Bool.eq_iff_iff, Bool.and_eq_true, decide_eq_true_eq, accepts_vertex_iff, accepts_vertex_iff]
  constructor
  · rintro ⟨listed, others⟩
    exact ⟨⟨Or.inl rfl, others⟩, listed.resolve_left narrow⟩
  · rintro ⟨⟨_, others⟩, listed⟩
    exact ⟨Or.inr listed, others⟩

/-- A vertex that is accepted has a type in common with the filter, or the filter
asks for none. -/
theorem exists_place_of_vertex {f? : Option VertexFilter} {v : Vertex}
    (accepted : ∀ f ∈ f?, f.accepts v = true) :
    ∃ place ∈ BucketKey.namedOrOpen (endpointTypes f?), place ∈ BucketKey.openOrNamed v.types := by
  rw [BucketKey.exists_place_iff]
  cases f? with
  | none => exact Or.inl rfl
  | some f =>
      rcases (accepts_vertex_iff.mp (accepted f rfl)).2.1 with none_ | ⟨type, asked, owned⟩
      · exact Or.inl none_
      · exact Or.inr ⟨type, asked, type, owned, rfl⟩

/-- The same of an edge, whether it needs one of the types or all of them. -/
theorem exists_place_of_edge {f : EdgeFilter} {e : Edge} (accepted : f.accepts e = true) :
    ∃ place ∈ BucketKey.namedOrOpen f.types, place ∈ BucketKey.openOrNamed e.types := by
  rw [BucketKey.exists_place_iff]
  simp only [EdgeFilter.accepts, Bool.and_eq_true] at accepted
  have types := accepted.2
  cases asked : f.types with
  | nil => exact Or.inl rfl
  | cons type rest =>
      simp only [EdgeFilter.acceptsTypes, asked, List.isEmpty_cons, Bool.false_or] at types
      split at types
      · have owned := List.all_eq_true.mp types type List.mem_cons_self
        exact Or.inr ⟨type, List.mem_cons_self, type, List.contains_iff_mem.mp owned, rfl⟩
      · obtain ⟨shared, here, owned⟩ := List.any_eq_true.mp types
        exact Or.inr ⟨shared, here, shared, List.contains_iff_mem.mp owned, rfl⟩

/-! ## Vertices -/

theorem accepts_of_isEmpty {f : VertexFilter} (open_ : f.isEmpty = true) (v : Vertex) :
    f.accepts v = true := by
  simp only [VertexFilter.isEmpty, Bool.and_eq_true, Option.isNone_iff_eq_none] at open_
  simp [VertexFilter.accepts, open_.1.1, open_.1.2, open_.2]

theorem pairwise_vertexCandidates (g : Graph) (f : VertexFilter) :
    (g.vertexCandidates f).Pairwise (· < ·) := by
  unfold vertexCandidates
  split
  · exact Ascending.pairwise_ofList _
  · split
    · exact Postings.pairwise_collect _ _
    · exact List.pairwise_lt_range

/-- **No vertex that the filter accepts is missing from the candidates.** -/
theorem Linked.mem_vertexCandidates (linked : g.Linked) {f : VertexFilter} {slot : Nat} {v : Vertex}
    (held : g.vertexAt? slot = some v) (accepted : f.accepts v = true) :
    slot ∈ g.vertexCandidates f := by
  unfold vertexCandidates
  split
  · next narrow =>
      have asked := accepts_ids accepted (by simpa using narrow)
      refine (Ascending.mem_ofList _ _).mpr (List.mem_filterMap.mpr ⟨v.id, asked, ?_⟩)
      exact (linked.vertexSlots _ _).mpr ⟨v, held, rfl⟩
  · split
    · next narrow =>
        obtain ⟨type, asked, owned⟩ :=
          (accepts_vertex_iff.mp accepted).2.1.resolve_left (by simpa using narrow)
        refine (Postings.mem_collect _ _ _).mpr ⟨type, asked, ?_⟩
        exact (linked.verticesByType.mem_slots _ _).mpr ⟨v, held, owned⟩
    · exact List.mem_range.mpr (Arena.lt_size_of_get? held)

theorem Linked.filterVertices_eq (linked : g.Linked) (f : VertexFilter) :
    g.filterVertices f = g.vertices.filter f.accepts := by
  unfold filterVertices
  split
  · next open_ => exact (List.filter_eq_self.mpr fun v _ => accepts_of_isEmpty open_ v).symm
  · exact Arena.filter_filterMap_get? _ (pairwise_vertexCandidates g f) fun slot v held accepted =>
      linked.mem_vertexCandidates held accepted

/-- **Indexed vertex lookup agrees with a full scan**: it finds the stored vertices
that the filter accepts, in order of insertion and without repetition, and an id
list only narrows it. -/
theorem filterVertices_eq_scan (reachable : g.Reachable) (f : VertexFilter) :
    g.filterVertices f = g.vertices.filter f.accepts ∧
      (g.filterVertices f).Nodup ∧
      (∀ v, v ∈ g.filterVertices f ↔ v ∈ g.vertices ∧ (f.ids = [] ∨ v.id ∈ f.ids) ∧
        (f.types = [] ∨ ∃ type ∈ f.types, type ∈ v.types) ∧
        ∀ term ∈ f.term, term ≠ "" → v.nameContains term = true) ∧
      (f.ids ≠ [] →
        g.filterVertices f = (g.filterVertices { f with ids := [] }).filter (·.id ∈ f.ids)) := by
  have linked := reachable.coherent.toLinked
  have same := linked.filterVertices_eq f
  refine ⟨same, same ▸ linked.nodup_vertices.filter _, fun v => ?_, fun narrow => ?_⟩
  · rw [same, List.mem_filter, accepts_vertex_iff]
  · rw [same, linked.filterVertices_eq, List.filter_filter]
    exact List.filter_congr fun v _ => (accepts_of_ids narrow v).trans (Bool.and_comm _ _)

/-- Ids that repeat or name nothing and types in any spelling are compared as they stand. -/
theorem filterVertices_eq_scan_sample :
    sample.Reachable ∧
      sample.filterVertices ⟨["dan", "cyd", "bob", "bob"], ["Host", "host", "Person"], some "B"⟩ =
        sample.vertices.filter
          (VertexFilter.accepts ⟨["dan", "cyd", "bob", "bob"], ["Host", "host", "Person"], some "B"⟩) ∧
      (sample.filterVertices
          ⟨["dan", "cyd", "bob", "bob"], ["Host", "host", "Person"], some "B"⟩).map (·.id) = ["bob"] :=
  ⟨sample_reachable, (filterVertices_eq_scan sample_reachable _).1, by decide +kernel⟩

/-! ## Edges -/

theorem withIds?_eq_some {f? : Option VertexFilter} {f : VertexFilter} (narrow : withIds? f? = some f) :
    f ∈ f? ∧ f.ids ≠ [] := by
  obtain ⟨here, nonempty⟩ := Option.filter_eq_some_iff.mp narrow
  exact ⟨here, by simpa using nonempty⟩

theorem pairwise_edgeCandidates (g : Graph) (source? : Option VertexFilter) (f : EdgeFilter)
    (target? : Option VertexFilter) : (g.edgeCandidates source? f target?).Pairwise (· < ·) := by
  unfold edgeCandidates
  split <;> exact Postings.pairwise_collect _ _

/-- **No edge that is to be found is missing from the candidates**, whichever of
the three indexes they come from. -/
theorem Coherent.mem_edgeCandidates (coherent : g.Coherent) {source? target? : Option VertexFilter}
    {f : EdgeFilter} {slot : Nat} {e : Edge} (held : g.edgeAt? slot = some e)
    (found : g.isFound source? f target? e = true) : slot ∈ g.edgeCandidates source? f target? := by
  simp only [isFound, Bool.and_eq_true, isEndpoint_iff] at found
  obtain ⟨⟨accepted, v, fromHere, named, byIdAndType⟩, w, toThere, named', byIdAndType'⟩ := found
  unfold edgeCandidates
  split
  · next source narrow =>
      obtain ⟨here, narrow⟩ := withIds?_eq_some narrow
      refine (Postings.mem_collect _ _ _).mpr ⟨v.id, accepts_ids (byIdAndType source here) narrow, ?_⟩
      exact (coherent.outbound.mem_slots _ _).mpr ⟨e, held, named.symm⟩
  · next target _ narrow =>
      obtain ⟨here, narrow⟩ := withIds?_eq_some narrow
      refine (Postings.mem_collect _ _ _).mpr ⟨w.id, accepts_ids (byIdAndType' target here) narrow, ?_⟩
      exact (coherent.inbound.mem_slots _ _).mpr ⟨e, held, named'.symm⟩
  · -- both endpoints are stored, so the edge is filed under its keys
    have keys : g.keysAt slot = BucketKey.ofEdge v.types e.types w.types e.provenance := by
      have reads := coherent.toLinked.vertex?_eq_some_iff.mpr ⟨fromHere, named⟩
      have reads' := coherent.toLinked.vertex?_eq_some_iff.mpr ⟨toThere, named'⟩
      rw [coherent.keys slot e held, keysFor?_eq_some_iff.mpr ⟨v, w, reads, reads', rfl⟩,
        Option.getD_some]
    have admitted : f.scope.admits e.provenance = true := by
      simp only [EdgeFilter.accepts, Bool.and_eq_true] at accepted
      exact accepted.1.1
    obtain ⟨key, read, filed⟩ := (BucketKey.meets_iff _ _ _ _ _ _ _ _).mpr
      ⟨admitted, exists_place_of_vertex byIdAndType, exists_place_of_edge accepted,
        exists_place_of_vertex byIdAndType'⟩
    exact (Postings.mem_collect _ _ _).mpr
      ⟨key, read, (coherent.buckets.mem_slots _ _).mpr (keys ▸ filed)⟩

theorem Coherent.filterEdges_eq (coherent : g.Coherent) (source? : Option VertexFilter)
    (f : EdgeFilter) (target? : Option VertexFilter) :
    g.filterEdges source? f target? = g.edges.filter (g.isFound source? f target?) := by
  have test : (fun e : Edge => f.accepts e && g.endpointAccepted e.source source?
      && g.endpointAccepted e.target target?) = g.isFound source? f target? := by
    funext e
    rw [isFound, coherent.toLinked.endpointAccepted_eq, coherent.toLinked.endpointAccepted_eq]
  rw [filterEdges, test, edges, List.filter_map, List.filter_map]
  congr 1
  refine Arena.filter_filterMap_get? _ (pairwise_edgeCandidates g source? f target?) ?_
  intro slot entry held found
  exact coherent.mem_edgeCandidates (e := entry.edge) (by simp [edgeAt?, held]) found

/-- **Indexed edge lookup agrees with a full scan**: in order of insertion, and
without repetition. -/
theorem filterEdges_eq_scan (reachable : g.Reachable) (source? : Option VertexFilter)
    (f : EdgeFilter) (target? : Option VertexFilter) :
    g.filterEdges source? f target? = g.edges.filter (g.isFound source? f target?) ∧
      (g.filterEdges source? f target?).Nodup := by
  have same := reachable.coherent.filterEdges_eq source? f target?
  exact ⟨same, same ▸ reachable.coherent.toLinked.nodup_edges.filter _⟩

theorem filterEdges_eq_scan_sample :
    sample.Reachable ∧
      sample.filterEdges (some { types := ["host"] }) { types := ["knows"] } none =
        sample.edges.filter (sample.isFound (some { types := ["host"] }) { types := ["knows"] } none) ∧
      (sample.filterEdges (some { types := ["host"] }) { types := ["knows"] } none).map (·.id.text) =
        ["bob>knows,likes>cyd", "bob>knows>bob", "bob>knows>ann"] :=
  ⟨sample_reachable, (filterEdges_eq_scan sample_reachable _ _ _).1, by decide +kernel⟩

end Trellis.Graph
