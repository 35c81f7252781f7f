/-
# Trellis.Proofs.Graph.Removal — removing keeps the indexes true

Detaching an edge empties its slot and takes it out of every index; a vertex may
be detached once no edge is at it. Compaction stores the living elements anew,
so it keeps both lists as they are (`Coherent.compact`), and a reader of a
removal sees only that elements are gone: one edge (`removeEdge_spec`), or one
vertex and the edges at it (`removeVertex_spec`).
-/
import Trellis.Proofs.Graph.Insertion

namespace Trellis.Graph

set_option autoImplicit false

variable {g : Graph}

/-! ## Detaching an edge -/

/-- What detaching does: nothing to a vacant slot, or one edge is taken out. -/
theorem detachEdge_cases (g : Graph) (slot : Nat) :
    (g.edgeAt? slot = none ∧ g.detachEdge slot = g) ∨
      ∃ e, g.edgeAt? slot = some e ∧
        g.detachEdge slot = { g with
          edgeArena := g.edgeArena.vacate slot
          edgeSlots := g.edgeSlots.erase e.id
          outbound := g.outbound.withdraw e.source slot
          inbound := g.inbound.withdraw e.target slot
          buckets := g.buckets.withdrawAll (g.keysAt slot) slot } := by
  unfold detachEdge
  cases held : g.edgeArena.get? slot with
  | none => exact Or.inl ⟨by simp [edgeAt?, held], rfl⟩
  | some entry =>
      refine Or.inr ⟨entry.edge, by simp [edgeAt?, held], ?_⟩
      simp [keysAt, held]

theorem vertexArena_detachEdge (g : Graph) (slot : Nat) :
    (g.detachEdge slot).vertexArena = g.vertexArena := by
  rcases detachEdge_cases g slot with ⟨-, same⟩ | ⟨e, -, same⟩ <;> rw [same]

theorem keysFor?_detachEdge (g : Graph) (slot : Nat) : (g.detachEdge slot).keysFor? = g.keysFor? := by
  rcases detachEdge_cases g slot with ⟨-, same⟩ | ⟨e, -, same⟩
  · rw [same]
  · rw [same]; rfl

theorem size_edgeArena_detachEdge (g : Graph) (slot : Nat) :
    (g.detachEdge slot).edgeArena.size = g.edgeArena.size := by
  rcases detachEdge_cases g slot with ⟨-, same⟩ | ⟨e, -, same⟩ <;> rw [same]
  exact Arena.size_vacate _ _

theorem edgeAt?_detachEdge (g : Graph) (slot other : Nat) :
    (g.detachEdge slot).edgeAt? other = if other = slot then none else g.edgeAt? other := by
  rcases detachEdge_cases g slot with ⟨vacant, same⟩ | ⟨e, -, same⟩ <;> rw [same]
  · split
    · next here => rw [here, vacant]
    · rfl
  · simp only [edgeAt?, Arena.get?_vacate]
    split <;> rfl

theorem keysAt_detachEdge (g : Graph) (slot other : Nat) :
    (g.detachEdge slot).keysAt other = if other = slot then [] else g.keysAt other := by
  rcases detachEdge_cases g slot with ⟨vacant, same⟩ | ⟨e, -, same⟩ <;> rw [same]
  · split
    · next here =>
        have vacant : g.edgeArena.get? slot = none := by simpa [edgeAt?] using vacant
        simp [here, keysAt, vacant]
    · rfl
  · simp only [keysAt, Arena.get?_vacate]
    split <;> rfl

theorem Linked.detachEdge (linked : g.Linked) (slot : Nat) : (g.detachEdge slot).Linked := by
  have edges := edgeAt?_detachEdge g slot
  have keys := keysAt_detachEdge g slot
  rcases detachEdge_cases g slot with ⟨-, same⟩ | ⟨e, held, same⟩
  · rw [same]
    exact linked
  rw [same] at edges keys ⊢
  have locates : Locates g.edgeSlots g.edgeAt? Edge.id := linked.edgeSlots
  constructor
  · exact linked.vertexSlots
  · exact locates.erase held edges
  · exact linked.verticesByType
  · exact linked.outbound.clear held edges
  · exact linked.inbound.clear held edges
  · apply (linked.buckets.withdrawAll (g.keysAt slot) slot).congr
    intro key s
    rw [keys]
    by_cases here : s = slot
    · simp [here]
    · simp [here]
  · exact linked.vertexStorable
  · intro s f held'
    rw [edges] at held'
    split at held'
    · cases held'
    · exact linked.edgeStorable s f held'

theorem Coherent.detachEdge (coherent : g.Coherent) (slot : Nat) : (g.detachEdge slot).Coherent := by
  refine ⟨coherent.toLinked.detachEdge slot, fun s f held => ?_⟩
  rw [edgeAt?_detachEdge] at held
  split at held
  · cases held
  · next elsewhere =>
      rw [keysFor?_detachEdge, keysAt_detachEdge, if_neg elsewhere]
      exact coherent.keys s f held

theorem Coherent.detachEdges (coherent : g.Coherent) (slots : List Nat) :
    (slots.foldl Graph.detachEdge g).Coherent := by
  induction slots generalizing g with
  | nil => exact coherent
  | cons slot slots ih => exact ih (coherent.detachEdge slot)

theorem edgeAt?_detachEdges (g : Graph) (slots : List Nat) (other : Nat) :
    (slots.foldl Graph.detachEdge g).edgeAt? other =
      if other ∈ slots then none else g.edgeAt? other := by
  induction slots generalizing g with
  | nil => simp
  | cons slot slots ih =>
      rw [List.foldl_cons, ih, edgeAt?_detachEdge]
      by_cases here : other = slot <;> by_cases later : other ∈ slots <;> simp [here, later]

/-! ## Detaching a vertex -/

/-- What detaching does: nothing to a vacant slot, or one vertex is taken out. -/
theorem detachVertex_cases (g : Graph) (slot : Nat) :
    (g.vertexAt? slot = none ∧ g.detachVertex slot = g) ∨
      ∃ v, g.vertexAt? slot = some v ∧
        g.detachVertex slot = { g with
          vertexArena := g.vertexArena.vacate slot
          vertexSlots := g.vertexSlots.erase v.id
          verticesByType := g.verticesByType.withdrawAll v.types slot } := by
  unfold detachVertex
  cases held : g.vertexArena.get? slot with
  | none => exact Or.inl ⟨held, rfl⟩
  | some v => exact Or.inr ⟨v, held, rfl⟩

theorem vertexAt?_detachVertex (g : Graph) (slot other : Nat) :
    (g.detachVertex slot).vertexAt? other = if other = slot then none else g.vertexAt? other := by
  rcases detachVertex_cases g slot with ⟨vacant, same⟩ | ⟨v, -, same⟩ <;> rw [same]
  · split
    · next here => rw [here, vacant]
    · rfl
  · exact Arena.get?_vacate _ _ _

theorem size_vertexArena_detachVertex (g : Graph) (slot : Nat) :
    (g.detachVertex slot).vertexArena.size = g.vertexArena.size := by
  rcases detachVertex_cases g slot with ⟨-, same⟩ | ⟨v, -, same⟩ <;> rw [same]
  exact Arena.size_vacate _ _

theorem edgeArena_detachVertex (g : Graph) (slot : Nat) :
    (g.detachVertex slot).edgeArena = g.edgeArena := by
  rcases detachVertex_cases g slot with ⟨-, same⟩ | ⟨v, -, same⟩ <;> rw [same]

theorem Linked.detachVertex (linked : g.Linked) (slot : Nat) : (g.detachVertex slot).Linked := by
  have vertices := vertexAt?_detachVertex g slot
  rcases detachVertex_cases g slot with ⟨-, same⟩ | ⟨v, held, same⟩
  · rw [same]
    exact linked
  rw [same] at vertices ⊢
  have locates : Locates g.vertexSlots g.vertexAt? Vertex.id := linked.vertexSlots
  constructor
  · exact locates.erase held vertices
  · exact linked.edgeSlots
  · apply (linked.verticesByType.withdrawAll v.types slot).congr
    intro type s
    rw [vertices]
    by_cases here : s = slot
    · simp [here, held]
    · simp [here]
  · exact linked.outbound
  · exact linked.inbound
  · exact linked.buckets
  · intro s w held'
    rw [vertices] at held'
    split at held'
    · cases held'
    · exact linked.vertexStorable s w held'
  · exact linked.edgeStorable

/-- A vertex may go when no edge is at it: the edges that stay keep their keys. -/
theorem Coherent.detachVertex (coherent : g.Coherent) {slot : Nat} {v : Vertex}
    (held : g.vertexAt? slot = some v) (bare : ∀ e ∈ g.edges, e.source ≠ v.id ∧ e.target ≠ v.id) :
    (g.detachVertex slot).Coherent := by
  have linked := coherent.toLinked.detachVertex slot
  have reads : ∀ id, id ≠ v.id → (g.detachVertex slot).vertex? id = g.vertex? id := by
    intro id other
    apply Option.ext
    intro w
    rw [linked.vertex?_eq_some_iff, coherent.toLinked.vertex?_eq_some_iff, mem_vertices,
      mem_vertices]
    simp only [vertexAt?_detachVertex]
    constructor
    · rintro ⟨⟨s, held'⟩, named⟩
      split at held'
      · cases held'
      · exact ⟨⟨s, held'⟩, named⟩
    · rintro ⟨⟨s, held'⟩, named⟩
      have elsewhere : s ≠ slot := by
        rintro rfl
        obtain rfl : v = w := Option.some.inj (held.symm.trans held')
        exact other named.symm
      exact ⟨⟨s, by rw [if_neg elsewhere, held']⟩, named⟩
  have edges : (g.detachVertex slot).edgeAt? = g.edgeAt? := by
    funext s
    simp only [edgeAt?, edgeArena_detachVertex]
  have keys : (g.detachVertex slot).keysAt = g.keysAt := by
    funext s
    simp only [keysAt, edgeArena_detachVertex]
  refine ⟨linked, fun s e here => ?_⟩
  rw [edges] at here
  obtain ⟨notFrom, notTo⟩ := bare e (mem_edges.mpr ⟨s, here⟩)
  rw [keys, coherent.keys s e here]
  simp only [keysFor?, reads _ notFrom, reads _ notTo]

/-! ## Compaction -/

/-- Where no key comes twice, what comes first has other keys than what comes next. -/
theorem key_ne_of_nodup_append {α κ : Type} {key : α → κ} {xs ys : List α} {y : α}
    (apart : ((xs ++ y :: ys).map key).Nodup) : ∀ x ∈ xs, key x ≠ key y := by
  rw [List.map_append, List.nodup_append] at apart
  intro x here
  exact apart.2.2 _ (List.mem_map_of_mem here) _ (List.mem_map_of_mem List.mem_cons_self)

/-- Vertices with new ids are stored one after the other. -/
theorem Coherent.storeVertices (coherent : g.Coherent) {vs : List Vertex}
    (storable : ∀ v ∈ vs, v.Storable) (apart : ((g.vertices ++ vs).map (·.id)).Nodup) :
    (vs.foldl Graph.storeVertex g).Coherent ∧ (vs.foldl Graph.storeVertex g).vertices = g.vertices ++ vs ∧
      (vs.foldl Graph.storeVertex g).edges = g.edges := by
  induction vs generalizing g with
  | nil => exact ⟨coherent, by simp, rfl⟩
  | cons v vs ih =>
      have fresh : ∀ w ∈ g.vertices, w.id ≠ v.id := key_ne_of_nodup_append apart
      have stored := coherent.storeVertex (storable v List.mem_cons_self) fresh
      have vertices := vertices_storeVertex g v
      obtain ⟨final, allVertices, sameEdges⟩ := ih stored
        (fun w later => storable w (List.mem_cons_of_mem _ later)) (by simpa [vertices] using apart)
      exact ⟨final, by simpa [vertices] using allVertices, sameEdges.trans (edges_storeVertex g v)⟩

/-- Edges with new ids are stored one after the other. -/
theorem Coherent.storeEdges (coherent : g.Coherent) {es : List Edge}
    (storable : ∀ e ∈ es, e.Storable) (apart : ((g.edges ++ es).map (·.id)).Nodup) :
    (es.foldl Graph.storeEdge g).Coherent ∧ (es.foldl Graph.storeEdge g).vertices = g.vertices ∧
      (es.foldl Graph.storeEdge g).edges = g.edges ++ es := by
  induction es generalizing g with
  | nil => exact ⟨coherent, rfl, by simp⟩
  | cons e es ih =>
      have fresh : ∀ f ∈ g.edges, f.id ≠ e.id := key_ne_of_nodup_append apart
      have stored := coherent.storeEdge (storable e List.mem_cons_self) fresh
      have edges := edges_storeEdge g e
      obtain ⟨final, sameVertices, allEdges⟩ := ih stored
        (fun f later => storable f (List.mem_cons_of_mem _ later)) (by simpa [edges] using apart)
      exact ⟨final, sameVertices.trans (vertices_storeEdge g e), by simpa [edges] using allEdges⟩

/-- The vertices of a graph alone, stored anew. -/
theorem Coherent.storeVertices_empty (coherent : g.Coherent) :
    (g.vertices.foldl Graph.storeVertex empty).Coherent ∧
      (g.vertices.foldl Graph.storeVertex empty).vertices = g.vertices ∧
      (g.vertices.foldl Graph.storeVertex empty).edges = [] :=
  coherent_empty.storeVertices
    (fun _ stored => coherent.toLinked.storable_of_mem_vertices stored)
    (by simpa [Graph.vertices, empty, Arena.live] using coherent.toLinked.nodup_vertexIds)

/-- **Compaction keeps every element and the order of both lists.** -/
theorem Coherent.compact (coherent : g.Coherent) :
    g.compact.Coherent ∧ g.compact.vertices = g.vertices ∧ g.compact.edges = g.edges := by
  obtain ⟨started, vertices, start⟩ := coherent.storeVertices_empty
  obtain ⟨final, sameVertices, edges⟩ := started.storeEdges
    (fun _ stored => coherent.toLinked.storable_of_mem_edges stored)
    (by simpa [start] using coherent.toLinked.nodup_edgeIds)
  refine ⟨final, sameVertices.trans vertices, ?_⟩
  rw [start, List.nil_append] at edges
  exact edges

theorem Coherent.compactIfSparse (coherent : g.Coherent) :
    g.compactIfSparse.Coherent ∧ g.compactIfSparse.vertices = g.vertices ∧
      g.compactIfSparse.edges = g.edges := by
  unfold Graph.compactIfSparse
  split
  · exact coherent.compact
  · exact ⟨coherent, rfl, rfl⟩

/-! ## Removal as a reader sees it -/

theorem Linked.edges_detachEdge (linked : g.Linked) {slot : Nat} {e : Edge}
    (held : g.edgeAt? slot = some e) : (g.detachEdge slot).edges = g.edges.filter (·.id ≠ e.id) := by
  rw [edges_eq, edges_eq, size_edgeArena_detachEdge,
    Arena.filterMap_vacated (edgeAt?_detachEdge g slot) (fun f => decide (f.id = e.id))]
  · simp
  · intro s f here
    rw [decide_eq_true_eq]
    constructor
    · exact fun same => linked.slot_eq_of_edgeId here held same
    · rintro rfl
      exact congrArg Edge.id (Option.some.inj (here.symm.trans held))

/-- Detaching every edge at a vertex id leaves the edges that have it at neither end. -/
theorem Linked.edges_detachTouching (linked : g.Linked) (id : String) :
    ((g.touching id).foldl Graph.detachEdge g).edges =
      g.edges.filter fun e => e.source ≠ id ∧ e.target ≠ id := by
  rw [edges_eq, edges_eq,
    foldl_frame (·.edgeArena.size) size_edgeArena_detachEdge,
    Arena.filterMap_vacated (edgeAt?_detachEdges g (g.touching id))
      (fun e => decide (e.source = id ∨ e.target = id))]
  · apply List.filter_congr
    intro e _
    simp
  · intro s e here
    rw [linked.mem_touching]
    simp [here]

theorem Linked.vertices_detachVertex (linked : g.Linked) {slot : Nat} {v : Vertex}
    (held : g.vertexAt? slot = some v) :
    (g.detachVertex slot).vertices = g.vertices.filter (·.id ≠ v.id) := by
  rw [vertices_eq, vertices_eq, size_vertexArena_detachVertex,
    Arena.filterMap_vacated (vertexAt?_detachVertex g slot) (fun w => decide (w.id = v.id))]
  · simp
  · intro s w here
    rw [decide_eq_true_eq]
    constructor
    · exact fun same => linked.slot_eq_of_vertexId here held same
    · rintro rfl
      exact congrArg Vertex.id (Option.some.inj (here.symm.trans held))

/-- The graph without the vertex in a slot and without the edges at its id, before it
may be compacted. -/
def uproot (g : Graph) (id : String) (slot : Nat) : Graph :=
  ((g.touching id).foldl Graph.detachEdge g).detachVertex slot

theorem removeVertex_of_missing {id : String} (missing : g.vertexSlots[id]? = none) :
    g.removeVertex id = (none, g) := by
  rw [removeVertex, missing]

theorem removeVertex_of_indexed {id : String} {slot : Nat} (indexed : g.vertexSlots[id]? = some slot) :
    g.removeVertex id = (g.vertexAt? slot, (g.uproot id slot).compactIfSparse) := by
  rw [removeVertex, indexed]
  rfl

theorem removeEdge_of_missing {raw : String} {id : EdgeId} (read : EdgeId.parse raw = .ok id)
    (missing : g.edgeSlots[id]? = none) : g.removeEdge raw = .ok (none, g) := by
  rw [removeEdge, read]
  simp only [bind, Except.bind, missing]
  rfl

theorem removeEdge_of_indexed {raw : String} {id : EdgeId} {slot : Nat}
    (read : EdgeId.parse raw = .ok id) (indexed : g.edgeSlots[id]? = some slot) :
    g.removeEdge raw = .ok (g.edgeAt? slot, (g.detachEdge slot).compactIfSparse) := by
  rw [removeEdge, read]
  simp only [bind, Except.bind, indexed]
  rfl

/-- Once the edges at a vertex have gone, it may go too. -/
theorem Coherent.uproot (coherent : g.Coherent) {slot : Nat} {v : Vertex}
    (held : g.vertexAt? slot = some v) :
    (g.uproot v.id slot).Coherent ∧ (g.uproot v.id slot).vertices = g.vertices.filter (·.id ≠ v.id) ∧
      (g.uproot v.id slot).edges = g.edges.filter fun e => e.source ≠ v.id ∧ e.target ≠ v.id := by
  have detached := coherent.detachEdges (g.touching v.id)
  have edges := coherent.toLinked.edges_detachTouching v.id
  have arena : ((g.touching v.id).foldl Graph.detachEdge g).vertexArena = g.vertexArena :=
    foldl_frame Graph.vertexArena vertexArena_detachEdge _ _
  have here : ((g.touching v.id).foldl Graph.detachEdge g).vertexAt? slot = some v := by
    rw [vertexAt?, arena]
    exact held
  have bare : ∀ e ∈ ((g.touching v.id).foldl Graph.detachEdge g).edges,
      e.source ≠ v.id ∧ e.target ≠ v.id := by
    intro e stays
    rw [edges, List.mem_filter, decide_eq_true_eq] at stays
    exact stays.2
  refine ⟨detached.detachVertex here bare, ?_, ?_⟩
  · rw [Graph.uproot, detached.toLinked.vertices_detachVertex here, vertices, arena]
    rfl
  · rw [← edges, Graph.uproot, Graph.edges, Graph.edges, edgeArena_detachVertex]

/-- What the removal of a vertex does: nothing when there is none with the id, and
else the vertex goes with every edge at it. -/
theorem Coherent.removeVertex_spec (coherent : g.Coherent) (id : String) :
    (g.removeVertex id).1 = g.vertex? id ∧ (g.removeVertex id).2.Coherent ∧
      (g.removeVertex id).2.vertices = g.vertices.filter (·.id ≠ id) ∧
      (g.removeVertex id).2.edges =
        if (g.vertex? id).isSome then g.edges.filter fun e => e.source ≠ id ∧ e.target ≠ id
        else g.edges := by
  cases indexed : g.vertexSlots[id]? with
  | none =>
      have missing : g.vertex? id = none := by simp [vertex?, indexed]
      have same := coherent.toLinked.filter_vertices_of_missing missing
      rw [removeVertex_of_missing indexed]
      exact ⟨missing.symm, coherent, same.symm, by simp [missing]⟩
  | some slot =>
      obtain ⟨v, held, rfl⟩ := (coherent.toLinked.vertexSlots id slot).mp indexed
      have found : g.vertex? v.id = some v :=
        coherent.toLinked.vertex?_eq_some_iff.mpr ⟨mem_vertices.mpr ⟨slot, held⟩, rfl⟩
      obtain ⟨thinner, vertices, edges⟩ := coherent.uproot held
      obtain ⟨final, sameVertices, sameEdges⟩ := thinner.compactIfSparse
      rw [removeVertex_of_indexed indexed, found, Option.isSome_some, if_pos rfl]
      exact ⟨held, final, sameVertices.trans vertices, sameEdges.trans edges⟩

/-- What the removal of an edge does, once its text has been read: the edge with the
id goes, if there is one. -/
theorem Coherent.removeEdge_spec (coherent : g.Coherent) {raw : String} {id : EdgeId}
    (read : EdgeId.parse raw = .ok id) :
    ∃ after, g.removeEdge raw = .ok (g.edge? id, after) ∧ after.Coherent ∧
      after.vertices = g.vertices ∧ after.edges = g.edges.filter (·.id ≠ id) := by
  cases indexed : g.edgeSlots[id]? with
  | none =>
      have missing : g.edge? id = none := by simp [edge?, indexed]
      have same := coherent.toLinked.filter_edges_of_missing missing
      exact ⟨g, by rw [removeEdge_of_missing read indexed, missing], coherent, rfl, same.symm⟩
  | some slot =>
      obtain ⟨e, held, rfl⟩ := (coherent.toLinked.edgeSlots id slot).mp indexed
      have found : g.edge? e.id = some e :=
        coherent.toLinked.edge?_eq_some_iff.mpr ⟨mem_edges.mpr ⟨slot, held⟩, rfl⟩
      obtain ⟨final, sameVertices, sameEdges⟩ := (coherent.detachEdge slot).compactIfSparse
      refine ⟨_, by rw [removeEdge_of_indexed read indexed, found, held], final,
        sameVertices.trans ?_, sameEdges.trans (coherent.toLinked.edges_detachEdge held)⟩
      rw [vertices, vertexArena_detachEdge]
      rfl

end Trellis.Graph
