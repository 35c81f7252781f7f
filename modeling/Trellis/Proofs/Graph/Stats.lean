/-
# Trellis.Proofs.Graph.Stats — what the indexes hold, and what the counters count

`Exact` spells the invariant of the indexes out slot by slot, down to how often a
bucket lists an edge: once under each key that its endpoints and its own types give
it while both endpoints are stored, and nowhere while one is missing. Every coherent
graph is exact (`Coherent.exact`).

The counters follow: the pending edges are those with an endpoint missing, and a
filed edge is listed as often as a type or none can be chosen in each of its three
places, so the entries of all buckets add up to a sum over the edges
(`Coherent.entryCount_buckets`). `indexes_exact` puts the two together for the graphs
that can be reached.
-/
import Mathlib.Data.List.Dedup
import Trellis.Graph.Stats
import Trellis.Proofs.Graph.Reachable

namespace Trellis.Graph

set_option autoImplicit false

variable {g : Graph}

/-! ## Endpoints -/

/-- A vertex with the id is stored. -/
def isStored (g : Graph) (id : String) : Bool := g.vertices.any (·.id = id)

/-- Both endpoints of an edge are stored. -/
def joins (g : Graph) (e : Edge) : Bool := g.isStored e.source && g.isStored e.target

/-- How many types the vertex with an id has. -/
def typeCount (g : Graph) (id : String) : Nat := ((g.vertex? id).map (·.types.length)).getD 0

theorem Linked.isStored_iff (linked : g.Linked) {id : String} :
    g.isStored id = true ↔ ∃ v, g.vertex? id = some v := by
  simp only [isStored, List.any_eq_true, decide_eq_true_eq, linked.vertex?_eq_some_iff]

theorem Linked.joins_iff (linked : g.Linked) {e : Edge} :
    g.joins e = true ↔ ∃ v w, g.vertex? e.source = some v ∧ g.vertex? e.target = some w := by
  rw [joins, Bool.and_eq_true, linked.isStored_iff, linked.isStored_iff]
  constructor
  · rintro ⟨⟨v, fromHere⟩, w, toThere⟩
    exact ⟨v, w, fromHere, toThere⟩
  · rintro ⟨v, w, fromHere, toThere⟩
    exact ⟨⟨v, fromHere⟩, w, toThere⟩

theorem Linked.keysFor?_eq_none_iff (linked : g.Linked) {e : Edge} :
    g.keysFor? e = none ↔ g.joins e = false := by
  rw [← Bool.not_eq_true, linked.joins_iff, Option.eq_none_iff_forall_ne_some]
  simp only [ne_eq, keysFor?_eq_some_iff]
  constructor
  · rintro unknown ⟨v, w, fromHere, toThere⟩
    exact unknown _ ⟨v, w, fromHere, toThere, rfl⟩
  · rintro missing _ ⟨v, w, fromHere, toThere, -⟩
    exact missing ⟨v, w, fromHere, toThere⟩

/-! ## The indexes -/

/-- Every index lists exactly the slots of the living elements that it is about, each
once. No type and no bucket is kept with an empty list. -/
structure Exact (g : Graph) : Prop where
  vertexSlots : ∀ id slot, g.vertexSlots[id]? = some slot ↔
    ∃ v, g.vertexArena.get? slot = some v ∧ v.id = id
  edgeSlots : ∀ id slot, g.edgeSlots[id]? = some slot ↔
    ∃ entry, g.edgeArena.get? slot = some entry ∧ entry.edge.id = id
  verticesByType : g.verticesByType.Tracks fun type slot =>
    ∃ v, g.vertexArena.get? slot = some v ∧ type ∈ v.types
  outbound : g.outbound.Lists fun id slot =>
    ∃ entry, g.edgeArena.get? slot = some entry ∧ entry.edge.source = id
  inbound : g.inbound.Lists fun id slot =>
    ∃ entry, g.edgeArena.get? slot = some entry ∧ entry.edge.target = id
  /-- An edge has no keys exactly when an endpoint is missing. -/
  pending : ∀ slot entry, g.edgeArena.get? slot = some entry →
    (entry.keys = [] ↔ g.joins entry.edge = false)
  unfiled : ∀ slot entry, g.edgeArena.get? slot = some entry → g.joins entry.edge = false →
    ∀ key, slot ∉ g.buckets.slots key
  /-- Between stored vertices an edge is in the buckets of its keys, once in each. -/
  filed : ∀ slot entry, g.edgeArena.get? slot = some entry →
    ∀ v ∈ g.vertices, v.id = entry.edge.source → ∀ w ∈ g.vertices, w.id = entry.edge.target →
      ∀ key, (g.buckets.slots key).count slot =
        if key ∈ BucketKey.ofEdge v.types entry.edge.types w.types entry.edge.provenance then 1
        else 0
  living : ∀ key, ∀ slot ∈ g.buckets.slots key, ∃ entry, g.edgeArena.get? slot = some entry
  nonempty : ∀ key : BucketKey, g.buckets.lists[key]? ≠ some []

theorem edgeAt?_of_get? {slot : Nat} {entry : EdgeEntry} (held : g.edgeArena.get? slot = some entry) :
    g.edgeAt? slot = some entry.edge ∧ g.keysAt slot = entry.keys := by
  simp [edgeAt?, keysAt, held]

/-- What holds of the edge in a slot holds of the entry there. -/
theorem exists_edgeAt?_iff {slot : Nat} (holds : Edge → Prop) :
    (∃ e, g.edgeAt? slot = some e ∧ holds e) ↔
      ∃ entry, g.edgeArena.get? slot = some entry ∧ holds entry.edge := by
  simp only [edgeAt?, Option.map_eq_some_iff]
  constructor
  · rintro ⟨_, ⟨entry, held, rfl⟩, here⟩
    exact ⟨entry, held, here⟩
  · rintro ⟨entry, held, here⟩
    exact ⟨entry.edge, ⟨entry, held, rfl⟩, here⟩

theorem keysAt_of_vacant {slot : Nat} (vacant : g.edgeAt? slot = none) : g.keysAt slot = [] := by
  have vacant : g.edgeArena.get? slot = none := by simpa [edgeAt?] using vacant
  simp [keysAt, vacant]

theorem Coherent.keys_eq_nil_iff (coherent : g.Coherent) {slot : Nat} {e : Edge}
    (held : g.edgeAt? slot = some e) : g.keysAt slot = [] ↔ g.joins e = false := by
  rw [coherent.keys slot e held, ← coherent.toLinked.keysFor?_eq_none_iff]
  cases known : g.keysFor? e with
  | none => simp
  | some keys =>
      obtain ⟨v, w, -, -, rfl⟩ := keysFor?_eq_some_iff.mp known
      simpa using BucketKey.ofEdge_ne_nil _ _ _ _

/-- **The indexes of a coherent graph are exact.** -/
theorem Coherent.exact (coherent : g.Coherent) : g.Exact where
  vertexSlots := coherent.vertexSlots
  edgeSlots id slot := (coherent.edgeSlots id slot).trans (exists_edgeAt?_iff (·.id = id))
  verticesByType := coherent.verticesByType
  outbound := (coherent.outbound.congr fun id _ => (exists_edgeAt?_iff (·.source = id)).symm).toLists
  inbound := (coherent.inbound.congr fun id _ => (exists_edgeAt?_iff (·.target = id)).symm).toLists
  pending slot entry held := by
    obtain ⟨here, keys⟩ := edgeAt?_of_get? held
    rw [← keys]
    exact coherent.keys_eq_nil_iff here
  unfiled slot entry held missing key member := by
    obtain ⟨here, -⟩ := edgeAt?_of_get? held
    have filed := (coherent.buckets.mem_slots key slot).mp member
    rw [(coherent.keys_eq_nil_iff here).mpr missing] at filed
    cases filed
  filed slot entry held v fromHere named w toThere named' key := by
    obtain ⟨here, -⟩ := edgeAt?_of_get? held
    have reads := coherent.toLinked.vertex?_eq_some_iff.mpr ⟨fromHere, named⟩
    have reads' := coherent.toLinked.vertex?_eq_some_iff.mpr ⟨toThere, named'⟩
    have keys := coherent.keys slot entry.edge here
    rw [keysFor?_eq_some_iff.mpr ⟨v, w, reads, reads', rfl⟩, Option.getD_some] at keys
    rw [(coherent.buckets.nodup_slots key).count]
    simp only [coherent.buckets.mem_slots, keys]
  living key slot member := by
    have filed := (coherent.buckets.mem_slots key slot).mp member
    cases held : g.edgeArena.get? slot with
    | none => simp [keysAt, held] at filed
    | some entry => exact ⟨entry, rfl⟩
  nonempty := coherent.buckets.listed

/-! ## The counters -/

theorem Linked.vertexCount_eq (linked : g.Linked) : g.vertexCount = g.vertices.length := by
  rw [vertexCount, Postings.size_eq_length linked.nodup_vertexIds, List.length_map]
  intro id
  simp only [linked.vertexSlots, List.mem_map, mem_vertices]
  constructor
  · rintro ⟨slot, v, held, named⟩
    exact ⟨v, ⟨slot, held⟩, named⟩
  · rintro ⟨v, ⟨slot, held⟩, named⟩
    exact ⟨slot, v, held, named⟩

theorem Linked.edgeCount_eq (linked : g.Linked) : g.edgeCount = g.edges.length := by
  rw [edgeCount, Postings.size_eq_length linked.nodup_edgeIds, List.length_map]
  intro id
  simp only [linked.edgeSlots, List.mem_map, mem_edges]
  constructor
  · rintro ⟨slot, e, held, named⟩
    exact ⟨e, ⟨slot, held⟩, named⟩
  · rintro ⟨e, ⟨slot, held⟩, named⟩
    exact ⟨slot, e, held, named⟩

theorem Linked.vertexTombstones_eq (linked : g.Linked) :
    g.vertexTombstones = g.vertexArena.size - g.vertices.length := by
  rw [vertexTombstones, linked.vertexCount_eq]

theorem Linked.edgeTombstones_eq (linked : g.Linked) :
    g.edgeTombstones = g.edgeArena.size - g.edges.length := by
  rw [edgeTombstones, linked.edgeCount_eq]

/-- **There is a bucket for each key that some edge has**, and a pending edge has none. -/
theorem Coherent.keyCount_buckets (coherent : g.Coherent) :
    g.buckets.keyCount =
      (g.edges.flatMap fun e => (g.keysFor? e).getD []).dedup.length := by
  rw [Postings.keyCount, Postings.size_eq_length (List.nodup_dedup _)]
  intro key
  rw [coherent.buckets.exists_list_iff, List.mem_dedup, List.mem_flatMap]
  constructor
  · rintro ⟨slot, filed⟩
    cases held : g.edgeAt? slot with
    | none => simp [keysAt_of_vacant held] at filed
    | some e =>
        rw [coherent.keys slot e held] at filed
        exact ⟨e, mem_edges.mpr ⟨slot, held⟩, filed⟩
  · rintro ⟨e, stored, owned⟩
    obtain ⟨slot, held⟩ := mem_edges.mp stored
    exact ⟨slot, coherent.keys slot e held ▸ owned⟩

theorem Coherent.pendingEdges_eq (coherent : g.Coherent) :
    g.stats.pendingEdges = g.edges.countP (!g.joins ·) := by
  rw [edges, List.countP_map]
  refine List.countP_congr fun entry member => ?_
  obtain ⟨slot, held⟩ := Arena.mem_live.mp member
  simpa using coherent.exact.pending slot entry held

/-- An edge has a key for every choice of a type or none in each of three places. -/
theorem Coherent.length_keysAt (coherent : g.Coherent) {slot : Nat} {e : Edge}
    (held : g.edgeAt? slot = some e) : (g.keysAt slot).length =
      if g.joins e then
        (g.typeCount e.source + 1) * (e.types.length + 1) * (g.typeCount e.target + 1)
      else 0 := by
  split
  · next both =>
      obtain ⟨v, w, fromHere, toThere⟩ := coherent.toLinked.joins_iff.mp both
      rw [coherent.keys slot e held, keysFor?_eq_some_iff.mpr ⟨v, w, fromHere, toThere, rfl⟩,
        typeCount, typeCount, fromHere, toThere]
      obtain ⟨stored, -⟩ := coherent.toLinked.vertex?_eq_some_iff.mp fromHere
      obtain ⟨stored', -⟩ := coherent.toLinked.vertex?_eq_some_iff.mp toThere
      obtain ⟨rawSource, rfl⟩ := (coherent.toLinked.storable_of_mem_vertices stored).normal
      obtain ⟨rawTarget, rfl⟩ := (coherent.toLinked.storable_of_mem_vertices stored').normal
      obtain ⟨rawEdge, rfl⟩ := (coherent.edgeStorable slot e held).normal
      exact BucketKey.length_ofEdge_normalize _ _ _ _
  · next missing =>
      rw [(coherent.keys_eq_nil_iff held).mpr (by simpa using missing)]
      rfl

theorem Coherent.nodup_keysAt (coherent : g.Coherent) (slot : Nat) : (g.keysAt slot).Nodup := by
  cases held : g.edgeAt? slot with
  | none => simp [keysAt_of_vacant held]
  | some e =>
      rw [coherent.keys slot e held]
      cases known : g.keysFor? e with
      | none => exact List.nodup_nil
      | some keys => exact coherent.toLinked.nodup_keys (coherent.edgeStorable slot e held) known

/-- **The entries of all buckets, counted edge by edge.** -/
theorem Coherent.entryCount_buckets (coherent : g.Coherent) :
    g.buckets.entryCount = ((g.edges.filter g.joins).map fun e =>
      (g.typeCount e.source + 1) * (e.types.length + 1) * (g.typeCount e.target + 1)).sum := by
  have inside : ∀ slot, g.keysAt slot ≠ [] → slot < g.edgeArena.size := by
    intro slot some_
    cases held : g.edgeArena.get? slot with
    | none => simp [keysAt, held] at some_
    | some entry => exact Arena.lt_size_of_get? held
  have bySlots : ∀ slots : List Nat, (slots.map fun slot => (g.keysAt slot).length).sum =
      (((slots.filterMap g.edgeAt?).filter g.joins).map fun e =>
        (g.typeCount e.source + 1) * (e.types.length + 1) * (g.typeCount e.target + 1)).sum := by
    intro slots
    induction slots with
    | nil => rfl
    | cons slot slots ih =>
        rw [List.map_cons, List.sum_cons, ih, List.filterMap_cons]
        cases held : g.edgeAt? slot with
        | none => rw [keysAt_of_vacant held, List.length_nil, Nat.zero_add]
        | some e =>
            rw [coherent.length_keysAt held, List.filter_cons]
            split
            · rw [List.map_cons, List.sum_cons]
            · rw [Nat.zero_add]
  rw [coherent.buckets.entryCount_eq coherent.nodup_keysAt inside, bySlots, ← edges_eq]

/-- **The indexes are exact, and the counters count what they say**: edges with an
endpoint missing, and for the others the ways to choose a type or none in each of
three places. -/
theorem indexes_exact (reachable : g.Reachable) :
    g.Exact ∧ g.stats.pendingEdges = g.edges.countP (!g.joins ·) ∧
      g.stats.bucketEntries = ((g.edges.filter g.joins).map fun e =>
        (g.typeCount e.source + 1) * (e.types.length + 1) * (g.typeCount e.target + 1)).sum :=
  have coherent := reachable.coherent
  ⟨coherent.exact, coherent.pendingEdges_eq, coherent.entryCount_buckets⟩

theorem indexes_exact_sample :
    sample.Reachable ∧ sample.Exact ∧
      sample.edges.countP (!sample.joins ·) = 1 ∧ sample.stats.pendingEdges = 1 ∧
      (sample.edges.filter sample.joins).map (fun e => (e.id.text,
          (sample.typeCount e.source + 1) * (e.types.length + 1) * (sample.typeCount e.target + 1))) =
        [("ann>knows>bob", 12), ("bob>knows,likes>cyd", 18), ("bob>knows>bob", 18),
          ("bob>knows>ann", 12)] ∧
      sample.stats.bucketEntries = 60 := by
  obtain ⟨exact, pending, entries⟩ := indexes_exact sample_reachable
  refine ⟨sample_reachable, exact, by decide +kernel, ?_, by decide +kernel, ?_⟩
  · rw [pending]
    decide +kernel
  · rw [entries]
    decide +kernel

end Trellis.Graph
