/-
# Trellis.Proofs.Pruning — what removals take from the rows of a query

A removal takes a vertex with the edges at it, or one edge, and leaves the other elements
in their order; a compaction moves slots only. So of the rows of a query just those go in
which the removed element occurs, hidden or shown (`run_remove_eq_filter`).

To hide edges from a query is therefore the same as to remove them. A limit hides the
derived edges of a generation and of later ones, and a bonded hop hides all derived edges:
with these removed the query needs no limit, and may take every hop as a path
(`run_eq_run_removeEdges`).
-/
import Trellis.Proofs.EdgeIdentity
import Trellis.Proofs.Query

namespace Trellis

set_option autoImplicit false

open Pattern (Chain Hop)

/-! ## Elements of a row -/

def Row.Element.edgeId? : Row.Element → Option EdgeId
  | .vertex _ _ => none
  | .edge id _ => some id

/-- The vertex occurs in the row, shown or not. -/
def Row.hasVertex (id : String) (r : Row) : Bool := r.elements.any (·.vertexId? = some id)

def Row.hasEdge (id : EdgeId) (r : Row) : Bool := r.elements.any (·.edgeId? = some id)

theorem Row.isKept_of_vertex (id : String) (r : Row) :
    r.isKept (· ≠ id) (fun _ => true) = !r.hasVertex id := by
  have element : ∀ x : Row.Element,
      x.isKept (· ≠ id) (fun _ => true) = !decide (x.vertexId? = some id) := by
    rintro (_ | _) <;> simp [Row.Element.isKept, Row.Element.vertexId?]
  rw [Row.isKept, Row.hasVertex, List.not_any_eq_all_not, funext element]

theorem Row.isKept_of_edge (id : EdgeId) (r : Row) :
    r.isKept (fun _ => true) (· ≠ id) = !r.hasEdge id := by
  have element : ∀ x : Row.Element,
      x.isKept (fun _ => true) (· ≠ id) = !decide (x.edgeId? = some id) := by
    rintro (_ | _) <;> simp [Row.Element.isKept, Row.Element.edgeId?]
  rw [Row.isKept, Row.hasEdge, List.not_any_eq_all_not, funext element]

theorem Row.isKept_all (r : Row) : r.isKept (fun _ => true) (fun _ => true) = true := by
  rw [Row.isKept, List.all_eq_true]
  rintro (_ | _) _ <;> rfl

namespace Graph

variable {g h : Graph} {keepVertex : String → Bool} {keepEdge : EdgeId → Bool}

/-! ## One removal -/

/-- When a graph has of another just the elements that are kept, a query gives the rows over
these. -/
theorem Coherent.run_eq_filter_of_kept (left : g.Coherent) (right : h.Coherent)
    (keepVertex : String → Bool) (keepEdge : EdgeId → Bool)
    (vertices : g.vertices = h.vertices.filter (keepVertex ·.id))
    (edges : g.edges = h.edges.filter fun e =>
      keepEdge e.id && (keepVertex e.source && keepVertex e.target))
    (limit? : Option Nat) (plan : Plan) :
    g.run limit? plan = (h.run limit? plan).filter (·.isKept keepVertex keepEdge) :=
  left.run_eq_filter_of_prunes right vertices fun _ _ =>
    ⟨by rw [edges, List.filter_comm], rfl, rfl, rfl⟩

theorem Coherent.run_removeVertex (coherent : g.Coherent) {v : Vertex} (stored : v ∈ g.vertices)
    (limit? : Option Nat) (plan : Plan) :
    (g.removeVertex v.id).1 = some v ∧
      (g.removeVertex v.id).2.run limit? plan =
        (g.run limit? plan).filter (!·.hasVertex v.id) := by
  obtain ⟨answer, final, vertices, edges⟩ := coherent.removeVertex_spec v.id
  have found := coherent.toLinked.vertex?_eq_some_iff.mpr ⟨stored, rfl⟩
  rw [found, Option.isSome_some, if_pos rfl] at edges
  refine ⟨answer.trans found, ?_⟩
  rw [final.run_eq_filter_of_kept coherent (· ≠ v.id) (fun _ => true) vertices (by simpa using edges),
    funext (Row.isKept_of_vertex v.id)]

theorem Coherent.run_removeEdge (coherent : g.Coherent) {e : Edge} (stored : e ∈ g.edges)
    (limit? : Option Nat) (plan : Plan) :
    ∃ after, g.removeEdge e.id.text = .ok (some e, after) ∧
      after.run limit? plan = (g.run limit? plan).filter (!·.hasEdge e.id) := by
  have read := (coherent.toLinked.storable_of_mem_edges stored).parse_id
  obtain ⟨after, removed, final, vertices, edges⟩ := coherent.removeEdge_spec read
  rw [coherent.toLinked.edge?_eq_some_iff.mpr ⟨stored, rfl⟩] at removed
  refine ⟨after, removed, ?_⟩
  rw [final.run_eq_filter_of_kept coherent (fun _ => true) (· ≠ e.id) (by simpa using vertices)
    (by simpa using edges), funext (Row.isKept_of_edge e.id)]

/-- **A removal takes just the rows in which the removed element occurs**, hidden or shown,
and leaves the others in their order. -/
theorem run_remove_eq_filter (reachable : g.Reachable) (limit? : Option Nat) (plan : Plan) :
    (∀ v ∈ g.vertices,
      (g.removeVertex v.id).1 = some v ∧
        (g.removeVertex v.id).2.run limit? plan =
          (g.run limit? plan).filter (!·.hasVertex v.id)) ∧
      ∀ e ∈ g.edges, ∃ after, g.removeEdge e.id.text = .ok (some e, after) ∧
        after.run limit? plan = (g.run limit? plan).filter (!·.hasEdge e.id) :=
  ⟨fun _ stored => reachable.coherent.run_removeVertex stored limit? plan,
    fun _ stored => reachable.coherent.run_removeEdge stored limit? plan⟩

/-- So much comes and goes that one more removal compacts the small graph. -/
def wear : List Call :=
  (List.replicate 60 [.addVertex (.of "eve" ["person"] "Eve"), .removeVertex "eve"]).flatten

def worn : Graph := (sample.calls wear).2

theorem worn_reachable : worn.Reachable := sample_reachable.calls wear

def ann : Vertex := .of "ann" ["person"] "Ann"

/-- An edge from a vertex to itself. -/
def bobToBob : Edge := .asserted "bob" ["knows"] "bob"

/-- What is computed of it: a removal leaves no vacant slot, and takes the rows with Ann. -/
theorem worn_computed :
    ann ∈ worn.vertices ∧ bobToBob ∈ worn.edges ∧
      worn.vertexTombstones = 61 ∧ (worn.removeVertex ann.id).2.vertexTombstones = 0 ∧
      (worn.run none (.ofChain sampleChain)).map (·.ids) =
        [["bob", "bob>knows>bob", "bob", "bob>knows,likes>cyd", "cyd"],
          ["bob", "bob>knows>bob", "bob", "bob>knows>bob", "bob"],
          ["bob", "bob>knows>bob", "bob", "bob>knows>ann", "ann"],
          ["bob", "bob>knows>ann", "ann", "ann>knows>bob", "bob"],
          ["bob", "ann>knows>bob", "ann", "ann>knows>bob", "bob"]] ∧
      ((worn.removeVertex ann.id).2.run none (.ofChain sampleChain)).map (·.ids) =
        [["bob", "bob>knows>bob", "bob", "bob>knows,likes>cyd", "cyd"],
          ["bob", "bob>knows>bob", "bob", "bob>knows>bob", "bob"]] := by
  decide +kernel

theorem run_remove_eq_filter_worn :
    worn.Reachable ∧ ann ∈ worn.vertices ∧ bobToBob ∈ worn.edges ∧
      (worn.removeVertex ann.id).2.run none (.ofChain sampleChain) =
        (worn.run none (.ofChain sampleChain)).filter (!·.hasVertex ann.id) ∧
      ∃ after, worn.removeEdge bobToBob.id.text = .ok (some bobToBob, after) ∧
        after.run none (.ofChain sampleChain) =
          (worn.run none (.ofChain sampleChain)).filter (!·.hasEdge bobToBob.id) := by
  obtain ⟨vertex, edge, -⟩ := worn_computed
  have rows := run_remove_eq_filter worn_reachable none (.ofChain sampleChain)
  exact ⟨worn_reachable, vertex, edge, (rows.1 ann vertex).2, rows.2 bobToBob edge⟩

/-! ## Removals in a row -/

/-- The graph after the removal of some edges by their ids, one after the other. -/
def removeEdges (g : Graph) (es : List Edge) : Graph :=
  es.foldl (fun g e => (g.call (.removeEdge e.id.text)).2) g

theorem Coherent.removeEdges (coherent : g.Coherent) {es : List Edge}
    (storable : ∀ e ∈ es, e.Storable) :
    (g.removeEdges es).Coherent ∧ (g.removeEdges es).vertices = g.vertices ∧
      (g.removeEdges es).edges = g.edges.filter (·.id ∉ es.map Edge.id) := by
  induction es generalizing g with
  | nil => exact ⟨coherent, rfl, by simp [Graph.removeEdges]⟩
  | cons e es ih =>
      obtain ⟨first, later⟩ := List.forall_mem_cons.mp storable
      obtain ⟨after, removed, next, vertices, edges⟩ := coherent.removeEdge_spec first.parse_id
      have step : (g.call (.removeEdge e.id.text)).2 = after := by rw [Graph.call, removed]
      obtain ⟨final, sameVertices, rest⟩ := ih next later
      rw [Graph.removeEdges, List.foldl_cons, step]
      refine ⟨final, sameVertices.trans vertices, rest.trans ?_⟩
      rw [edges, List.filter_filter]
      refine List.filter_congr fun f _ => ?_
      rw [Bool.and_comm]
      simp

/-- Removing the stored edges of some kind leaves the others. -/
theorem Coherent.edges_removeEdges (coherent : g.Coherent) {es : List Edge} {kind : Edge → Bool}
    (named : ∀ e, e ∈ es ↔ e ∈ g.edges ∧ kind e = true) :
    (g.removeEdges es).Coherent ∧ (g.removeEdges es).vertices = g.vertices ∧
      (g.removeEdges es).edges = g.edges.filter (!kind ·) := by
  have linked := coherent.toLinked
  obtain ⟨final, vertices, edges⟩ := coherent.removeEdges fun e here =>
    linked.storable_of_mem_edges ((named e).mp here).1
  refine ⟨final, vertices, edges.trans (List.filter_congr fun e stored => ?_)⟩
  rw [Bool.eq_iff_iff, decide_eq_true_iff, Bool.not_eq_true', ← Bool.not_eq_true, not_iff_not,
    List.mem_map]
  constructor
  · rintro ⟨f, here, same⟩
    obtain ⟨stored', is⟩ := (named f).mp here
    rwa [← linked.edge_eq_of_id stored' stored same]
  · exact fun is => ⟨e, (named e).mpr ⟨stored, is⟩, rfl⟩

/-! ## Edges that are hidden -/

end Graph

/-- Derived, and in the given generation or later by its earliest record. -/
def Edge.isFrom (limit : Nat) (e : Edge) : Bool := e.isDerived && e.generation.any (limit ≤ ·)

/-- A limit hides the derived edges from that generation on. -/
theorem EdgeFilter.accepts_withGenerationLimit (f : EdgeFilter) (limit : Nat) (e : Edge) :
    (f.withGenerationLimit (some limit)).accepts e =
      ((f.withGenerationLimit none).accepts e && !e.isFrom limit) := by
  have reaches : (f.withGenerationLimit (some limit)).reaches e = !e.isFrom limit := by
    simp only [reaches, withGenerationLimit, Option.all_some, Edge.isFrom]
    cases dated : e.generation with
    | none => simp
    | some generation =>
        have derived : e.isDerived = true := by
          cases path : e.derivationPath with
          | nil => simp [Edge.generation, path] at dated
          | cons first rest => simp [Edge.isDerived, path]
        rw [Bool.eq_iff_iff]
        simp [derived]
  have unlimited : (f.withGenerationLimit none).reaches e = true := rfl
  rw [accepts, accepts, reaches, unlimited]
  show (f.scope.admits e.provenance && !e.isFrom limit && f.acceptsTypes e) =
    (f.scope.admits e.provenance && true && f.acceptsTypes e && !e.isFrom limit)
  rw [Bool.and_true, Bool.and_assoc, Bool.and_assoc, Bool.and_comm (!e.isFrom limit)]

def Pattern.Hop.asPath (h : Hop) : Hop := { h with link := { h.link with style := .path } }

/-- The same chain with every hop as a path. -/
def Pattern.Chain.asPaths (c : Chain) : Chain := { c with hops := c.hops.map Hop.asPath }

/-- A bonded hop hides the derived edges that the same hop as a path would see. -/
theorem Stride.accepts_ofHop_of_bonded {h : Hop} (bonded : h.link.style = .bonded)
    (limit? : Option Nat) (e : Edge) :
    (ofHop limit? h).edges.accepts e =
      ((ofHop limit? h.asPath).edges.accepts e && !e.isDerived) := by
  have bondedScope : (ofHop limit? h).edges.scope = .asserted := by simp [ofHop, bonded]
  have pathScope : (ofHop limit? h.asPath).edges.scope = .all := rfl
  have admits : Scope.asserted.admits e.provenance = !e.isDerived := by
    cases derived : e.isDerived <;> simp [Scope.admits, Edge.provenance, derived]
  rw [EdgeFilter.accepts, EdgeFilter.accepts, bondedScope, pathScope, admits, Bool.and_assoc,
    Bool.and_comm]
  rfl

namespace Graph

variable {g : Graph} {c : Chain}

theorem Coherent.run_limit_eq (coherent : g.Coherent) {limit : Nat} {es : List Edge}
    (late : ∀ e, e ∈ es ↔ e ∈ g.edges ∧ e.isFrom limit = true) (plan : Plan) :
    g.run (some limit) plan = (g.removeEdges es).run none plan := by
  obtain ⟨final, vertices, edges⟩ := coherent.edges_removeEdges late
  have prunes : ∀ t ∈ plan.triples, Prunes (fun _ => true) (fun _ => true) g (g.removeEdges es)
      (.ofTriple (some limit) t) (.ofTriple none t) := by
    intro t _
    refine ⟨?_, rfl, rfl, rfl⟩
    rw [edges, List.filter_filter, List.filter_filter]
    refine List.filter_congr fun e _ => ?_
    show (t.link.edgeFilter.withGenerationLimit (some limit)).accepts e = _
    rw [EdgeFilter.accepts_withGenerationLimit]
    simp [Stride.ofTriple]
  rw [coherent.run_eq_filter_of_prunes final (by simp [vertices]) prunes]
  exact List.filter_eq_self.mpr fun row _ => row.isKept_all

theorem Coherent.run_bonded_eq (coherent : g.Coherent)
    (bonded : ∀ hop ∈ c.hops, hop.link.style = .bonded) {es : List Edge}
    (derived : ∀ e, e ∈ es ↔ e ∈ g.edges ∧ e.isDerived = true) (limit? : Option Nat) :
    g.run limit? (.ofChain c) = (g.removeEdges es).run limit? (.ofChain c.asPaths) := by
  obtain ⟨final, vertices, edges⟩ := coherent.edges_removeEdges derived
  by_cases single : c.hops = []
  · have same : c.asPaths = c := by rw [Chain.asPaths, single, List.map_nil, ← single]
    rw [same, coherent.run_ofChain_of_single single, final.run_ofChain_of_single single, vertices]
  · have long : c.asPaths.hops ≠ [] := by simpa [Chain.asPaths] using single
    have prunes : List.Forall₂ (Prunes (fun _ => true) (fun _ => true) g (g.removeEdges es))
        (c.hops.map (.ofHop limit?)) (c.asPaths.hops.map (.ofHop limit?)) := by
      rw [Chain.asPaths, List.map_map, List.forall₂_map_left_iff, List.forall₂_map_right_iff,
        List.forall₂_same]
      intro hop here
      refine ⟨?_, rfl, rfl, rfl⟩
      rw [edges, List.filter_filter, List.filter_filter]
      refine List.filter_congr fun e _ => ?_
      rw [Stride.accepts_ofHop_of_bonded (bonded hop here)]
      simp
    rw [coherent.run_ofChain single, final.run_ofChain long, matchesOf, matchesOf,
      Prunes.walks_eq (by simp [vertices]) prunes]
    exact List.filter_eq_self.mpr fun row _ => row.isKept_all

/-- **To hide edges is to remove them.** A limit on generations gives the rows, in the same
order, that the query gives without one when the derived edges from that generation on have
been removed; and bonded hops give the rows that the same hops give as paths when all
derived edges have been removed. The edges may be removed in any order. -/
theorem run_eq_run_removeEdges (reachable : g.Reachable) (c : Chain) :
    (∀ (limit : Nat) (es : List Edge), (∀ e, e ∈ es ↔ e ∈ g.edges ∧ e.isFrom limit = true) →
      g.run (some limit) (.ofChain c) = (g.removeEdges es).run none (.ofChain c)) ∧
      ((∀ hop ∈ c.hops, hop.link.style = .bonded) →
        ∀ es : List Edge, (∀ e, e ∈ es ↔ e ∈ g.edges ∧ e.isDerived = true) →
          ∀ limit? : Option Nat,
            g.run limit? (.ofChain c) = (g.removeEdges es).run limit? (.ofChain c.asPaths)) :=
  ⟨fun _ _ late => reachable.coherent.run_limit_eq late _,
    fun bonded _ derived limit? => reachable.coherent.run_bonded_eq bonded derived limit?⟩

/-- Three people with one asserted edge and three derived ones, one of them on record twice
and one from before the first generation. -/
def layered : Graph :=
  (empty.calls [
    .addVertices [.of "ann" ["person"] "Ann", .of "bob" ["person"] "Bob", .of "cyd" ["person"] "Cyd"],
    .addEdges [.asserted "ann" ["knows"] "bob",
      { source := "bob", target := "cyd", types := ["knows"],
        derivationPath := [⟨"by hand", 3⟩, ⟨"by hand", 1⟩] },
      .derived "cyd" ["knows"] "ann" ⟨"by hand", 0⟩,
      .derived "ann" ["near"] "cyd" ⟨"by hand", 2⟩]]).2

theorem layered_reachable : layered.Reachable := Reachable.empty.calls _

/-- A person, whom they know, and whoever comes next to these. -/
def company : Chain where
  head := .typed ["person"]
  hops := [
    ⟨⟨.typed, .bonded, false, true, ["knows"], .anyOf⟩, .hidden⟩,
    ⟨⟨.short, .bonded, true, true, [], .anyOf⟩, .any⟩]

theorem run_eq_run_removeEdges_layered :
    layered.Reachable ∧
      (layered.edges.filter (·.isFrom 1)).map (·.id.text) = ["bob>knows>cyd", "ann>near>cyd"] ∧
      layered.run (some 1) (.ofChain company.asPaths) =
        (layered.removeEdges (layered.edges.filter (·.isFrom 1))).run none
          (.ofChain company.asPaths) ∧
      (layered.run (some 1) (.ofChain company.asPaths)).map (·.ids) =
        [["ann", "ann>knows>bob", "bob", "ann>knows>bob", "ann"],
          ["cyd", "cyd>knows>ann", "ann", "ann>knows>bob", "bob"],
          ["cyd", "cyd>knows>ann", "ann", "cyd>knows>ann", "cyd"]] ∧
      (∀ hop ∈ company.hops, hop.link.style = .bonded) ∧
      layered.run none (.ofChain company) =
        (layered.removeEdges (layered.edges.filter (·.isDerived))).run none
          (.ofChain company.asPaths) ∧
      (layered.run none (.ofChain company)).map (·.ids) =
        [["ann", "ann>knows>bob", "bob", "ann>knows>bob", "ann"]] := by
  have bonded : ∀ hop ∈ company.hops, hop.link.style = .bonded := by decide
  have limited := (run_eq_run_removeEdges layered_reachable company.asPaths).1
  have separated := (run_eq_run_removeEdges layered_reachable company).2 bonded
  exact ⟨layered_reachable, by decide +kernel, limited 1 _ fun _ => List.mem_filter,
    by decide +kernel, bonded, separated _ (fun _ => List.mem_filter) none, by decide +kernel⟩

end Graph

end Trellis
