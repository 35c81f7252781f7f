/-
# Trellis.Proofs.Query — a run lists the walks of a graph

The moves from a stored vertex are its ways (`Coherent.moves_eq`), so extending a
row by every triple of a plan gives what may follow its last vertex
(`Coherent.foldl_expand`), and a run gives the walks along the strides of its
triples (`Coherent.runWalk_eq`). Nothing is dropped at the end: the rows of the
last frontier all have ids of their own. On a graph with some of the elements of another
a run gives the rows over these (`Coherent.run_eq_filter_of_prunes`).
-/
import Trellis.Query
import Trellis.Proofs.Distinct
import Trellis.Proofs.Graph.Reachable
import Trellis.Proofs.Walk

namespace Trellis.Graph

set_option autoImplicit false

open Pattern (Chain Direction)
open Plan (Triple)

variable {g : Graph} {limit? : Option Nat}

/-! ## Moves -/

theorem isEndpoint_ofIds {id : String} (stored : ∃ v ∈ g.vertices, v.id = id) (end_ : String) :
    g.isEndpoint end_ (some (.ofIds [id])) = decide (end_ = id) := by
  have byId : ∀ v : Vertex, (VertexFilter.ofIds [id]).accepts v = decide (v.id = id) := by
    intro v
    simp [VertexFilter.ofIds, VertexFilter.accepts, VertexFilter.activeTerm]
  rw [Bool.eq_iff_iff, isEndpoint_iff, decide_eq_true_iff]
  constructor
  · rintro ⟨v, -, named, accepted⟩
    have same := accepted _ rfl
    rw [byId, decide_eq_true_iff] at same
    exact named.symm.trans same
  · rintro rfl
    obtain ⟨v, here, named⟩ := stored
    refine ⟨v, here, named, ?_⟩
    rintro f ⟨⟩
    rw [byId, decide_eq_true_iff]
    exact named

/-- A way as a move. -/
def moveOf (way : Edge × String) : Move := (way.1.id, way.2)

theorem Coherent.outbound_eq (coherent : g.Coherent) {id : String}
    (stored : ∃ v ∈ g.vertices, v.id = id) (t : Triple) :
    (g.filterEdges (some (.ofIds [id])) (t.link.edgeFilter.withGenerationLimit limit?)
        (some t.target.filter)).map (fun e => (e.id, e.target)) =
      (g.waysOut (.ofTriple limit? t) id).map moveOf := by
  rw [coherent.filterEdges_eq, waysOut, waysAlong, List.map_map]
  refine congrArg (List.map _) (List.filter_congr fun e _ => ?_)
  rw [isFound, isEndpoint_ofIds stored, fits, Bool.and_comm (EdgeFilter.accepts _ e), Bool.and_assoc]
  rfl

theorem Coherent.inbound_eq (coherent : g.Coherent) {id : String}
    (stored : ∃ v ∈ g.vertices, v.id = id) (t : Triple) :
    (g.filterEdges (some t.target.filter) (t.link.edgeFilter.withGenerationLimit limit?)
        (some (.ofIds [id]))).map (fun e => (e.id, e.source)) =
      (g.waysIn (.ofTriple limit? t) id).map moveOf := by
  rw [coherent.filterEdges_eq, waysIn, waysAlong, List.map_map]
  refine congrArg (List.map _) (List.filter_congr fun e _ => ?_)
  rw [isFound, isEndpoint_ofIds stored, fits, Bool.and_comm]
  rfl

/-- An edge comes back among the inbound ones exactly when it is a loop. -/
theorem Linked.notMem_wayTexts_iff (linked : g.Linked) {s : Stride} {id : String}
    {way : Edge × String} (back : way ∈ g.waysIn s id) :
    wayTexts way ∉ (g.waysOut s id).map wayTexts ↔ way.1.source ≠ id := by
  obtain ⟨stored, enters, there, fits⟩ := mem_waysIn.mp back
  rw [List.mem_map, not_iff_not]
  constructor
  · rintro ⟨other, out, same⟩
    obtain ⟨stored', leaves, -, -⟩ := mem_waysOut.mp out
    have sameId : other.1.id = way.1.id := congrArg EdgeId.mk (List.head_eq_of_cons_eq same)
    rw [← linked.edge_eq_of_id stored' stored sameId]
    exact leaves
  · intro loop
    exact ⟨way, mem_waysOut.mpr ⟨stored, loop, (enters.trans loop.symm).trans there, fits⟩, rfl⟩

/-- **The moves from a stored vertex are its ways.** -/
theorem Coherent.moves_eq (coherent : g.Coherent) {id : String}
    (stored : ∃ v ∈ g.vertices, v.id = id) (t : Triple) :
    g.moves limit? t id = (g.ways (.ofTriple limit? t) id).map moveOf := by
  have linked := coherent.toLinked
  have apart : ∀ {ways : List (Edge × String)}, ways.Nodup → (∀ way ∈ ways, way.1 ∈ g.edges) →
      ((ways.map moveOf).map fun move => [move.1.text, move.2]).Nodup := by
    intro ways nodup stored
    rw [List.map_map]
    exact linked.nodup_wayTexts nodup stored
  have out := apart (linked.nodup_waysOut (.ofTriple limit? t) id) fun way here =>
    (mem_waysOut.mp here).1
  have back := apart (linked.nodup_waysIn (.ofTriple limit? t) id) fun way here =>
    (mem_waysIn.mp here).1
  simp only [moves, coherent.outbound_eq stored, coherent.inbound_eq stored]
  have direction : (Stride.ofTriple limit? t).direction = t.link.direction := rfl
  rw [ways, direction]
  cases t.link.direction with
  | outbound =>
      show distinctBy _ ((g.waysOut (.ofTriple limit? t) id).map moveOf ++ []) = _
      rw [List.append_nil, distinctBy_eq_self out]
  | inbound =>
      show distinctBy _ ([] ++ (g.waysIn (.ofTriple limit? t) id).map moveOf) = _
      rw [List.nil_append, distinctBy_eq_self back]
  | both =>
      show distinctBy _ ((g.waysOut (.ofTriple limit? t) id).map moveOf ++
        (g.waysIn (.ofTriple limit? t) id).map moveOf) = _
      rw [distinctBy_append out back, List.filter_map, List.map_append]
      refine congrArg (_ ++ List.map _ ·) (List.filter_congr fun way here => ?_)
      rw [List.map_map]
      exact decide_eq_decide.mpr (linked.notMem_wayTexts_iff here)

/-! ## Rows -/

/-- A row has got as far as a stored vertex. -/
def Reaches (g : Graph) (row : Row) (id : String) : Prop :=
  row.lastVertex? = some id ∧ ∃ v ∈ g.vertices, v.id = id

theorem lastVertex?_extended (row : Row) (edge : EdgeId) (id : String) (shown : Bool) :
    (row.extended edge id shown).lastVertex? = some id := by
  simp [Row.lastVertex?, Row.extended, Row.Element.vertexId?]

theorem Coherent.expand_eq (coherent : g.Coherent) {row : Row} {id : String}
    (reaches : g.Reaches row id) (t : Triple) :
    g.expand limit? t row = (g.ways (.ofTriple limit? t) id).map fun way =>
      row.extended way.1.id way.2 t.target.isShown := by
  rw [expand, reaches.1]
  simp only [coherent.moves_eq reaches.2, List.map_map]
  rfl

/-- Extending rows by one triple after another extends each row for itself. -/
theorem foldl_flatMap {α β : Type} (extend : β → α → List α) (ts : List β) (rows : List α) :
    ts.foldl (fun rows t => rows.flatMap (extend t)) rows =
      rows.flatMap fun row => ts.foldl (fun rows t => rows.flatMap (extend t)) [row] := by
  induction ts generalizing rows with
  | nil => simp
  | cons t ts ih =>
      rw [List.foldl_cons, ih, List.flatMap_assoc]
      apply List.flatMap_congr
      intro row _
      rw [List.foldl_cons, List.flatMap_singleton, ← ih]

/-- **What the triples of a plan make of a row is what may follow its last vertex.** -/
theorem Coherent.foldl_expand (coherent : g.Coherent) (triples : List Triple) {row : Row}
    {id : String} (reaches : g.Reaches row id) :
    triples.foldl (fun rows t => rows.flatMap (g.expand limit? t)) [row] =
      (g.continuations (triples.map (.ofTriple limit?)) id).map fun later =>
        ⟨row.elements ++ later⟩ := by
  induction triples generalizing row id with
  | nil => simp [continuations]
  | cons t rest ih =>
      rw [List.foldl_cons, List.flatMap_singleton, foldl_flatMap, coherent.expand_eq reaches,
        List.flatMap_map, List.map_cons, continuations, List.map_flatMap]
      apply List.flatMap_congr
      intro way here
      obtain ⟨-, w, stored, named, -⟩ := fits_iff.mp (mem_ways.mp here).2.2
      rw [ih ⟨lastVertex?_extended _ _ _ _, w, stored, named⟩, List.map_map]
      apply List.map_congr_left
      intro later _
      simp [Row.extended, Stride.ofTriple]

/-- The rows that are left when every triple has been followed. -/
def frontier (g : Graph) (limit? : Option Nat) (source : Plan.Node) (triples : List Triple) : List Row :=
  triples.foldl (fun rows t => rows.flatMap (g.expand limit? t)) (g.anchors source)

theorem Coherent.frontier_eq (coherent : g.Coherent) (source : Plan.Node) (triples : List Triple) :
    g.frontier limit? source triples =
      g.walks source.filter source.isShown (triples.map (.ofTriple limit?)) := by
  rw [frontier, foldl_flatMap, anchors, coherent.toLinked.filterVertices_eq, List.flatMap_map, walks]
  apply List.flatMap_congr
  intro v here
  exact coherent.foldl_expand triples ⟨rfl, v, (List.mem_filter.mp here).1, rfl⟩

/-- **A run of a walk gives the walks along its strides.** -/
theorem Coherent.runWalk_eq (coherent : g.Coherent) (first : Triple) (rest : List Triple) :
    g.runWalk limit? (first :: rest) =
      g.walks first.source.filter first.source.isShown ((first :: rest).map (.ofTriple limit?)) := by
  have frontier : g.frontier limit? first.source (first :: rest) = _ :=
    coherent.frontier_eq first.source (first :: rest)
  have apart := coherent.toLinked.nodup_ids_walks first.source.filter first.source.isShown
    ((first :: rest).map (.ofTriple limit?))
  show distinctBy Row.ids (g.frontier limit? first.source (first :: rest)) = _
  rw [frontier, distinctBy_eq_self apart]

/-- **A run on the pruned graph gives the rows over the elements that are kept.** The two
runs may have limits of their own. -/
theorem Coherent.run_eq_filter_of_prunes {h : Graph} {keepVertex : String → Bool}
    {keepEdge : EdgeId → Bool} {limit'? : Option Nat} {plan : Plan} (left : g.Coherent)
    (right : h.Coherent) (vertices : g.vertices = h.vertices.filter (keepVertex ·.id))
    (prunes : ∀ t ∈ plan.triples,
      Prunes keepVertex keepEdge g h (.ofTriple limit? t) (.ofTriple limit'? t)) :
    g.run limit? plan = (h.run limit'? plan).filter (·.isKept keepVertex keepEdge) := by
  match plan with
  | .vertices filter =>
      rw [run, run, left.toLinked.filterVertices_eq, right.toLinked.filterVertices_eq, vertices,
        List.filter_map, List.filter_comm]
      simp [Function.comp_def, Row.start, Row.isKept, Row.Element.isKept]
  | .walk [] => rfl
  | .walk (first :: rest) =>
      have pairs : List.Forall₂ (Prunes keepVertex keepEdge g h)
          ((first :: rest).map (Stride.ofTriple limit?)) ((first :: rest).map (.ofTriple limit'?)) := by
        rw [List.forall₂_map_left_iff, List.forall₂_map_right_iff, List.forall₂_same]
        exact prunes
      rw [run, run, left.runWalk_eq, right.runWalk_eq, Prunes.walks_eq vertices pairs]

/-! ## Chains -/

/-- A row is a match of a chain: a walk along its hops from a vertex that its head
asks for. -/
def Matches (g : Graph) (limit? : Option Nat) (c : Chain) (row : Row) : Prop :=
  g.IsWalk c.head.asks (c.head ≠ .hidden) (c.hops.map (.ofHop limit?)) row

/-- The matches of a chain in their order. -/
def matchesOf (g : Graph) (limit? : Option Nat) (c : Chain) : List Row :=
  g.walks c.head.asks (c.head ≠ .hidden) (c.hops.map (.ofHop limit?))

theorem triples_ofChain {c : Chain} (long : c.hops ≠ []) :
    Plan.ofChain c = .walk (Plan.triplesFrom (.ofPattern c.head) c.hops) := by
  simp [Plan.ofChain, Chain.isSingleNode, long]

theorem Coherent.frontier_ofChain (coherent : g.Coherent) (c : Chain) :
    g.frontier limit? (.ofPattern c.head) (Plan.triplesFrom (.ofPattern c.head) c.hops) =
      g.matchesOf limit? c := by
  rw [coherent.frontier_eq, Stride.map_ofTriple_triplesFrom, Stride.isShown_ofPattern]
  rfl

theorem Coherent.run_ofChain (coherent : g.Coherent) {c : Chain} (long : c.hops ≠ []) :
    g.run limit? (.ofChain c) = g.matchesOf limit? c := by
  rw [triples_ofChain long, ← coherent.frontier_ofChain]
  obtain ⟨hop, rest, hops⟩ := List.exists_cons_of_ne_nil long
  rw [hops]
  have same : g.frontier limit? (.ofPattern c.head) _ = _ :=
    coherent.frontier_eq (.ofPattern c.head) (Plan.triplesFrom (.ofPattern c.head) (hop :: rest))
  rw [same]
  exact coherent.runWalk_eq _ _

/-- A chain of one node finds the vertices that it asks for. -/
theorem Coherent.run_ofChain_of_single (coherent : g.Coherent) {c : Chain} (single : c.hops = []) :
    g.run limit? (.ofChain c) = (g.vertices.filter c.head.asks.accepts).map (.start ·.id true) := by
  have plan : Plan.ofChain c = .vertices (Plan.Node.ofPattern c.head).filter := by
    simp [Plan.ofChain, Chain.isSingleNode, single]
  rw [plan, run, coherent.toLinked.filterVertices_eq]
  rfl

/-- **Running a chain lists its matches**, each once and in nested order; the rows of
the last frontier are the answer as they are. -/
theorem run_ofChain_eq_matches (reachable : g.Reachable) (limit? : Option Nat) {c : Chain}
    (long : c.hops ≠ []) :
    g.run limit? (.ofChain c) = g.matchesOf limit? c ∧
      (∀ row, row ∈ g.run limit? (.ofChain c) ↔ g.Matches limit? c row) ∧
      (g.run limit? (.ofChain c)).Nodup ∧
      g.run limit? (.ofChain c) =
        g.frontier limit? (.ofPattern c.head) (Plan.ofChain c).triples := by
  have coherent := reachable.coherent
  have same : g.run limit? (.ofChain c) = g.matchesOf limit? c := coherent.run_ofChain long
  refine ⟨same, fun row => ?_, ?_, ?_⟩
  · rw [same]
    exact mem_walks
  · rw [same]
    exact coherent.toLinked.nodup_walks _ _ _
  · rw [same, triples_ofChain long]
    exact (coherent.frontier_ofChain c).symm

/-- A host, anybody it knows or is known to, and whatever comes next to them. -/
def sampleChain : Chain where
  head := .typed ["host"]
  hops := [
    ⟨⟨.typed, .bonded, true, true, ["Knows"], .anyOf⟩, .any⟩,
    ⟨⟨.short, .path, false, true, [], .anyOf⟩, .hidden⟩]

theorem run_ofChain_eq_matches_sample :
    sample.Reachable ∧ sampleChain.hops ≠ [] ∧
      sample.run none (.ofChain sampleChain) = sample.matchesOf none sampleChain ∧
      (sample.run none (.ofChain sampleChain)).map (·.ids) =
        [["bob", "bob>knows>bob", "bob", "bob>knows,likes>cyd", "cyd"],
          ["bob", "bob>knows>bob", "bob", "bob>knows>bob", "bob"],
          ["bob", "bob>knows>bob", "bob", "bob>knows>ann", "ann"],
          ["bob", "bob>knows>ann", "ann", "ann>knows>bob", "bob"],
          ["bob", "ann>knows>bob", "ann", "ann>knows>bob", "bob"]] :=
  ⟨sample_reachable, by decide, (run_ofChain_eq_matches sample_reachable none (by decide)).1,
    by decide +kernel⟩

end Trellis.Graph
