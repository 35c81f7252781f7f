/-
# Trellis.Proofs.Growth — a graph that grows keeps the rows of a query

Calls that remove nothing and derivations put new elements behind the old ones,
whether they succeed or fail (`Coherent.extends_grow`). So a walk stays a walk, and two
walks stay in their order: at every vertex the ways of the grown graph are those of the
old one with new ones among them (`Extends.ways_sublist`). An arriving vertex may well
open a way that was stored long before, so new rows come anywhere among the old ones;
but the old ones all stay, in their order (`run_sublist_run_grow`).
-/
import Mathlib.Data.List.Flatten
import Trellis.Proofs.Stages

namespace Trellis.Graph

set_option autoImplicit false

variable {g h : Graph}

/-! ## Steps that remove nothing -/

def Call.isRemoval : Call → Bool
  | .removeVertex _ | .removeEdge _ => true
  | _ => false

/-- What makes a graph grow, or leaves it as it is. Any edge builder may be used, and any
rules, however they were made. -/
inductive Growth where
  | call (c : Call) (keeps : c.isRemoval = false)
  | runGeneration (rules : List Rule) (build : EdgeBuilder) (generation : Nat)
  | deriveEdges (rules : List Rule) (build : EdgeBuilder) (generations : Nat)

/-- The graph after a step, whether it succeeds or fails. -/
def Growth.apply (g : Graph) : Growth → Graph
  | .call c _ => (g.call c).2
  | .runGeneration rules build generation => (g.runGeneration rules build generation).2
  | .deriveEdges rules build generations => (g.deriveEdges rules build generations).2

def grow (g : Graph) (steps : List Growth) : Graph := steps.foldl Growth.apply g

/-- The elements of a graph come first among those of another. -/
structure Extends (h g : Graph) : Prop where
  vertices : g.vertices <+: h.vertices
  edges : g.edges <+: h.edges

theorem Extends.refl (g : Graph) : g.Extends g := ⟨List.prefix_refl _, List.prefix_refl _⟩

theorem Extends.trans {k : Graph} (later : k.Extends h) (earlier : h.Extends g) : k.Extends g :=
  ⟨earlier.vertices.trans later.vertices, earlier.edges.trans later.edges⟩

namespace Coherent

theorem extends_insertVertex (coherent : g.Coherent) {v : Vertex} {after : Graph}
    (done : g.insertVertex v = .ok after) : after.Extends g := by
  obtain ⟨-, vertices, edges⟩ := coherent.insertVertex done
  exact ⟨vertices ▸ List.prefix_append _ _, edges ▸ List.prefix_refl _⟩

theorem extends_insertEdge (coherent : g.Coherent) {e : Edge} {isNew : Bool} {after : Graph}
    (done : g.insertEdge e = .ok (isNew, after)) : after.Extends g := by
  obtain ⟨-, vertices, edges⟩ := coherent.insertEdge done
  refine ⟨vertices ▸ List.prefix_refl _, ?_⟩
  rw [edges]
  split
  · exact List.prefix_append _ _
  · exact List.prefix_refl _

theorem extends_insertVertices (coherent : g.Coherent) (vs : List Vertex) :
    (g.insertVertices vs).2.Extends g := by
  induction vs generalizing g with
  | nil => exact .refl g
  | cons v vs ih =>
      rw [Graph.insertVertices]
      split
      · exact .refl g
      · next stored done =>
          exact (ih (coherent.insertVertex done).1).trans (coherent.extends_insertVertex done)

theorem extends_insertEdges (coherent : g.Coherent) (es : List Edge) :
    (g.insertEdges es).2.Extends g := by
  induction es generalizing g with
  | nil => exact .refl g
  | cons e es ih =>
      rw [Graph.insertEdges]
      split
      · exact .refl g
      · next isNew stored done =>
          exact (ih (coherent.insertEdge done).1).trans (coherent.extends_insertEdge done)

theorem extends_call (coherent : g.Coherent) {c : Call} (keeps : c.isRemoval = false) :
    (g.call c).2.Extends g := by
  cases c with
  | addVertex v =>
      cases done : g.insertVertex v with
      | error cause => simpa only [Graph.call, done] using Extends.refl g
      | ok after => simpa only [Graph.call, done] using coherent.extends_insertVertex done
  | addVertices vs => exact coherent.extends_insertVertices vs
  | addEdge e =>
      cases done : g.insertEdge e with
      | error cause => simpa only [Graph.call, done] using Extends.refl g
      | ok result => simpa only [Graph.call, done] using coherent.extends_insertEdge done
  | addEdges es => exact coherent.extends_insertEdges es
  | removeVertex id => cases keeps
  | removeEdge raw => cases keeps
  | compact =>
      obtain ⟨-, vertices, edges⟩ := coherent.compact
      exact ⟨vertices ▸ List.prefix_refl _, edges ▸ List.prefix_refl _⟩

theorem extends_deriveThrough (coherent : g.Coherent) (rules : List Rule) (build : EdgeBuilder)
    (generations : List Nat) (report : Report) :
    (Graph.deriveThrough rules build generations report g).2.Extends g := by
  induction generations generalizing g report with
  | nil => exact .refl g
  | cons generation rest ih =>
      have step : (g.runGeneration rules build generation).2.Extends g := coherent.extends_insertEdges _
      have after := coherent.runGeneration rules build generation
      rw [Graph.deriveThrough]
      split
      · next cause final failed => rwa [failed] at step
      · next created final done =>
          rw [done] at step after
          exact (ih after _).trans step

/-- **A step that removes nothing puts what is new behind what was there.** -/
theorem extends_apply (coherent : g.Coherent) (step : Growth) :
    (step.apply g).Coherent ∧ (step.apply g).Extends g := by
  cases step with
  | call c keeps => exact ⟨coherent.call c, coherent.extends_call keeps⟩
  | runGeneration rules build generation =>
      exact ⟨coherent.runGeneration rules build generation, coherent.extends_insertEdges _⟩
  | deriveEdges rules build generations =>
      exact ⟨coherent.deriveThrough rules build _ _, coherent.extends_deriveThrough rules build _ _⟩

theorem extends_grow (coherent : g.Coherent) (steps : List Growth) :
    (g.grow steps).Coherent ∧ (g.grow steps).Extends g := by
  induction steps generalizing g with
  | nil => exact ⟨coherent, .refl g⟩
  | cons step rest ih =>
      obtain ⟨next, grown⟩ := coherent.extends_apply step
      obtain ⟨final, later⟩ := ih next
      exact ⟨final, later.trans grown⟩

end Coherent

/-! ## Walks in a graph that has grown -/

namespace Extends

theorem isEndpoint (grown : h.Extends g) {id : String} {f? : Option VertexFilter}
    (here : g.isEndpoint id f? = true) : h.isEndpoint id f? = true := by
  obtain ⟨v, stored, named⟩ := isEndpoint_iff.mp here
  exact isEndpoint_iff.mpr ⟨v, grown.vertices.subset stored, named⟩

theorem fits (grown : h.Extends g) {s : Stride} {e : Edge} {next : String}
    (here : g.fits s e next = true) : h.fits s e next = true := by
  simp only [Graph.fits, Bool.and_eq_true] at here ⊢
  exact ⟨here.1, grown.isEndpoint here.2⟩

/-- An edge that could be followed still can, and those that can are in their order. -/
theorem waysAlong_sublist (grown : h.Extends g) (s : Stride) (id : String)
    (near far : Edge → String) : (g.waysAlong s id near far).Sublist (h.waysAlong s id near far) := by
  have kept : (g.edges.filter fun e => near e = id && g.fits s e (far e)).Sublist
      (g.edges.filter fun e => near e = id && h.fits s e (far e)) := by
    refine List.monotone_filter_right g.edges fun e here => ?_
    rw [Bool.and_eq_true] at here ⊢
    exact ⟨here.1, grown.fits here.2⟩
  exact (kept.trans (grown.edges.sublist.filter _)).map _

theorem ways_sublist (grown : h.Extends g) (s : Stride) (id : String) :
    (g.ways s id).Sublist (h.ways s id) := by
  have out := grown.waysAlong_sublist s id Edge.source Edge.target
  have back := grown.waysAlong_sublist s id Edge.target Edge.source
  unfold ways waysOut waysIn
  cases s.direction with
  | outbound => exact out
  | inbound => exact back
  | both => exact out.append (back.filter _)

theorem continuations_sublist (grown : h.Extends g) (strides : List Stride) (id : String) :
    (g.continuations strides id).Sublist (h.continuations strides id) := by
  induction strides generalizing id with
  | nil => exact List.Sublist.refl _
  | cons s rest ih =>
      have further := List.Sublist.flatMap_right (g.ways s id) fun way _ =>
        (ih way.2).map fun later => .edge way.1.id true :: .vertex way.2 s.isShown :: later
      exact further.trans ((grown.ways_sublist s id).flatMap _)

/-- **The walks of a graph are among those of a graph that it has grown into**, in their
order. -/
theorem walks_sublist (grown : h.Extends g) (head : VertexFilter) (shown : Bool)
    (strides : List Stride) : (g.walks head shown strides).Sublist (h.walks head shown strides) := by
  have further := List.Sublist.flatMap_right (g.vertices.filter head.accepts) fun v _ =>
    (grown.continuations_sublist strides v.id).map fun later => Row.mk (.vertex v.id shown :: later)
  exact further.trans ((grown.vertices.sublist.filter _).flatMap _)

theorem run_sublist (grown : h.Extends g) (left : g.Coherent) (right : h.Coherent)
    (limit? : Option Nat) (plan : Plan) : (g.run limit? plan).Sublist (h.run limit? plan) := by
  match plan with
  | .vertices filter =>
      rw [run, run, left.toLinked.filterVertices_eq, right.toLinked.filterVertices_eq]
      exact (grown.vertices.sublist.filter _).map _
  | .walk [] => exact List.Sublist.refl _
  | .walk (first :: rest) =>
      rw [run, run, left.runWalk_eq, right.runWalk_eq]
      exact grown.walks_sublist _ _ _

end Extends

/-- **The rows of a query stay while a graph only grows**, with their marks and in their
order, whatever is added or derived and whether it succeeds or fails. -/
theorem run_sublist_run_grow (reachable : g.Reachable) (steps : List Growth) (limit? : Option Nat)
    (plan : Plan) : (g.run limit? plan).Sublist ((g.grow steps).run limit? plan) := by
  obtain ⟨final, grown⟩ := reachable.coherent.extends_grow steps
  exact grown.run_sublist reachable.coherent final limit? plan

/-- Dan is back, and with him an edge that has waited for him; a batch stops at an edge
without types; and a rule is run with a builder that turns its edges around. -/
def sampleGrowth : List Growth := [
  .call (.addVertex (.of "dan" ["person"] "Dan")) rfl,
  .call (.addEdges [.asserted "dan" ["knows"] "bob", .asserted "dan" [] "bob",
    .asserted "dan" ["knows"] "ann"]) rfl,
  .call .compact rfl,
  .deriveEdges [nearRule] (fun source types target => .derived target types source) 1]

theorem run_sublist_run_grow_sample :
    sample.Reachable ∧
      (sample.run none (.ofChain sampleChain)).Sublist
        ((sample.grow sampleGrowth).run none (.ofChain sampleChain)) ∧
      (sample.run none (.ofChain sampleChain)).map (·.ids) =
        [["bob", "bob>knows>bob", "bob", "bob>knows,likes>cyd", "cyd"],
          ["bob", "bob>knows>bob", "bob", "bob>knows>bob", "bob"],
          ["bob", "bob>knows>bob", "bob", "bob>knows>ann", "ann"],
          ["bob", "bob>knows>ann", "ann", "ann>knows>bob", "bob"],
          ["bob", "ann>knows>bob", "ann", "ann>knows>bob", "bob"]] ∧
      ((sample.grow sampleGrowth).run none (.ofChain sampleChain)).map (·.ids) =
        [["bob", "bob>knows,likes>cyd", "cyd", "cyd>near>ann", "ann"],
          ["bob", "bob>knows,likes>cyd", "cyd", "cyd>near>bob", "bob"],
          ["bob", "bob>knows,likes>cyd", "cyd", "cyd>near>dan", "dan"],
          ["bob", "bob>knows>bob", "bob", "bob>knows,likes>cyd", "cyd"],
          ["bob", "bob>knows>bob", "bob", "bob>knows>bob", "bob"],
          ["bob", "bob>knows>bob", "bob", "bob>knows>ann", "ann"],
          ["bob", "bob>knows>bob", "bob", "bob>knows>dan", "dan"],
          ["bob", "bob>knows>ann", "ann", "ann>knows>bob", "bob"],
          ["bob", "bob>knows>dan", "dan", "dan>knows>bob", "bob"],
          ["bob", "ann>knows>bob", "ann", "ann>knows>bob", "bob"],
          ["bob", "dan>knows>bob", "dan", "dan>knows>bob", "bob"]] :=
  ⟨sample_reachable, run_sublist_run_grow sample_reachable sampleGrowth none _, by decide +kernel,
    by decide +kernel⟩

end Trellis.Graph
