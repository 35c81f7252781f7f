/-
# Trellis.Proofs.LoadOrder — vertices and edges may be loaded in any order

An edge may come before its endpoints, and waits for them; so vertices and edges can be
loaded in any interleaving that keeps the order of either (`Loads`). A vertex that is
added is compared with the stored vertices and put behind them, and an edge likewise, so
each call has the answer that it would have if there were no calls of the other kind
(`PlainStore.vertices_of_loads`, `PlainStore.edges_of_loads`). Both lists are then the same
whatever the interleaving, and no slot is left vacant on the way; so no reader can tell
which edges have waited, and for which of their endpoints (`sameReads_of_loads`).
-/
import Trellis.Proofs.Graph.Tombstones
import Trellis.Proofs.SameReads

namespace Trellis

set_option autoImplicit false

open Trellis.Graph (Call Answer)

/-- The calls add vertices and edges one by one, each in the given order. -/
inductive Loads : List Vertex → List Edge → List Call → Prop
  | done : Loads [] [] []
  | vertex {vs : List Vertex} {es : List Edge} {cs : List Call} (v : Vertex) (rest : Loads vs es cs) :
      Loads (v :: vs) es (.addVertex v :: cs)
  | edge {vs : List Vertex} {es : List Edge} {cs : List Call} (e : Edge) (rest : Loads vs es cs) :
      Loads vs (e :: es) (.addEdge e :: cs)

namespace Graph.Answer

/-- What a call that adds a vertex gives back. -/
def accepted? : Answer → Option (Except InputError Unit)
  | .accepted result => some result
  | _ => none

/-- What a call that adds an edge gives back. -/
def stored? : Answer → Option (Except InputError Bool)
  | .stored result => some result
  | _ => none

end Graph.Answer

variable {vs : List Vertex} {es : List Edge} {cs ds : List Call}

/-! ## The two lists apart -/

namespace PlainStore

/-- **Adding a vertex has to do with the vertices only.** -/
theorem call_addVertex (vertices : List Vertex) (v : Vertex) :
    ∃ result after, ∀ edges,
      call ⟨vertices, edges⟩ (.addVertex v) = (.accepted result, ⟨after, edges⟩) := by
  cases checked : v.normalized.check with
  | error cause =>
      refine ⟨.error cause, vertices, fun edges => ?_⟩
      rw [call, insertVertex, checked]
      rfl
  | ok =>
      cases taken : vertices.any (·.id = v.normalized.id) with
      | true =>
          refine ⟨.error (.duplicateVertex v.id), vertices, fun edges => ?_⟩
          simp only [call, insertVertex, checked, taken]
          rfl
      | false =>
          refine ⟨.ok (), vertices ++ [v.normalized], fun edges => ?_⟩
          simp only [call, insertVertex, checked, taken]
          rfl

/-- **Adding an edge has to do with the edges only.** -/
theorem call_addEdge (edges : List Edge) (e : Edge) :
    ∃ result after, ∀ vertices,
      call ⟨vertices, edges⟩ (.addEdge e) = (.stored result, ⟨vertices, after⟩) := by
  cases checked : e.normalized.check with
  | error cause =>
      refine ⟨.error cause, edges, fun vertices => ?_⟩
      rw [call, insertEdge, checked]
      rfl
  | ok =>
      cases taken : edges.any (·.identity = e.normalized.identity) with
      | true =>
          refine ⟨.ok false, edges, fun vertices => ?_⟩
          simp only [call, insertEdge, checked, taken]
          rfl
      | false =>
          refine ⟨.ok true, edges ++ [e.normalized], fun vertices => ?_⟩
          simp only [call, insertEdge, checked, taken]
          rfl

/-- Among edges, vertices fare as they do alone. -/
theorem vertices_of_loads (loads : Loads vs es cs) {s t : PlainStore} (same : s.vertices = t.vertices) :
    (s.calls cs).1.filterMap Answer.accepted? =
        (t.calls (vs.map .addVertex)).1.filterMap Answer.accepted? ∧
      (s.calls cs).2.vertices = (t.calls (vs.map .addVertex)).2.vertices := by
  induction loads generalizing s t with
  | done => exact ⟨rfl, same⟩
  | vertex v _ ih =>
      obtain ⟨result, after, step⟩ := call_addVertex s.vertices v
      have here := step s.edges
      have there := step t.edges
      rw [same] at there
      obtain ⟨answers, final⟩ := ih (s := ⟨after, s.edges⟩) (t := ⟨after, t.edges⟩) rfl
      rw [List.map_cons, calls, calls, here, there]
      exact ⟨congrArg (result :: ·) answers, final⟩
  | edge e _ ih =>
      obtain ⟨result, after, step⟩ := call_addEdge s.edges e
      rw [calls, step s.vertices]
      exact ih (s := ⟨s.vertices, after⟩) same

/-- Among vertices, edges fare as they do alone. -/
theorem edges_of_loads (loads : Loads vs es cs) {s t : PlainStore} (same : s.edges = t.edges) :
    (s.calls cs).1.filterMap Answer.stored? =
        (t.calls (es.map .addEdge)).1.filterMap Answer.stored? ∧
      (s.calls cs).2.edges = (t.calls (es.map .addEdge)).2.edges := by
  induction loads generalizing s t with
  | done => exact ⟨rfl, same⟩
  | vertex v _ ih =>
      obtain ⟨result, after, step⟩ := call_addVertex s.vertices v
      rw [calls, step s.edges]
      exact ih (s := ⟨after, s.edges⟩) same
  | edge e _ ih =>
      obtain ⟨result, after, step⟩ := call_addEdge s.edges e
      have here := step s.vertices
      have there := step t.vertices
      rw [same] at there
      obtain ⟨answers, final⟩ := ih (s := ⟨s.vertices, after⟩) (t := ⟨t.vertices, after⟩) rfl
      rw [List.map_cons, calls, calls, here, there]
      exact ⟨congrArg (result :: ·) answers, final⟩

end PlainStore

namespace Graph

variable {g : Graph}

/-! ## Vacant slots -/

/-- Loading leaves no slot vacant. -/
theorem Coherent.fills_of_loads (coherent : g.Coherent) (loads : Loads vs es cs) :
    g.Fills (g.calls cs).2 := by
  induction loads generalizing g with
  | done => exact .refl g
  | vertex v _ ih => exact (coherent.fills_addVertex v).trans (ih (coherent.call (.addVertex v)))
  | edge e _ ih => exact (coherent.fills_addEdge e).trans (ih (coherent.call (.addEdge e)))

/-! ## Interleavings -/

/-- What loading does to the lists of a graph, and what it answers, without the interleaving. -/
theorem Coherent.calls_of_loads (coherent : g.Coherent) (loads : Loads vs es cs) :
    (g.calls cs).1.filterMap Answer.accepted? =
        (g.plain.calls (vs.map .addVertex)).1.filterMap Answer.accepted? ∧
      (g.calls cs).1.filterMap Answer.stored? =
        (g.plain.calls (es.map .addEdge)).1.filterMap Answer.stored? ∧
      (g.calls cs).2.plain =
        ⟨(g.plain.calls (vs.map .addVertex)).2.vertices, (g.plain.calls (es.map .addEdge)).2.edges⟩ := by
  have lists := coherent.calls_eq cs
  have answers : (g.plain.calls cs).1 = (g.calls cs).1 := congrArg Prod.fst lists
  have final : (g.plain.calls cs).2 = (g.calls cs).2.plain := congrArg Prod.snd lists
  obtain ⟨accepted, vertices⟩ := PlainStore.vertices_of_loads loads (rfl : g.plain.vertices = _)
  obtain ⟨stored, edges⟩ := PlainStore.edges_of_loads loads (rfl : g.plain.edges = _)
  rw [answers] at accepted stored
  rw [final] at vertices edges
  exact ⟨accepted, stored, by rw [← vertices, ← edges]⟩

/-- **The order of loading does not show**, as long as vertices and edges are each loaded in
their own order: every call has the same answer, and the graphs read the same afterwards. -/
theorem sameReads_of_loads (reachable : g.Reachable) (first : Loads vs es cs) (second : Loads vs es ds) :
    (g.calls cs).1.filterMap Answer.accepted? = (g.calls ds).1.filterMap Answer.accepted? ∧
      (g.calls cs).1.filterMap Answer.stored? = (g.calls ds).1.filterMap Answer.stored? ∧
      (g.calls cs).2.SameReads (g.calls ds).2 := by
  have coherent := reachable.coherent
  obtain ⟨accepted, stored, plain⟩ := coherent.calls_of_loads first
  obtain ⟨accepted', stored', plain'⟩ := coherent.calls_of_loads second
  have filled := coherent.fills_of_loads first
  have filled' := coherent.fills_of_loads second
  refine ⟨accepted.trans accepted'.symm, stored.trans stored'.symm, ?_⟩
  exact (reachable.calls cs).coherent.sameReads (reachable.calls ds).coherent (plain.trans plain'.symm)
    (filled.vertexTombstones.trans filled'.vertexTombstones.symm)
    (filled.edgeTombstones.trans filled'.edgeTombstones.symm)

/-- Two that can be stored, with an id that is taken and one that is blank between them. -/
def newcomers : List Vertex :=
  [.of "dan" ["person"] "Dan", .of "ann" ["host"] "Anna", .of " " ["person"] "", .of "eve" ["person"] "Eve"]

/-- A loop and another edge that can be stored, one that is there and one without a type. -/
def introductions : List Edge :=
  [.asserted "eve" ["knows"] "eve", .asserted "dan" ["knows"] "eve", .asserted "ann" ["knows"] "bob",
    .asserted "ann" [] "eve"]

/-- The edges of a vertex come before it, and one that is there already waits for another. -/
def mixedCalls : List Call :=
  [.addEdge (.asserted "eve" ["knows"] "eve"), .addVertex (.of "dan" ["person"] "Dan"),
    .addEdge (.asserted "dan" ["knows"] "eve"), .addEdge (.asserted "ann" ["knows"] "bob"),
    .addVertex (.of "ann" ["host"] "Anna"), .addVertex (.of " " ["person"] ""),
    .addVertex (.of "eve" ["person"] "Eve"), .addEdge (.asserted "ann" [] "eve")]

theorem sameReads_of_loads_sample :
    sample.Reachable ∧ Loads newcomers introductions mixedCalls ∧
      Loads newcomers introductions (newcomers.map .addVertex ++ introductions.map .addEdge) ∧
      (sample.calls mixedCalls).2.SameReads
        (sample.calls (newcomers.map .addVertex ++ introductions.map .addEdge)).2 ∧
      (sample.calls mixedCalls).1.filterMap Answer.accepted? =
        [.ok (), .error (.duplicateVertex "ann"), .error .blankVertexId, .ok ()] ∧
      (sample.calls mixedCalls).1.filterMap Answer.stored? =
        [.ok true, .ok true, .ok false, .error (.untyped .edge)] ∧
      (sample.calls mixedCalls).2.stats = ⟨5, 7, 0, 24, 88, 1, 2⟩ := by
  have mixed : Loads newcomers introductions mixedCalls :=
    .edge _ (.vertex _ (.edge _ (.edge _ (.vertex _ (.vertex _ (.vertex _ (.edge _ .done)))))))
  have verticesFirst :
      Loads newcomers introductions (newcomers.map .addVertex ++ introductions.map .addEdge) :=
    .vertex _ (.vertex _ (.vertex _ (.vertex _ (.edge _ (.edge _ (.edge _ (.edge _ .done)))))))
  obtain ⟨-, -, reads⟩ := sameReads_of_loads sample_reachable mixed verticesFirst
  exact ⟨sample_reachable, mixed, verticesFirst, reads, by decide +kernel, by decide +kernel,
    by decide +kernel⟩

end Graph

end Trellis
