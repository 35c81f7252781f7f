/-
# Trellis.Proofs.PlainStore — the graph as two lists

A plain store is a list of vertices and a list of edges, each in order of
insertion, and nothing else: every operation searches the lists. A coherent
graph stands for the plain store of its living elements (`Graph.plain`), and
every call does to the one what it does to the other (`Coherent.call_eq`). So
whatever calls are made of the empty graph, the answers are those of the plain
store and all reads agree afterwards (`calls_agree`): slots, indexes, pending
edges and compactions are never seen.
-/
import Trellis.Proofs.EdgeIdentity
import Trellis.Proofs.Graph.Reachable

namespace Trellis

set_option autoImplicit false

open Trellis.Graph (Call Answer)

/-! ## Lists of distinct keys -/

section Keys

variable {α κ : Type} [DecidableEq κ] {key : α → κ} {xs : List α}

theorem find?_eq_some_iff_of_nodup (apart : (xs.map key).Nodup) {k : κ} {x : α} :
    xs.find? (key · = k) = some x ↔ x ∈ xs ∧ key x = k := by
  induction xs with
  | nil => simp
  | cons y xs ih =>
      obtain ⟨new, apart⟩ := List.nodup_cons.mp apart
      rw [List.find?_cons]
      by_cases here : key y = k
      · simp only [here, decide_true, Option.some.injEq, List.mem_cons]
        constructor
        · rintro rfl
          exact ⟨Or.inl rfl, here⟩
        · rintro ⟨rfl | later, same⟩
          · rfl
          · exact absurd (List.mem_map.mpr ⟨x, later, same.trans here.symm⟩) new
      · simp only [here, decide_false, ih apart, List.mem_cons]
        constructor
        · rintro ⟨later, same⟩
          exact ⟨Or.inr later, same⟩
        · rintro ⟨rfl | later, same⟩
          · exact absurd same here
          · exact ⟨later, same⟩

/-- Taking out the first element with a key takes out all there are. -/
theorem eraseP_eq_filter_of_nodup (apart : (xs.map key).Nodup) (k : κ) :
    xs.eraseP (key · = k) = xs.filter (key · ≠ k) := by
  induction xs with
  | nil => rfl
  | cons y xs ih =>
      obtain ⟨new, apart⟩ := List.nodup_cons.mp apart
      by_cases here : key y = k
      · have others : ∀ x ∈ xs, key x ≠ k := fun x later same =>
          new (List.mem_map.mpr ⟨x, later, same.trans here.symm⟩)
        rw [List.eraseP_cons_of_pos (by simpa using here), List.filter_cons_of_neg (by simpa using here)]
        exact (List.filter_eq_self.mpr fun x later => by simpa using others x later).symm
      · rw [List.eraseP_cons_of_neg (by simpa using here), List.filter_cons_of_pos (by simpa using here),
          ih apart]

end Keys

/-! ## Plain stores -/

structure PlainStore where
  vertices : List Vertex := []
  edges : List Edge := []

namespace PlainStore

def vertex? (s : PlainStore) (id : String) : Option Vertex := s.vertices.find? (·.id = id)

def edge? (s : PlainStore) (id : EdgeId) : Option Edge := s.edges.find? (·.id = id)

def findEdge (s : PlainStore) (raw : String) : Except EdgeIdError (Option Edge) :=
  s.edge? <$> EdgeId.parse raw

def verticesById (s : PlainStore) (ids : List String) : List Vertex := ids.filterMap s.vertex?

def edgesById (s : PlainStore) (ids : List EdgeId) : List Edge := ids.filterMap s.edge?

/-- Appends the normal form, unless it has a fault or its id is taken. -/
def insertVertex (s : PlainStore) (v : Vertex) : Except InputError PlainStore := do
  let v := v.normalized
  v.check
  if s.vertices.any (·.id = v.id) then .error (.duplicateVertex v.id)
  return { s with vertices := s.vertices ++ [v] }

/-- Appends the normal form, unless it has a fault or its identity is taken. -/
def insertEdge (s : PlainStore) (e : Edge) : Except InputError (Bool × PlainStore) := do
  let e := e.normalized
  e.check
  return if s.edges.any (·.identity = e.identity) then (false, s)
    else (true, { s with edges := s.edges ++ [e] })

def insertVertices (s : PlainStore) : List Vertex → Except InputError Nat × PlainStore
  | [] => (.ok 0, s)
  | v :: rest =>
    match s.insertVertex v with
    | .error cause => (.error cause, s)
    | .ok stored =>
      let (count, final) := insertVertices stored rest
      ((· + 1) <$> count, final)

def insertEdges (s : PlainStore) : List Edge → Except InputError Nat × PlainStore
  | [] => (.ok 0, s)
  | e :: rest =>
    match s.insertEdge e with
    | .error cause => (.error cause, s)
    | .ok (isNew, stored) =>
      let (count, final) := insertEdges stored rest
      ((· + isNew.toNat) <$> count, final)

/-- The vertex goes, and with it every edge from it or to it. -/
def removeVertex (s : PlainStore) (id : String) : Option Vertex × PlainStore :=
  match s.vertex? id with
  | none => (none, s)
  | some v =>
    (some v, ⟨s.vertices.eraseP (·.id = id), s.edges.filter fun e => e.source ≠ id ∧ e.target ≠ id⟩)

/-- One edge goes, if the text identifies one. -/
def removeEdge (s : PlainStore) (raw : String) : Except EdgeIdError (Option Edge × PlainStore) := do
  let id ← EdgeId.parse raw
  return (s.edge? id, { s with edges := s.edges.eraseP (·.id = id) })

/-- The answer of a call and the store after it. -/
def call (s : PlainStore) : Call → Answer × PlainStore
  | .addVertex v =>
    match s.insertVertex v with
    | .error cause => (.accepted (.error cause), s)
    | .ok after => (.accepted (.ok ()), after)
  | .addVertices vs =>
    let (result, after) := s.insertVertices vs
    (.counted result, after)
  | .addEdge e =>
    match s.insertEdge e with
    | .error cause => (.stored (.error cause), s)
    | .ok (isNew, after) => (.stored (.ok isNew), after)
  | .addEdges es =>
    let (result, after) := s.insertEdges es
    (.counted result, after)
  | .removeVertex id =>
    let (result, after) := s.removeVertex id
    (.removedVertex result, after)
  | .removeEdge raw =>
    match s.removeEdge raw with
    | .error cause => (.removedEdge (.error cause), s)
    | .ok (result, after) => (.removedEdge (.ok result), after)
  | .compact => (.done, s)

def calls (s : PlainStore) : List Call → List Answer × PlainStore
  | [] => ([], s)
  | c :: rest =>
    let (answer, after) := s.call c
    let (answers, final) := after.calls rest
    (answer :: answers, final)

/-- Every read of the graph gives what the same read of the store gives. -/
structure Agrees (g : Graph) (s : PlainStore) : Prop where
  vertex? : ∀ id, g.vertex? id = s.vertex? id
  findEdge : ∀ raw, g.findEdge raw = s.findEdge raw
  verticesById : ∀ ids, g.verticesById ids = s.verticesById ids
  edgesById : ∀ ids, g.edgesById ids = s.edgesById ids
  vertices : g.vertices = s.vertices
  edges : g.edges = s.edges

end PlainStore

namespace Graph

/-- The living elements of a graph as lists. -/
def plain (g : Graph) : PlainStore := ⟨g.vertices, g.edges⟩

namespace Coherent

variable {g : Graph}

/-! ## Reads -/

theorem vertex?_eq (coherent : g.Coherent) (id : String) : g.vertex? id = g.plain.vertex? id := by
  apply Option.ext
  intro v
  exact coherent.toLinked.vertex?_eq_some_iff.trans
    (find?_eq_some_iff_of_nodup coherent.toLinked.nodup_vertexIds).symm

theorem edge?_eq (coherent : g.Coherent) (id : EdgeId) : g.edge? id = g.plain.edge? id := by
  apply Option.ext
  intro e
  exact coherent.toLinked.edge?_eq_some_iff.trans
    (find?_eq_some_iff_of_nodup coherent.toLinked.nodup_edgeIds).symm

theorem agrees (coherent : g.Coherent) : PlainStore.Agrees g g.plain where
  vertex? := coherent.vertex?_eq
  findEdge raw := congrArg (· <$> EdgeId.parse raw) (funext coherent.edge?_eq)
  verticesById ids := congrArg (ids.filterMap ·) (funext coherent.vertex?_eq)
  edgesById ids := congrArg (ids.filterMap ·) (funext coherent.edge?_eq)
  vertices := rfl
  edges := rfl

/-! ## Insertions -/

theorem hasVertex_eq (coherent : g.Coherent) (v : Vertex) :
    g.hasVertex v = g.plain.vertices.any (·.id = v.id) := by
  rw [Bool.eq_iff_iff, coherent.toLinked.hasVertex_iff]
  simp [plain]

/-- The id of an edge is taken when its identity is. -/
theorem hasEdge_eq (coherent : g.Coherent) {e : Edge} (storable : e.Storable) :
    g.hasEdge e = g.plain.edges.any (·.identity = e.identity) := by
  rw [Bool.eq_iff_iff, coherent.toLinked.hasEdge_iff, List.any_eq_true]
  simp only [decide_eq_true_eq]
  constructor
  · rintro ⟨f, stored, same⟩
    exact ⟨f, stored,
      ((coherent.toLinked.storable_of_mem_edges stored).id_eq_iff storable).mp same⟩
  · rintro ⟨f, stored, same⟩
    exact ⟨f, stored,
      ((coherent.toLinked.storable_of_mem_edges stored).id_eq_iff storable).mpr same⟩

theorem insertVertex_eq (coherent : g.Coherent) (v : Vertex) :
    g.plain.insertVertex v = plain <$> g.insertVertex v := by
  cases checked : v.normalized.check with
  | error cause =>
      rw [insertVertex_of_fault checked, PlainStore.insertVertex, checked]
      rfl
  | ok =>
      rw [insertVertex_of_checked checked, PlainStore.insertVertex, checked,
        ← coherent.hasVertex_eq]
      cases g.hasVertex v.normalized with
      | true => rfl
      | false =>
          have stored : (g.storeVertex v.normalized).plain =
              { g.plain with vertices := g.plain.vertices ++ [v.normalized] } := by
            rw [plain, vertices_storeVertex, edges_storeVertex]
            rfl
          exact congrArg Except.ok stored.symm

theorem insertEdge_eq (coherent : g.Coherent) (e : Edge) :
    g.plain.insertEdge e = Prod.map id plain <$> g.insertEdge e := by
  cases checked : e.normalized.check with
  | error cause =>
      rw [insertEdge_of_fault checked, PlainStore.insertEdge, checked]
      rfl
  | ok =>
      rw [insertEdge_of_checked checked, PlainStore.insertEdge, checked,
        ← coherent.hasEdge_eq ⟨⟨e, rfl⟩, checked⟩]
      cases g.hasEdge e.normalized with
      | true => rfl
      | false =>
          have stored : (g.storeEdge e.normalized).plain =
              { g.plain with edges := g.plain.edges ++ [e.normalized] } := by
            rw [plain, vertices_storeEdge, edges_storeEdge]
            rfl
          exact congrArg (fun after => Except.ok (true, after)) stored.symm

theorem insertVertices_eq (coherent : g.Coherent) (vs : List Vertex) :
    g.plain.insertVertices vs = Prod.map id plain (g.insertVertices vs) := by
  induction vs generalizing g with
  | nil => rfl
  | cons v vs ih =>
      rw [PlainStore.insertVertices, coherent.insertVertex_eq, Graph.insertVertices]
      cases done : g.insertVertex v with
      | error cause => rfl
      | ok after =>
          simp only [Except.map_ok, ih (coherent.insertVertex done).1]
          rfl

theorem insertEdges_eq (coherent : g.Coherent) (es : List Edge) :
    g.plain.insertEdges es = Prod.map id plain (g.insertEdges es) := by
  induction es generalizing g with
  | nil => rfl
  | cons e es ih =>
      rw [PlainStore.insertEdges, coherent.insertEdge_eq, Graph.insertEdges]
      cases done : g.insertEdge e with
      | error cause => rfl
      | ok result =>
          simp only [Except.map_ok, Prod.map, ih (coherent.insertEdge done).1]
          rfl

/-! ## Removals -/

theorem removeVertex_eq (coherent : g.Coherent) (key : String) :
    g.plain.removeVertex key = Prod.map id plain (g.removeVertex key) := by
  obtain ⟨answer, -, vertices, edges⟩ := coherent.removeVertex_spec key
  have one : g.plain.vertices.eraseP (·.id = key) = g.vertices.filter (·.id ≠ key) :=
    eraseP_eq_filter_of_nodup coherent.toLinked.nodup_vertexIds key
  refine Prod.ext ?_ ?_
  · show (g.plain.removeVertex key).1 = (g.removeVertex key).1
    rw [answer, coherent.vertex?_eq, PlainStore.removeVertex]
    split
    · next missing => exact missing.symm
    · next v found => exact found.symm
  · have after : (g.removeVertex key).2.plain = ⟨g.vertices.filter (·.id ≠ key),
        if (g.plain.vertex? key).isSome then g.edges.filter fun e => e.source ≠ key ∧ e.target ≠ key
        else g.edges⟩ := by rw [plain, vertices, edges, coherent.vertex?_eq]
    show (g.plain.removeVertex key).2 = (g.removeVertex key).2.plain
    rw [after, PlainStore.removeVertex, ← one]
    split
    · next missing =>
        -- no vertex has the id, so none goes
        have others : ∀ v ∈ g.plain.vertices, ¬(v.id = key) := by
          simpa [PlainStore.vertex?, List.find?_eq_none] using missing
        rw [missing, List.eraseP_of_forall_not (by simpa using others)]
        rfl
    · next v found => rw [found, Option.isSome_some, if_pos rfl, plain]

theorem removeEdge_eq (coherent : g.Coherent) (raw : String) :
    g.plain.removeEdge raw = Prod.map id plain <$> g.removeEdge raw := by
  cases read : EdgeId.parse raw with
  | error cause =>
      rw [PlainStore.removeEdge, Graph.removeEdge, read]
      rfl
  | ok key =>
      obtain ⟨after, removed, -, vertices, edges⟩ := coherent.removeEdge_spec read
      have one : g.plain.edges.eraseP (·.id = key) = after.edges :=
        (eraseP_eq_filter_of_nodup coherent.toLinked.nodup_edgeIds key).trans edges.symm
      have step : g.plain.removeEdge raw =
          .ok (g.plain.edge? key, { g.plain with edges := g.plain.edges.eraseP (·.id = key) }) := by
        rw [PlainStore.removeEdge, read]
        rfl
      rw [step, removed, one, coherent.edge?_eq, Except.map_ok, Prod.map, plain, plain, vertices]
      rfl

/-! ## Calls -/

/-- **Every call does to the lists what it does to the graph.** -/
theorem call_eq (coherent : g.Coherent) (c : Call) :
    g.plain.call c = Prod.map id plain (g.call c) := by
  cases c with
  | addVertex v =>
      rw [PlainStore.call, coherent.insertVertex_eq, Graph.call]
      cases g.insertVertex v <;> rfl
  | addVertices vs =>
      rw [PlainStore.call, coherent.insertVertices_eq, Graph.call]
      rfl
  | addEdge e =>
      rw [PlainStore.call, coherent.insertEdge_eq, Graph.call]
      cases g.insertEdge e <;> rfl
  | addEdges es =>
      rw [PlainStore.call, coherent.insertEdges_eq, Graph.call]
      rfl
  | removeVertex key =>
      rw [PlainStore.call, coherent.removeVertex_eq, Graph.call]
      rfl
  | removeEdge raw =>
      rw [PlainStore.call, coherent.removeEdge_eq, Graph.call]
      cases g.removeEdge raw <;> rfl
  | compact =>
      obtain ⟨-, vertices, edges⟩ := coherent.compact
      show (Answer.done, g.plain) = (Answer.done, g.compact.plain)
      rw [plain, plain, vertices, edges]

theorem calls_eq (coherent : g.Coherent) (cs : List Call) :
    g.plain.calls cs = Prod.map id plain (g.calls cs) := by
  induction cs generalizing g with
  | nil => rfl
  | cons c rest ih =>
      have step := coherent.call_eq c
      have later := ih (coherent.call c)
      rw [PlainStore.calls, step, Graph.calls]
      simp only [Prod.map, id] at later ⊢
      rw [later]

end Coherent

/-- **A graph cannot be told from a plain store**: the calls have the same answers,
and after the last of them every read gives the same. -/
theorem calls_agree (cs : List Call) :
    (empty.calls cs).1 = (PlainStore.calls {} cs).1 ∧
      PlainStore.Agrees (empty.calls cs).2 (PlainStore.calls {} cs).2 := by
  have same : PlainStore.calls {} cs = Prod.map id plain (empty.calls cs) :=
    coherent_empty.calls_eq cs
  have final : (empty.calls cs).2.Coherent := (Reachable.empty.calls cs).coherent
  rw [same]
  exact ⟨rfl, final.agrees⟩

end Graph

end Trellis
