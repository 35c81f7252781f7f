/-
# Trellis.Proofs.Walk — walks through a graph

A stride is one hop of a walk: the edges that may be followed, in which
directions, and the vertex to reach. `IsWalk` says which rows are walks along
given strides, in terms of the stored vertices and edges alone; `walks` lists
them, the walks from one vertex together and each vertex's ways in order, the
outbound edges before the inbound ones and a loop once. The list has every walk
(`mem_walks`) and none twice (`Linked.nodup_ids_walks`).

A graph that has of another the elements that are kept has its walks over these, in the
same order (`Prunes.walks_eq`). When edges are hidden, these are the walks that use none
of them (`Hides.prunes`, `Row.avoids_eq_isKept`).
-/
import Trellis.Plan
import Trellis.Row
import Trellis.Proofs.Graph.Lookup

namespace Trellis

set_option autoImplicit false

open Pattern (Direction Hop)
open Plan (Triple)

/-! ## Strides -/

/-- What a pattern's node asks of a vertex. -/
def Pattern.Node.asks (n : Pattern.Node) : VertexFilter := { types := n.types, term := n.term }

structure Stride where
  edges : EdgeFilter
  direction : Direction
  target : VertexFilter
  isShown : Bool

namespace Stride

/-- The stride of a hop, when the derived edges of a generation and later ones
are hidden. -/
def ofHop (limit? : Option Nat) (h : Hop) : Stride where
  edges :=
    { types := Tag.normalize h.link.types
      inclusive := h.link.multiplicity = .allOf
      scope := if h.link.style = .path then .all else .asserted
      generationLimit := limit? }
  direction := h.link.direction
  target := h.node.asks
  isShown := h.node ≠ .hidden

/-- The same of a triple of a plan. -/
def ofTriple (limit? : Option Nat) (t : Triple) : Stride where
  edges := t.link.edgeFilter.withGenerationLimit limit?
  direction := t.link.direction
  target := t.target.filter
  isShown := t.target.isShown

theorem isShown_ofPattern (n : Pattern.Node) : (Plan.Node.ofPattern n).isShown = decide (n ≠ .hidden) := by
  cases n <;> rfl

/-- Compiling a chain keeps the strides of its hops. -/
theorem map_ofTriple_triplesFrom (limit? : Option Nat) (source : Plan.Node) (hops : List Hop) :
    (Plan.triplesFrom source hops).map (ofTriple limit?) = hops.map (ofHop limit?) := by
  induction hops generalizing source with
  | nil => rfl
  | cons hop rest ih =>
      have first : ofTriple limit? ⟨source, .ofPattern hop.link, .ofPattern hop.node⟩ =
          ofHop limit? hop := by
        have shown := isShown_ofPattern hop.node
        simp only [ofTriple, ofHop, shown]
        simp [Plan.Link.edgeFilter, Plan.Link.scope, Plan.Link.ofPattern, EdgeFilter.ofScope,
          EdgeFilter.withTypes, EdgeFilter.withInclusive, EdgeFilter.withGenerationLimit,
          Pattern.Link.isPath, Plan.Node.filter, Plan.Node.ofPattern, Pattern.Node.asks]
      rw [Plan.triplesFrom, List.map_cons, List.map_cons, first, ih]

end Stride

/-- An edge from its source to its target leads from one vertex id to another in an
orientation that the direction allows. -/
def Pattern.Direction.Leads (d : Direction) (source target id next : String) : Prop :=
  (d ≠ .inbound ∧ source = id ∧ target = next) ∨ (d ≠ .outbound ∧ target = id ∧ source = next)

namespace Graph

variable {g : Graph}

/-! ## Walks as a relation -/

/-- The elements that follow a vertex on a walk along strides. -/
inductive Continues (g : Graph) : String → List Stride → List Row.Element → Prop
  | stop (id : String) : Continues g id [] []
  | step {id : String} {s : Stride} {rest : List Stride} {e : Edge} {w : Vertex}
      {later : List Row.Element} (edge : e ∈ g.edges) (admitted : s.edges.accepts e = true)
      (leads : s.direction.Leads e.source e.target id w.id) (vertex : w ∈ g.vertices)
      (accepted : s.target.accepts w = true) (continues : Continues g w.id rest later) :
      Continues g id (s :: rest) (.edge e.id true :: .vertex w.id s.isShown :: later)

/-- A row is a walk along strides from a vertex that a filter accepts. -/
def IsWalk (g : Graph) (head : VertexFilter) (shown : Bool) (strides : List Stride) (row : Row) : Prop :=
  ∃ v ∈ g.vertices, head.accepts v = true ∧
    ∃ later, g.Continues v.id strides later ∧ row = ⟨.vertex v.id shown :: later⟩

/-! ## Walks as a list -/

/-- An edge may be followed along a stride to a vertex. -/
def fits (g : Graph) (s : Stride) (e : Edge) (next : String) : Bool :=
  s.edges.accepts e && g.isEndpoint next (some s.target)

/-- The edges to follow that have their near end at a vertex, each with the vertex at
its far end. -/
def waysAlong (g : Graph) (s : Stride) (id : String) (near far : Edge → String) :
    List (Edge × String) :=
  (g.edges.filter fun e => near e = id && g.fits s e (far e)).map fun e => (e, far e)

def waysOut (g : Graph) (s : Stride) (id : String) : List (Edge × String) :=
  g.waysAlong s id Edge.source Edge.target

def waysIn (g : Graph) (s : Stride) (id : String) : List (Edge × String) :=
  g.waysAlong s id Edge.target Edge.source

/-- The edges to follow from a vertex along a stride. A loop that is among the
outbound edges is left out of the inbound ones. -/
def ways (g : Graph) (s : Stride) (id : String) : List (Edge × String) :=
  match s.direction with
  | .outbound => g.waysOut s id
  | .inbound => g.waysIn s id
  | .both => g.waysOut s id ++ (g.waysIn s id).filter fun way => way.1.source ≠ id

/-- The elements that may follow a vertex. -/
def continuations (g : Graph) : List Stride → String → List (List Row.Element)
  | [], _ => [[]]
  | s :: rest, id =>
    (g.ways s id).flatMap fun way =>
      (g.continuations rest way.2).map fun later =>
        .edge way.1.id true :: .vertex way.2 s.isShown :: later

def walks (g : Graph) (head : VertexFilter) (shown : Bool) (strides : List Stride) : List Row :=
  (g.vertices.filter head.accepts).flatMap fun v =>
    (g.continuations strides v.id).map fun later => ⟨.vertex v.id shown :: later⟩

/-! ## The list has every walk -/

theorem mem_waysAlong {s : Stride} {id : String} {near far : Edge → String}
    {way : Edge × String} :
    way ∈ g.waysAlong s id near far ↔ way.1 ∈ g.edges ∧ near way.1 = id ∧ far way.1 = way.2 ∧
      g.fits s way.1 way.2 = true := by
  simp only [waysAlong, List.mem_map, List.mem_filter, Bool.and_eq_true, decide_eq_true_eq]
  constructor
  · rintro ⟨e, ⟨stored, leaves, fits⟩, rfl⟩
    exact ⟨stored, leaves, rfl, fits⟩
  · intro follows
    obtain ⟨stored, leaves, there, fits⟩ := follows
    exact ⟨way.1, ⟨stored, leaves, there ▸ fits⟩, Prod.ext rfl there⟩

theorem mem_waysOut {s : Stride} {id : String} {way : Edge × String} :
    way ∈ g.waysOut s id ↔ way.1 ∈ g.edges ∧ way.1.source = id ∧ way.1.target = way.2 ∧
      g.fits s way.1 way.2 = true :=
  mem_waysAlong

theorem mem_waysIn {s : Stride} {id : String} {way : Edge × String} :
    way ∈ g.waysIn s id ↔ way.1 ∈ g.edges ∧ way.1.target = id ∧ way.1.source = way.2 ∧
      g.fits s way.1 way.2 = true :=
  mem_waysAlong

theorem mem_ways {s : Stride} {id : String} {way : Edge × String} :
    way ∈ g.ways s id ↔
      way.1 ∈ g.edges ∧ s.direction.Leads way.1.source way.1.target id way.2 ∧
        g.fits s way.1 way.2 = true := by
  unfold ways
  cases s.direction with
  | outbound =>
      rw [mem_waysOut]
      simp only [Direction.Leads]
      tauto
  | inbound =>
      rw [mem_waysIn]
      simp only [Direction.Leads]
      tauto
  | both =>
      simp only [List.mem_append, List.mem_filter, mem_waysOut, mem_waysIn, decide_eq_true_eq]
      constructor
      · rintro (⟨stored, leaves, there, fits⟩ | ⟨⟨stored, enters, there, fits⟩, -⟩)
        · exact ⟨stored, Or.inl ⟨by decide, leaves, there⟩, fits⟩
        · exact ⟨stored, Or.inr ⟨by decide, enters, there⟩, fits⟩
      · rintro ⟨stored, ⟨-, leaves, there⟩ | ⟨-, enters, there⟩, fits⟩
        · exact Or.inl ⟨stored, leaves, there, fits⟩
        · by_cases loop : way.1.source = id
          · exact Or.inl ⟨stored, loop, (enters.trans loop.symm).trans there, fits⟩
          · exact Or.inr ⟨⟨stored, enters, there, fits⟩, loop⟩

theorem fits_iff {s : Stride} {e : Edge} {next : String} :
    g.fits s e next = true ↔ s.edges.accepts e = true ∧
      ∃ w ∈ g.vertices, w.id = next ∧ s.target.accepts w = true := by
  simp [fits, isEndpoint_iff]

theorem mem_continuations {strides : List Stride} {id : String} {elements : List Row.Element} :
    elements ∈ g.continuations strides id ↔ g.Continues id strides elements := by
  induction strides generalizing id elements with
  | nil =>
      rw [continuations, List.mem_singleton]
      constructor
      · rintro rfl
        exact .stop id
      · rintro ⟨⟩
        rfl
  | cons s rest ih =>
      simp only [continuations, List.mem_flatMap, List.mem_map, mem_ways, fits_iff]
      constructor
      · rintro ⟨⟨e, next⟩, ⟨edge, leads, admitted, w, vertex, rfl, accepted⟩, later, here, rfl⟩
        exact .step edge admitted leads vertex accepted (ih.mp here)
      · intro continues
        cases continues with
        | @step _ _ _ e w later edge admitted leads vertex accepted continues =>
            exact ⟨(e, w.id), ⟨edge, leads, admitted, w, vertex, rfl, accepted⟩, later,
              ih.mpr continues, rfl⟩

theorem mem_walks {head : VertexFilter} {shown : Bool} {strides : List Stride} {row : Row} :
    row ∈ g.walks head shown strides ↔ g.IsWalk head shown strides row := by
  simp only [walks, IsWalk, List.mem_flatMap, List.mem_filter, List.mem_map, mem_continuations]
  constructor
  · rintro ⟨v, ⟨stored, accepted⟩, later, continues, rfl⟩
    exact ⟨v, stored, accepted, later, continues, rfl⟩
  · rintro ⟨v, stored, accepted, later, continues, rfl⟩
    exact ⟨v, ⟨stored, accepted⟩, later, continues, rfl⟩

/-! ## The list has no walk twice -/

/-- Lists that begin with different fronts of one length are different. -/
theorem nodup_flatMap_front {α β : Type} {xs : List α} {front : α → List β}
    {rest : α → List (List β)} (apart : (xs.map front).Nodup)
    (even : ∀ x y, (front x).length = (front y).length) (inner : ∀ x, (rest x).Nodup) :
    (xs.flatMap fun x => (rest x).map (front x ++ ·)).Nodup := by
  rw [List.nodup_flatMap]
  constructor
  · intro x _
    exact (inner x).map fun _ _ same => List.append_cancel_left same
  · have apart : xs.Pairwise fun x y => front x ≠ front y := List.pairwise_map.mp apart
    refine apart.imp fun {x y} other => ?_
    intro whole here there
    obtain ⟨left, -, rfl⟩ := List.mem_map.mp here
    obtain ⟨right, -, same⟩ := List.mem_map.mp there
    exact other (List.append_inj_left same (even y x)).symm

/-- The texts that a way adds to a row. -/
def wayTexts (way : Edge × String) : List String := [way.1.id.text, way.2]

theorem Linked.nodup_waysAlong (linked : g.Linked) (s : Stride) (id : String)
    (near far : Edge → String) : (g.waysAlong s id near far).Nodup :=
  (linked.nodup_edges.filter _).map fun _ _ same => congrArg Prod.fst same

theorem Linked.nodup_waysOut (linked : g.Linked) (s : Stride) (id : String) :
    (g.waysOut s id).Nodup :=
  linked.nodup_waysAlong s id Edge.source Edge.target

theorem Linked.nodup_waysIn (linked : g.Linked) (s : Stride) (id : String) :
    (g.waysIn s id).Nodup :=
  linked.nodup_waysAlong s id Edge.target Edge.source

theorem Linked.nodup_ways (linked : g.Linked) (s : Stride) (id : String) : (g.ways s id).Nodup := by
  have out := linked.nodup_waysOut s id
  have back := linked.nodup_waysIn s id
  unfold ways
  split
  · exact out
  · exact back
  · refine List.nodup_append'.mpr ⟨out, back.filter _, fun way here there => ?_⟩
    obtain ⟨-, notLoop⟩ := List.mem_filter.mp there
    exact of_decide_eq_true notLoop (mem_waysOut.mp here).2.1

/-- The id of an edge tells its ways from all others. -/
theorem Linked.nodup_wayTexts (linked : g.Linked) {ways : List (Edge × String)} (apart : ways.Nodup)
    (stored : ∀ way ∈ ways, way.1 ∈ g.edges) : (ways.map wayTexts).Nodup := by
  apply apart.map_on
  intro way here other there same
  simp only [wayTexts, List.cons.injEq, and_true] at same
  have sameId : way.1.id = other.1.id := congrArg EdgeId.mk same.1
  exact Prod.ext (linked.edge_eq_of_id (stored way here) (stored other there) sameId) same.2

theorem Linked.nodup_ids_continuations (linked : g.Linked) (strides : List Stride) (id : String) :
    ((g.continuations strides id).map (List.map Row.Element.idText)).Nodup := by
  induction strides generalizing id with
  | nil => simp [continuations]
  | cons s rest ih =>
      have texts : (g.continuations (s :: rest) id).map (List.map Row.Element.idText) =
          (g.ways s id).flatMap fun way =>
            ((g.continuations rest way.2).map (List.map Row.Element.idText)).map (wayTexts way ++ ·) := by
        simp only [continuations, List.map_flatMap, List.map_map]
        rfl
      have apart := linked.nodup_wayTexts (linked.nodup_ways s id) fun way here =>
        (mem_ways.mp here).1
      rw [texts]
      exact nodup_flatMap_front apart (fun _ _ => rfl) fun way => ih way.2

/-- **No two walks have the same ids.** -/
theorem Linked.nodup_ids_walks (linked : g.Linked) (head : VertexFilter) (shown : Bool)
    (strides : List Stride) : ((g.walks head shown strides).map Row.ids).Nodup := by
  have texts : (g.walks head shown strides).map Row.ids =
      (g.vertices.filter head.accepts).flatMap fun v =>
        ((g.continuations strides v.id).map (List.map Row.Element.idText)).map ([v.id] ++ ·) := by
    simp only [walks, List.map_flatMap, List.map_map]
    rfl
  have apart : ((g.vertices.filter head.accepts).map fun v => [v.id]).Nodup := by
    apply (linked.nodup_vertices.filter _).map_on
    intro v here w there same
    exact linked.vertex_eq_of_id (List.mem_filter.mp here).1 (List.mem_filter.mp there).1
      (List.head_eq_of_cons_eq same)
  rw [texts]
  exact nodup_flatMap_front apart (fun _ _ => rfl) fun v => linked.nodup_ids_continuations strides v.id

theorem Linked.nodup_walks (linked : g.Linked) (head : VertexFilter) (shown : Bool)
    (strides : List Stride) : (g.walks head shown strides).Nodup :=
  (linked.nodup_ids_walks head shown strides).of_map _

end Graph

/-! ## Rows among the elements that are kept -/

/-- The vertex or the edge is among those that are kept. -/
def Row.Element.isKept (vertex : String → Bool) (edge : EdgeId → Bool) : Row.Element → Bool
  | .vertex id _ => vertex id
  | .edge id _ => edge id

def Row.isKept (vertex : String → Bool) (edge : EdgeId → Bool) (r : Row) : Bool :=
  r.elements.all (·.isKept vertex edge)

namespace Graph

variable {g h : Graph} {keepVertex : String → Bool} {keepEdge : EdgeId → Bool} {s t : Stride}

/-- Where the strides may lead, the one graph has the edges of the other that are kept
and lie between vertices that are kept. -/
structure Prunes (keepVertex : String → Bool) (keepEdge : EdgeId → Bool) (g h : Graph)
    (s t : Stride) : Prop where
  edges : g.edges.filter s.edges.accepts = (h.edges.filter t.edges.accepts).filter fun e =>
    keepEdge e.id && (keepVertex e.source && keepVertex e.target)
  direction : s.direction = t.direction
  target : s.target = t.target
  isShown : s.isShown = t.isShown

theorem flatMap_filter {α β : Type} (p : α → Bool) (f : α → List β) (xs : List α) :
    (xs.filter p).flatMap f = xs.flatMap fun x => if p x then f x else [] := by
  induction xs with
  | nil => rfl
  | cons x xs ih => cases here : p x <;> simp [here, ih]

theorem isEndpoint_of_filter (vertices : g.vertices = h.vertices.filter (keepVertex ·.id))
    (id : String) (f? : Option VertexFilter) :
    g.isEndpoint id f? = (keepVertex id && h.isEndpoint id f?) := by
  rw [Bool.eq_iff_iff, Bool.and_eq_true, isEndpoint_iff, isEndpoint_iff]
  simp only [vertices, List.mem_filter]
  constructor
  · rintro ⟨v, ⟨stored, kept⟩, rfl, accepted⟩
    exact ⟨kept, v, stored, rfl, accepted⟩
  · rintro ⟨kept, v, stored, rfl, accepted⟩
    exact ⟨v, ⟨stored, kept⟩, rfl, accepted⟩

namespace Prunes

variable (vertices : g.vertices = h.vertices.filter (keepVertex ·.id))
include vertices

/-- `near` and `far` are the two ends of an edge, in either order. -/
theorem waysAlong_eq (prunes : Prunes keepVertex keepEdge g h s t) {id : String}
    (kept : keepVertex id = true) (near far : Edge → String)
    (ends : ∀ e, (keepVertex e.source && keepVertex e.target) =
      (keepVertex (near e) && keepVertex (far e))) :
    g.waysAlong s id near far =
      (h.waysAlong t id near far).filter fun way => keepEdge way.1.id && keepVertex way.2 := by
  have split : ∀ (g : Graph) (s : Stride),
      (g.edges.filter fun e => near e = id && g.fits s e (far e)) =
        (g.edges.filter s.edges.accepts).filter fun e =>
          near e = id && g.isEndpoint (far e) (some s.target) := by
    intro g s
    rw [List.filter_filter]
    refine List.filter_congr fun e _ => ?_
    rw [fits, Bool.and_left_comm, Bool.and_comm]
  rw [waysAlong, waysAlong, split, split, prunes.edges, prunes.target, List.filter_map,
    List.filter_filter, List.filter_filter (l := h.edges.filter _)]
  refine congrArg _ (List.filter_congr fun e _ => ?_)
  rw [ends, isEndpoint_of_filter vertices, Function.comp_apply]
  by_cases here : near e = id
  · simp only [here, kept, decide_true, Bool.true_and]
    cases keepEdge e.id <;> cases keepVertex (far e) <;> simp
  · simp [here]

theorem ways_eq (prunes : Prunes keepVertex keepEdge g h s t) {id : String}
    (kept : keepVertex id = true) :
    g.ways s id = (h.ways t id).filter fun way => keepEdge way.1.id && keepVertex way.2 := by
  have out := prunes.waysAlong_eq vertices kept Edge.source Edge.target fun _ => rfl
  have back := prunes.waysAlong_eq vertices kept Edge.target Edge.source fun _ => Bool.and_comm _ _
  unfold ways waysOut waysIn
  rw [prunes.direction]
  cases t.direction with
  | outbound => exact out
  | inbound => exact back
  | both => rw [out, back, List.filter_append, List.filter_comm]

/-- From a vertex that is kept one gets on over the elements that are kept. -/
theorem continuations_eq {strides strides' : List Stride}
    (prunes : List.Forall₂ (Prunes keepVertex keepEdge g h) strides strides') {id : String}
    (kept : keepVertex id = true) :
    g.continuations strides id =
      (h.continuations strides' id).filter (·.all (·.isKept keepVertex keepEdge)) := by
  induction prunes generalizing id with
  | nil => rfl
  | cons first _ ih =>
      rw [continuations, continuations, first.ways_eq vertices kept, flatMap_filter,
        List.filter_flatMap]
      apply List.flatMap_congr
      intro way _
      rw [List.filter_map, first.isShown]
      -- a way that is not kept ends all ways on
      cases keptEdge : keepEdge way.1.id with
      | false => simp [Function.comp_def, Row.Element.isKept, keptEdge]
      | true =>
          cases keptVertex : keepVertex way.2 with
          | false => simp [Function.comp_def, Row.Element.isKept, keptVertex]
          | true => simp [Function.comp_def, Row.Element.isKept, keptEdge, keptVertex, ih keptVertex]

/-- **The walks of the pruned graph are the walks over the elements that are kept**, in
their order. -/
theorem walks_eq {strides strides' : List Stride}
    (prunes : List.Forall₂ (Prunes keepVertex keepEdge g h) strides strides') (head : VertexFilter)
    (shown : Bool) :
    g.walks head shown strides =
      (h.walks head shown strides').filter (·.isKept keepVertex keepEdge) := by
  rw [walks, walks, vertices, List.filter_comm, flatMap_filter, List.filter_flatMap]
  apply List.flatMap_congr
  intro v _
  rw [List.filter_map]
  cases kept : keepVertex v.id with
  | false => simp [Function.comp_def, Row.isKept, Row.Element.isKept, kept]
  | true =>
      rw [if_pos rfl, continuations_eq vertices prunes kept]
      simp [Function.comp_def, Row.isKept, Row.Element.isKept, kept]

end Prunes

end Graph

/-! ## Rows that avoid edges -/

/-- The element is not an edge that is to be avoided. -/
def Row.Element.avoids (hidden : EdgeId → Bool) : Row.Element → Bool
  | .vertex _ _ => true
  | .edge id _ => !hidden id

@[simp]
theorem Row.Element.avoids_vertex (hidden : EdgeId → Bool) (id : String) (shown : Bool) :
    (Row.Element.vertex id shown).avoids hidden = true := rfl

@[simp]
theorem Row.Element.avoids_edge (hidden : EdgeId → Bool) (id : EdgeId) (shown : Bool) :
    (Row.Element.edge id shown).avoids hidden = !hidden id := rfl

/-- The row uses no edge that is to be avoided. -/
def Row.avoids (hidden : EdgeId → Bool) (r : Row) : Bool := r.elements.all (·.avoids hidden)

/-- A row that avoids edges is one among the others. -/
theorem Row.avoids_eq_isKept (hidden : EdgeId → Bool) (r : Row) :
    r.avoids hidden = r.isKept (fun _ => true) (!hidden ·) := by
  have element : ∀ x : Row.Element, x.avoids hidden = x.isKept (fun _ => true) (!hidden ·) := by
    rintro (_ | _) <;> rfl
  rw [Row.avoids, Row.isKept, funext element]

namespace Graph

variable {g h : Graph} {hidden : EdgeId → Bool}

/-- Where a stride may lead, the graph has the edges of another but for the hidden ones. -/
def Hides (hidden : EdgeId → Bool) (g h : Graph) (s : Stride) : Prop :=
  g.edges.filter s.edges.accepts = (h.edges.filter s.edges.accepts).filter (!hidden ·.id)

theorem Hides.prunes {s : Stride} (hides : Hides hidden g h s) :
    Prunes (fun _ => true) (!hidden ·) g h s s where
  edges := by simpa only [Hides, Bool.and_true] using hides
  direction := rfl
  target := rfl
  isShown := rfl

variable {strides : List Stride}

theorem Continues.all_avoids (clear : ∀ e ∈ g.edges, hidden e.id = false) {id : String}
    {later : List Row.Element} (continues : g.Continues id strides later) :
    later.all (·.avoids hidden) = true := by
  induction continues with
  | stop => rfl
  | step edge _ _ _ _ _ ih => simp [clear _ edge, ih]

/-- Every walk avoids the edges that are not there. -/
theorem avoids_of_mem_walks (clear : ∀ e ∈ g.edges, hidden e.id = false) {head : VertexFilter}
    {shown : Bool} {row : Row} (here : row ∈ g.walks head shown strides) :
    row.avoids hidden = true := by
  obtain ⟨v, -, -, later, continues, rfl⟩ := mem_walks.mp here
  exact continues.all_avoids clear

end Graph

end Trellis
