/-
# Trellis.Proofs.Resolve — rows that are resolved later

A row of a run can be resolved on the graph that it came from, and gives the elements
that it shows. Resolving looks up what is shown and nothing else, so a hidden vertex is
never asked for. But in a row every vertex has an edge of the row at it, and edges are
always shown (`Tied`); and where nothing is added, an edge does not stay longer than the
vertices at its ends (`Shrinks`). So when a hidden vertex has gone, the edge at it has gone
too, and resolving the row fails there (`resolve_run`).

Edges are looked up by their ids as texts. That these are read as what they are is
`Edge.Storable.parse_id`; without it a stale row would be a malformed one.
-/
import Trellis.Proofs.EdgeIdentity
import Trellis.Proofs.Query
import Trellis.Resolve

namespace Trellis

set_option autoImplicit false

open Trellis.Graph (Call)

/-! ## One element -/

/-- The error of looking up an element that is not stored. -/
def Row.Element.missing : Row.Element → Error
  | .vertex id _ => .missing .vertex id
  | .edge id _ => .missing .edge id.text

/-- The text of the element can be read; that of a vertex need not be. -/
def Row.Element.Readable : Row.Element → Prop
  | .vertex _ _ => True
  | .edge id _ => EdgeId.parse id.text = .ok id

namespace Graph

variable {g h k : Graph}

/-- The element of a row is in the graph. -/
def Stores (g : Graph) : Row.Element → Prop
  | .vertex id _ => ∃ v ∈ g.vertices, v.id = id
  | .edge id _ => ∃ e ∈ g.edges, e.id = id

instance (g : Graph) : DecidablePred g.Stores
  | .vertex id _ => inferInstanceAs (Decidable (∃ v ∈ g.vertices, v.id = id))
  | .edge id _ => inferInstanceAs (Decidable (∃ e ∈ g.edges, e.id = id))

/-- The value is the vertex or the edge of the graph that the element names. -/
def Denotes (g : Graph) : Row.Element → Resolved → Prop
  | .vertex id _, .vertex v => v ∈ g.vertices ∧ v.id = id
  | .edge id _, .edge e => e ∈ g.edges ∧ e.id = id
  | _, _ => False

theorem stores_iff_denotes {x : Row.Element} : g.Stores x ↔ ∃ value, g.Denotes x value := by
  cases x with
  | vertex id shown =>
      constructor
      · rintro ⟨v, stored, named⟩
        exact ⟨.vertex v, stored, named⟩
      · rintro ⟨v | e, here⟩
        · exact ⟨v, here⟩
        · exact here.elim
  | edge id shown =>
      constructor
      · rintro ⟨e, stored, named⟩
        exact ⟨.edge e, stored, named⟩
      · rintro ⟨v | e, here⟩
        · exact here.elim
        · exact ⟨e, here⟩

theorem Linked.readable (linked : g.Linked) {x : Row.Element} (stored : g.Stores x) :
    x.Readable := by
  cases x with
  | vertex id shown => trivial
  | edge id shown =>
      obtain ⟨e, stored, rfl⟩ := stored
      exact (linked.storable_of_mem_edges stored).parse_id

/-- **An element that is stored is found**, an edge by way of its text. -/
theorem Linked.resolveElement_of_denotes (linked : g.Linked) {x : Row.Element} {value : Resolved}
    (here : g.Denotes x value) : g.resolveElement x = .ok value := by
  match x, value, here with
  | .vertex id _, .vertex v, here =>
      rw [resolveElement, linked.vertex?_eq_some_iff.mpr here]
  | .edge id _, .edge e, here =>
      have read : EdgeId.parse id.text = .ok id :=
        linked.readable (stores_iff_denotes.mpr ⟨.edge e, here⟩)
      rw [resolveElement, findEdge, read, Except.map_ok, linked.edge?_eq_some_iff.mpr here]

/-- **An element that is not stored is missing**, not malformed. -/
theorem Linked.resolveElement_of_gone (linked : g.Linked) {x : Row.Element} (readable : x.Readable)
    (gone : ¬g.Stores x) : g.resolveElement x = .error x.missing := by
  cases x with
  | vertex id shown =>
      have none_ : g.vertex? id = none := Option.eq_none_iff_forall_ne_some.mpr fun v found =>
        gone ⟨v, linked.vertex?_eq_some_iff.mp found⟩
      rw [resolveElement, none_]
      rfl
  | edge id shown =>
      have none_ : g.edge? id = none := Option.eq_none_iff_forall_ne_some.mpr fun e found =>
        gone ⟨e, linked.edge?_eq_some_iff.mp found⟩
      have read : EdgeId.parse id.text = .ok id := readable
      rw [resolveElement, findEdge, read, Except.map_ok, none_]
      rfl

/-- What two elements of one name denote is the same. -/
theorem Linked.eq_of_denotes (linked : g.Linked) {x : Row.Element} {value other : Resolved}
    (here : g.Denotes x value) (here' : g.Denotes x other) : value = other :=
  Except.ok.inj ((linked.resolveElement_of_denotes here).symm.trans
    (linked.resolveElement_of_denotes here'))

/-! ## What a row is like -/

/-- The elements are stored, the edges are shown, and a vertex that is hidden has one of the
edges at it. -/
structure Tied (g : Graph) (elements : List Row.Element) : Prop where
  stored : ∀ x ∈ elements, g.Stores x
  edgesShown : ∀ id, .edge id false ∉ elements
  anchored : ∀ id, .vertex id false ∈ elements →
    ∃ e ∈ g.edges, .edge e.id true ∈ elements ∧ (e.source = id ∨ e.target = id)

/-- What follows a vertex on a walk is tied, and if anything does, then the vertex is as well. -/
theorem Continues.tied {id : String} {strides : List Stride} {later : List Row.Element}
    (continues : g.Continues id strides later) :
    g.Tied later ∧ (strides ≠ [] →
      ∃ e ∈ g.edges, .edge e.id true ∈ later ∧ (e.source = id ∨ e.target = id)) := by
  induction continues with
  | stop id => exact ⟨⟨by simp, by simp, by simp⟩, fun some_ => absurd rfl some_⟩
  | @step id s rest e w later edge _ leads vertex _ _ ih =>
      obtain ⟨tied, -⟩ := ih
      have near : e.source = id ∨ e.target = id := by
        rcases leads with ⟨-, leaves, -⟩ | ⟨-, enters, -⟩
        · exact Or.inl leaves
        · exact Or.inr enters
      have far : e.source = w.id ∨ e.target = w.id := by
        rcases leads with ⟨-, -, enters⟩ | ⟨-, -, leaves⟩
        · exact Or.inr enters
        · exact Or.inl leaves
      refine ⟨⟨?_, ?_, ?_⟩, fun _ => ⟨e, edge, List.mem_cons_self, near⟩⟩
      · exact List.forall_mem_cons.mpr ⟨⟨e, edge, rfl⟩,
          List.forall_mem_cons.mpr ⟨⟨w, vertex, rfl⟩, tied.stored⟩⟩
      · intro hidden
        simpa using tied.edgesShown hidden
      · intro hidden here
        simp only [List.mem_cons, reduceCtorEq, false_or] at here
        rcases here with same | here
        · obtain rfl : hidden = w.id := (Row.Element.vertex.inj same).1
          exact ⟨e, edge, List.mem_cons_self, far⟩
        · obtain ⟨f, edge', member, touches⟩ := tied.anchored hidden here
          exact ⟨f, edge', List.mem_cons_of_mem _ (List.mem_cons_of_mem _ member), touches⟩

theorem Coherent.tied_of_mem_run (coherent : g.Coherent) {limit? : Option Nat} {plan : Plan} {row : Row}
    (found : row ∈ g.run limit? plan) : g.Tied row.elements := by
  match plan with
  | .vertices filter =>
      rw [run, coherent.toLinked.filterVertices_eq] at found
      obtain ⟨v, here, rfl⟩ := List.mem_map.mp found
      have stored : v ∈ g.vertices := (List.mem_filter.mp here).1
      refine ⟨?_, by simp [Row.start], by simp [Row.start]⟩
      rintro x here
      obtain rfl := List.mem_singleton.mp here
      exact ⟨v, stored, rfl⟩
  | .walk [] => cases found
  | .walk (first :: rest) =>
      rw [run, coherent.runWalk_eq] at found
      obtain ⟨v, stored, -, later, continues, rfl⟩ := mem_walks.mp found
      obtain ⟨tied, anchor⟩ := continues.tied
      refine ⟨List.forall_mem_cons.mpr ⟨⟨v, stored, rfl⟩, tied.stored⟩, ?_, ?_⟩
      · intro hidden
        simpa using tied.edgesShown hidden
      · intro hidden here
        rcases List.mem_cons.mp here with same | here
        · obtain rfl : hidden = v.id := (Row.Element.vertex.inj same).1
          obtain ⟨e, edge, member, touches⟩ := anchor (by simp)
          exact ⟨e, edge, List.mem_cons_of_mem _ member, touches⟩
        · obtain ⟨e, edge, member, touches⟩ := tied.anchored hidden here
          exact ⟨e, edge, List.mem_cons_of_mem _ member, touches⟩

/-! ## Graphs to which nothing is added -/

/-- Nothing is there that was not there before, and an edge is there only with the vertices
that were at its ends. -/
structure Shrinks (g h : Graph) : Prop where
  vertices : h.vertices ⊆ g.vertices
  edges : h.edges ⊆ g.edges
  ends : ∀ e ∈ h.edges, ∀ v ∈ g.vertices, e.source = v.id ∨ e.target = v.id → v ∈ h.vertices

theorem Shrinks.refl (g : Graph) : g.Shrinks g :=
  ⟨List.Subset.refl _, List.Subset.refl _, fun _ _ _ stored _ => stored⟩

theorem Shrinks.trans (first : g.Shrinks h) (second : h.Shrinks k) : g.Shrinks k where
  vertices := List.Subset.trans second.vertices first.vertices
  edges := List.Subset.trans second.edges first.edges
  ends e edge v stored touches :=
    second.ends e edge v (first.ends e (second.edges edge) v stored touches) touches

def Call.isAddition : Call → Bool
  | .addVertex _ | .addVertices _ | .addEdge _ | .addEdges _ => true
  | .removeVertex _ | .removeEdge _ | .compact => false

theorem Coherent.shrinks_call (coherent : g.Coherent) {c : Call} (removes : c.isAddition = false) :
    g.Shrinks (g.call c).2 := by
  cases c with
  | addVertex v => cases removes
  | addVertices vs => cases removes
  | addEdge e => cases removes
  | addEdges es => cases removes
  | removeVertex id =>
      obtain ⟨-, -, vertices, edges⟩ := coherent.removeVertex_spec id
      show g.Shrinks (g.removeVertex id).2
      cases found : g.vertex? id with
      | none =>
          rw [coherent.toLinked.filter_vertices_of_missing found] at vertices
          rw [found, Option.isSome_none, if_neg Bool.false_ne_true] at edges
          exact ⟨vertices ▸ List.Subset.refl _, edges ▸ List.Subset.refl _,
            fun _ _ _ stored _ => vertices ▸ stored⟩
      | some v =>
          rw [found, Option.isSome_some, if_pos rfl] at edges
          refine ⟨vertices ▸ List.filter_sublist.subset, edges ▸ List.filter_sublist.subset, ?_⟩
          intro e edge w stored touches
          rw [edges, List.mem_filter, decide_eq_true_eq] at edge
          rw [vertices, List.mem_filter, decide_eq_true_eq]
          refine ⟨stored, fun same => ?_⟩
          rcases touches with leaves | enters
          · exact edge.2.1 (leaves.trans same)
          · exact edge.2.2 (enters.trans same)
  | removeEdge raw =>
      cases read : EdgeId.parse raw with
      | error cause =>
          rw [call_removeEdge_of_fault read]
          exact Shrinks.refl g
      | ok id =>
          obtain ⟨after, removed, -, vertices, edges⟩ := coherent.removeEdge_spec read
          have final : (g.call (.removeEdge raw)).2 = after := by rw [Graph.call, removed]
          rw [final]
          exact ⟨vertices ▸ List.Subset.refl _, edges ▸ List.filter_sublist.subset,
            fun _ _ _ stored _ => vertices ▸ stored⟩
  | compact =>
      obtain ⟨-, vertices, edges⟩ := coherent.compact
      exact ⟨vertices ▸ List.Subset.refl _, edges ▸ List.Subset.refl _,
        fun _ _ _ stored _ => vertices ▸ stored⟩

theorem Coherent.shrinks_calls (coherent : g.Coherent) {cs : List Call}
    (removes : ∀ c ∈ cs, c.isAddition = false) : g.Shrinks (g.calls cs).2 := by
  induction cs generalizing g with
  | nil => exact Shrinks.refl g
  | cons c rest ih =>
      obtain ⟨first, later⟩ := List.forall_mem_cons.mp removes
      exact (coherent.shrinks_call first).trans (ih (coherent.call c) later)

/-- An element that stays is what it was. -/
theorem Shrinks.denotes (shrinks : g.Shrinks h) (before : g.Linked) {x : Row.Element}
    {value : Resolved} (here : g.Denotes x value) (stays : h.Stores x) : h.Denotes x value := by
  obtain ⟨other, now⟩ := stores_iff_denotes.mp stays
  have then_ : g.Denotes x other := by
    match x, other, now with
    | .vertex _ _, .vertex _, now => exact ⟨shrinks.vertices now.1, now.2⟩
    | .edge _ _, .edge _, now => exact ⟨shrinks.edges now.1, now.2⟩
  rw [before.eq_of_denotes here then_]
  exact now

/-- **When anything of a row has gone, something that it shows has gone.** -/
theorem Shrinks.exists_shown (shrinks : g.Shrinks h) (before : g.Linked) {row : Row}
    (tied : g.Tied row.elements) {x : Row.Element} (here : x ∈ row.elements)
    (gone : ¬h.Stores x) : ∃ y ∈ row.projected, ¬h.Stores y := by
  match x, here with
  | .vertex id true, here => exact ⟨_, List.mem_filter.mpr ⟨here, rfl⟩, gone⟩
  | .edge id true, here => exact ⟨_, List.mem_filter.mpr ⟨here, rfl⟩, gone⟩
  | .edge id false, here => exact absurd here (tied.edgesShown id)
  | .vertex id false, here =>
      obtain ⟨e, edge, member, touches⟩ := tied.anchored id here
      refine ⟨.edge e.id true, List.mem_filter.mpr ⟨member, rfl⟩, ?_⟩
      rintro ⟨f, stays, same⟩
      obtain rfl := before.edge_eq_of_id (shrinks.edges stays) edge same
      obtain ⟨v, stored, rfl⟩ := tied.stored _ here
      exact gone ⟨v, shrinks.ends f stays v stored touches, rfl⟩

/-! ## Rows -/

/-- A row whose shown elements are stored is resolved to them. -/
theorem Linked.resolve_of_denotes (linked : g.Linked) {row : Row} {values : List Resolved}
    (here : List.Forall₂ g.Denotes row.projected values) : g.resolve row = .ok values :=
  mapM_eq_ok_iff.mpr (here.imp fun _ _ => linked.resolveElement_of_denotes)

/-- A row with a shown element that is not stored fails at the first of these. -/
theorem Linked.resolve_of_gone (linked : g.Linked) {row : Row}
    (readable : ∀ x ∈ row.projected, x.Readable) {y : Row.Element} (shown : y ∈ row.projected)
    (gone : ¬g.Stores y) :
    ∃ before x after, row.projected = before ++ x :: after ∧ (∀ z ∈ before, g.Stores z) ∧
      ¬g.Stores x ∧ g.resolve row = .error x.missing := by
  cases done : g.resolve row with
  | ok values =>
      obtain ⟨value, -, found⟩ := exists_of_mem_forall₂ (mapM_eq_ok_iff.mp done) shown
      rw [linked.resolveElement_of_gone (readable y shown) gone] at found
      cases found
  | error cause =>
      obtain ⟨before, x, after, split, passed, rejected⟩ := exists_of_mapM_error done
      rw [split, List.forall_mem_append, List.forall_mem_cons] at readable
      obtain ⟨readBefore, readThis, -⟩ := readable
      have notStored : ¬g.Stores x := by
        intro stored
        obtain ⟨value, here⟩ := stores_iff_denotes.mp stored
        rw [linked.resolveElement_of_denotes here] at rejected
        cases rejected
      rw [linked.resolveElement_of_gone readThis notStored] at rejected
      obtain rfl := Except.error.inj rejected
      refine ⟨before, x, after, split, fun z here => ?_, notStored, rfl⟩
      by_contra gone
      obtain ⟨value, found⟩ := passed z here
      rw [linked.resolveElement_of_gone (readBefore z here) gone] at found
      cases found

/-- A row whose shown elements are stored can be resolved. -/
theorem Linked.exists_resolve (linked : g.Linked) {row : Row}
    (stored : ∀ x ∈ row.projected, g.Stores x) :
    ∃ values, g.resolve row = .ok values ∧ List.Forall₂ g.Denotes row.projected values := by
  cases done : g.resolve row with
  | error cause =>
      obtain ⟨before, x, after, split, -, rejected⟩ := exists_of_mapM_error done
      obtain ⟨value, here⟩ := stores_iff_denotes.mp (stored x (by simp [split]))
      rw [linked.resolveElement_of_denotes here] at rejected
      cases rejected
  | ok values =>
      have pairs := (List.forall₂_and_left _ _).mpr ⟨stored, mapM_eq_ok_iff.mp done⟩
      refine ⟨values, rfl, pairs.imp ?_⟩
      rintro x value ⟨stored, read⟩
      obtain ⟨other, here⟩ := stores_iff_denotes.mp stored
      rw [linked.resolveElement_of_denotes here] at read
      obtain rfl := Except.ok.inj read
      exact here

/-- **A row can be resolved as long as all of it is stored.** On the graph that it comes from
it gives the stored elements that it shows, in order. When nothing is added from then on, it
gives the same as long as every element of it is there, hidden ones included, and else it
fails at the first shown element that is missing. -/
theorem resolve_run (reachable : g.Reachable) {limit? : Option Nat} {plan : Plan} {row : Row}
    (found : row ∈ g.run limit? plan) :
    ∃ values, g.resolve row = .ok values ∧ List.Forall₂ g.Denotes row.projected values ∧
      ∀ cs : List Call, (∀ c ∈ cs, c.isAddition = false) →
        let later := (g.calls cs).2
        (later.resolve row = .ok values ↔ ∀ x ∈ row.elements, later.Stores x) ∧
          ((∃ x ∈ row.elements, ¬later.Stores x) →
            ∃ before x after, row.projected = before ++ x :: after ∧
              (∀ y ∈ before, later.Stores y) ∧ ¬later.Stores x ∧
              later.resolve row = .error x.missing) := by
  have coherent := reachable.coherent
  have linked := coherent.toLinked
  have tied := coherent.tied_of_mem_run found
  have shown : ∀ x ∈ row.projected, x ∈ row.elements := fun x here => (List.mem_filter.mp here).1
  obtain ⟨values, resolved, denotes⟩ :=
    linked.exists_resolve fun x here => tied.stored x (shown x here)
  refine ⟨values, resolved, denotes, fun cs removes => ?_⟩
  intro later
  have shrinks : g.Shrinks later := coherent.shrinks_calls removes
  have after : later.Linked := (reachable.calls cs).coherent.toLinked
  have readable : ∀ x ∈ row.projected, x.Readable := fun x here =>
    linked.readable (tied.stored x (shown x here))
  have shownGone : (∃ x ∈ row.elements, ¬later.Stores x) →
      ∃ y ∈ row.projected, ¬later.Stores y := by
    rintro ⟨x, here, gone⟩
    exact shrinks.exists_shown linked tied here gone
  refine ⟨⟨fun done => ?_, fun stays => ?_⟩, fun gone => ?_⟩
  · by_contra gone
    push Not at gone
    obtain ⟨y, member, gone⟩ := shownGone gone
    obtain ⟨-, x, -, -, -, -, failed⟩ := after.resolve_of_gone readable member gone
    rw [done] at failed
    cases failed
  · have stays' : ∀ x ∈ row.projected, later.Stores x := fun x here => stays x (shown x here)
    have pairs := (List.forall₂_and_left _ _).mpr ⟨stays', denotes⟩
    exact after.resolve_of_denotes
      (pairs.imp fun _ _ here => shrinks.denotes linked here.2 here.1)
  · obtain ⟨y, member, gone⟩ := shownGone gone
    exact after.resolve_of_gone readable member gone

/-- Bob knows himself, and knows and likes Cyd, whom the row does not show. -/
def hiddenRow : Row :=
  ⟨[.vertex "bob" true, .edge ⟨"bob>knows>bob"⟩ true, .vertex "bob" true,
    .edge ⟨"bob>knows,likes>cyd"⟩ true, .vertex "cyd" false]⟩

/-- Ann is not in the row and may go. When Cyd goes, it is the edge to Cyd that is missed. -/
theorem resolve_run_hidden :
    sample.Reachable ∧ hiddenRow ∈ sample.run none (.ofChain sampleChain) ∧
      ∃ values, sample.resolve hiddenRow = .ok values ∧
        let later := (sample.calls [.removeVertex "ann", .compact]).2
        later.resolve hiddenRow = .ok values ∧
          (later.calls [.removeVertex "cyd"]).2.resolve hiddenRow =
            .error (.missing .edge "bob>knows,likes>cyd") := by
  have found : hiddenRow ∈ sample.run none (.ofChain sampleChain) := by decide +kernel
  obtain ⟨values, resolved, -, later⟩ := resolve_run sample_reachable found
  obtain ⟨kept, -⟩ := later [.removeVertex "ann", .compact] (by decide)
  exact ⟨sample_reachable, found, values, resolved, kept.mpr (by decide +kernel), by decide +kernel⟩

end Graph

end Trellis
