/-
# Trellis.Proofs.ScopeSeparation — what bonded queries see of derivations

A session is a list of steps, and dropping its derivations gives another one. A
bonded query follows asserted edges only, so it tells the two apart only by their
asserted edges. Derivations do touch these in one way: an edge that is added when
one of its identity is there is not stored, so an asserted edge is lost to a derived
one that came first (`lossySession`).

Nothing else comes through. At every point of a session the asserted edges are those
of the session without derivations, in the same order, but for some whose identity is
held by a derived edge (`Shadows.perform`), and a query gives the same rows but for
those that use one of these (`run_eq_of_bonded`). If no step adds an edge whose
identity is held by a derived edge at the time, the rows are the same.
-/
import Trellis.Proofs.Stages

namespace Trellis

set_option autoImplicit false

open Pattern (Chain Hop)

/-! ## Bonded plans -/

/-- No hop of the plan follows derived edges. -/
def Plan.Bonded (plan : Plan) : Prop := ∀ t ∈ plan.triples, t.link.isPath = false

theorem Plan.isPath_of_mem_triplesFrom {source : Plan.Node} {hops : List Hop} {t : Plan.Triple}
    (bonded : ∀ hop ∈ hops, hop.link.style = .bonded) (here : t ∈ Plan.triplesFrom source hops) :
    t.link.isPath = false := by
  induction hops generalizing source with
  | nil => simp [Plan.triplesFrom] at here
  | cons hop rest ih =>
      obtain ⟨first, later⟩ := List.forall_mem_cons.mp bonded
      rcases List.mem_cons.mp here with rfl | there
      · simp [Plan.Link.ofPattern, Pattern.Link.isPath, first]
      · exact ih later there

/-- **A chain of bonded hops makes a bonded plan.** -/
theorem Plan.bonded_ofChain {c : Chain} (bonded : ∀ hop ∈ c.hops, hop.link.style = .bonded) :
    (Plan.ofChain c).Bonded := by
  intro t here
  unfold Plan.ofChain at here
  split at here
  · simp [Plan.triples] at here
  · exact Plan.isPath_of_mem_triplesFrom bonded here

theorem Stride.asserted_of_accepts {limit? : Option Nat} {t : Plan.Triple}
    (bonded : t.link.isPath = false) {e : Edge}
    (accepted : (Stride.ofTriple limit? t).edges.accepts e = true) : e.isDerived = false := by
  have scope : (Stride.ofTriple limit? t).edges.scope = .asserted := by
    show t.link.scope = .asserted
    rw [Plan.Link.scope, bonded]
    rfl
  simp only [EdgeFilter.accepts, scope, Scope.admits, Bool.and_eq_true, decide_eq_true_eq] at accepted
  cases derived : e.isDerived with
  | false => rfl
  | true => simp [Edge.provenance, derived] at accepted

namespace Graph

variable {g h d p : Graph} {limit? : Option Nat} {plan : Plan} {hidden : EdgeId → Bool}

/-- A bonded stride leads along the asserted edges, so it is all the same to it which
derived ones there are. -/
theorem hides_of_asserted
    (edges : g.edges.filter (!·.isDerived) = h.edges.filter (!hidden ·.id)) {t : Plan.Triple}
    (bonded : t.link.isPath = false) : Hides hidden g h (.ofTriple limit? t) := by
  have within : g.edges.filter (Stride.ofTriple limit? t).edges.accepts =
      (g.edges.filter (!·.isDerived)).filter (Stride.ofTriple limit? t).edges.accepts := by
    rw [List.filter_filter]
    refine List.filter_congr fun e _ => ?_
    cases accepted : (Stride.ofTriple limit? t).edges.accepts e with
    | false => rfl
    | true => simp [Stride.asserted_of_accepts bonded accepted]
  rw [Hides, within, edges, List.filter_comm]

/-- **A bonded query sees the asserted edges only.** -/
theorem Coherent.run_eq_filter (coherent : g.Coherent) (coherent' : h.Coherent)
    (vertices : g.vertices = h.vertices)
    (edges : g.edges.filter (!·.isDerived) = h.edges.filter (!hidden ·.id)) (bonded : plan.Bonded)
    (limit? : Option Nat) :
    g.run limit? plan = (h.run limit? plan).filter (·.avoids hidden) := by
  have prunes : ∀ t ∈ plan.triples,
      Prunes (fun _ => true) (!hidden ·) g h (.ofTriple limit? t) (.ofTriple limit? t) :=
    fun t here => (hides_of_asserted edges (bonded t here)).prunes
  rw [coherent.run_eq_filter_of_prunes coherent' (by simpa using vertices) prunes,
    funext (Row.avoids_eq_isKept hidden)]

theorem Coherent.avoids_of_mem_run (coherent : g.Coherent)
    (clear : ∀ e ∈ g.edges, hidden e.id = false) {row : Row} (here : row ∈ g.run limit? plan) :
    row.avoids hidden = true := by
  match plan with
  | .vertices filter =>
      obtain ⟨v, -, rfl⟩ := List.mem_map.mp here
      rfl
  | .walk [] => cases here
  | .walk (first :: rest) =>
      rw [run, coherent.runWalk_eq] at here
      exact avoids_of_mem_walks clear here

/-! ## Sessions -/

/-- A step of a session. The edges that are added are asserted. -/
inductive Step where
  | addVertex (v : Vertex)
  | addEdge (e : Edge) (asserted : e.isDerived = false)
  | removeVertex (id : String)
  /-- The edge is named by its identity as text. -/
  | removeEdge (raw : String)
  | compact
  | derive (rules : List Rule) (generations : Nat)

namespace Step

def isDerivation : Step → Bool
  | .derive _ _ => true
  | _ => false

/-- The graph after a step, whether it succeeds or fails. -/
def apply (g : Graph) : Step → Graph
  | .addVertex v => (g.call (.addVertex v)).2
  | .addEdge e _ => (g.call (.addEdge e)).2
  | .removeVertex id => (g.call (.removeVertex id)).2
  | .removeEdge raw => (g.call (.removeEdge raw)).2
  | .compact => (g.call .compact).2
  | .derive rules generations => (g.deriveEdges rules .derived generations).2

end Step

/-- The graph after a session. -/
def perform (g : Graph) (steps : List Step) : Graph := steps.foldl Step.apply g

/-- The session with its derivations dropped. -/
def withoutDerivations (steps : List Step) : List Step := steps.filter (!·.isDerivation)

/-- A derived edge has the id. -/
def holdsDerived (g : Graph) (id : EdgeId) : Bool := g.edges.any fun e => e.isDerived && e.id = id

/-- The step does not add an edge whose identity is held by a derived one. -/
def Step.isClear (g : Graph) : Step → Bool
  | .addEdge e _ => !g.holdsDerived e.normalized.id
  | _ => true

/-- No step of the session does, at the time it is taken. -/
def isClear (g : Graph) : List Step → Bool
  | [] => true
  | s :: rest => s.isClear g && (s.apply g).isClear rest

theorem holdsDerived_iff {id : EdgeId} :
    g.holdsDerived id = true ↔ ∃ e ∈ g.edges, e.isDerived = true ∧ e.id = id := by
  simp [holdsDerived]

theorem Coherent.apply (coherent : g.Coherent) (s : Step) : (s.apply g).Coherent := by
  cases s with
  | addVertex v => exact coherent.call _
  | addEdge e asserted => exact coherent.call _
  | removeVertex id => exact coherent.call _
  | removeEdge raw => exact coherent.call _
  | compact => exact coherent.call _
  | derive rules generations => exact coherent.deriveThrough rules .derived _ _

theorem Coherent.perform (coherent : g.Coherent) (steps : List Step) :
    (g.perform steps).Coherent := by
  induction steps generalizing g with
  | nil => exact coherent
  | cons s rest ih => exact ih (coherent.apply s)

/-- The session without derivations stays where it is while the other one derives. -/
theorem perform_withoutDerivations (p : Graph) (s : Step) (rest : List Step) :
    p.perform (withoutDerivations (s :: rest)) =
      (if s.isDerivation then p else s.apply p).perform (withoutDerivations rest) := by
  cases derivation : s.isDerivation with
  | false => simp [withoutDerivations, derivation, perform]
  | true => simp [withoutDerivations, derivation]

theorem Coherent.applyPlain (coherent : p.Coherent) (s : Step) :
    (if s.isDerivation then p else s.apply p).Coherent := by
  split
  · exact coherent
  · exact coherent.apply s

/-! ## What the two sessions have in common -/

/-- The graph of a session and that of the same session without derivations: the
asserted edges of the one are edges of the other in the same order. An edge that is
missing among them has been lost to a derived edge, if any can be lost at all. -/
structure Shadows (lost : Prop) (d p : Graph) : Prop where
  vertices : d.vertices = p.vertices
  asserted : ∀ e ∈ p.edges, e.isDerived = false
  kept : (d.edges.filter (!·.isDerived)).Sublist p.edges
  found : ∀ e ∈ p.edges, e ∈ d.edges ∨ lost ∧ d.holdsDerived e.id = true

namespace Shadows

variable {lost : Prop}

theorem refl_empty : Shadows lost empty empty where
  vertices := rfl
  asserted := by simp [Graph.edges, empty, Arena.live]
  kept := List.filter_sublist
  found := fun _ stored => Or.inl stored

/-- An asserted edge of the one graph is an edge of the other. -/
theorem mem_of_asserted (shadows : Shadows lost d p) {e : Edge} (stored : e ∈ d.edges)
    (asserted : e.isDerived = false) : e ∈ p.edges :=
  shadows.kept.subset (List.mem_filter.mpr ⟨stored, by rw [asserted]; rfl⟩)

theorem vertex?_eq (shadows : Shadows lost d p) (left : d.Coherent) (right : p.Coherent)
    (id : String) : d.vertex? id = p.vertex? id := by
  apply Option.ext
  intro v
  rw [left.toLinked.vertex?_eq_some_iff, right.toLinked.vertex?_eq_some_iff, shadows.vertices]

/-- What is found stays there when edges are added. -/
theorem found_of_append (shadows : Shadows lost d p) {d' : Graph} {added : List Edge}
    (edges : d'.edges = d.edges ++ added) {e : Edge} (there : e ∈ p.edges) :
    e ∈ d'.edges ∨ lost ∧ d'.holdsDerived e.id = true := by
  rcases shadows.found e there with here | ⟨may, held⟩
  · exact Or.inl (edges ▸ List.mem_append_left added here)
  · obtain ⟨f, here, held⟩ := holdsDerived_iff.mp held
    exact Or.inr ⟨may, holdsDerived_iff.mpr ⟨f, edges ▸ List.mem_append_left added here, held⟩⟩

/-- The same edges may go from both graphs. -/
theorem filter (shadows : Shadows lost d p) {d' p' : Graph} {keep : Edge → Bool}
    (alike : ∀ e ∈ d.edges, ∀ f ∈ p.edges, e.id = f.id → keep e = keep f)
    (vertices : d'.vertices = p'.vertices) (left : d'.edges = d.edges.filter keep)
    (right : p'.edges = p.edges.filter keep) : Shadows lost d' p' where
  vertices := vertices
  asserted e stored := shadows.asserted e (List.mem_filter.mp (right ▸ stored)).1
  kept := by
    rw [left, right, List.filter_comm]
    exact shadows.kept.filter keep
  found e stored := by
    obtain ⟨stored, stays⟩ := List.mem_filter.mp (right ▸ stored)
    rcases shadows.found e stored with here | ⟨may, held⟩
    · exact Or.inl (left ▸ List.mem_filter.mpr ⟨here, stays⟩)
    · obtain ⟨f, there, derived, same⟩ := holdsDerived_iff.mp held
      have stays' : keep f = true := (alike f there e stored same).trans stays
      exact Or.inr ⟨may, holdsDerived_iff.mpr
        ⟨f, left ▸ List.mem_filter.mpr ⟨there, stays'⟩, derived, same⟩⟩

/-- Changes that are not about edges keep the two as they are to each other. -/
theorem congr (shadows : Shadows lost d p) {d' p' : Graph} (vertices : d'.vertices = p'.vertices)
    (left : d'.edges = d.edges) (right : p'.edges = p.edges) : Shadows lost d' p' := by
  have all : ∀ edges : List Edge, edges = edges.filter fun _ => true := fun edges => by simp
  exact shadows.filter (fun _ _ _ _ _ => rfl) vertices (left.trans (all _)) (right.trans (all _))

/-! ## A step of both sessions -/

theorem addVertex (shadows : Shadows lost d p) (left : d.Coherent) (right : p.Coherent)
    (v : Vertex) : Shadows lost (d.call (.addVertex v)).2 (p.call (.addVertex v)).2 := by
  cases checked : v.normalized.check with
  | error cause => rwa [call_addVertex_of_fault checked, call_addVertex_of_fault checked]
  | ok =>
      have same : d.hasVertex v.normalized = p.hasVertex v.normalized := by
        rw [Bool.eq_iff_iff, left.toLinked.hasVertex_iff, right.toLinked.hasVertex_iff,
          shadows.vertices]
      rw [call_addVertex_of_checked checked, call_addVertex_of_checked checked, same]
      split
      · exact shadows
      · refine shadows.congr ?_ (edges_storeVertex d _) (edges_storeVertex p _)
        rw [vertices_storeVertex, vertices_storeVertex, shadows.vertices]

theorem hasEdge_of_hasEdge (shadows : Shadows lost d p) (left : d.Coherent) (right : p.Coherent)
    {e : Edge} (there : p.hasEdge e = true) : d.hasEdge e = true := by
  obtain ⟨f, stored, same⟩ := right.toLinked.hasEdge_iff.mp there
  rcases shadows.found f stored with here | ⟨-, held⟩
  · exact left.toLinked.hasEdge_iff.mpr ⟨f, here, same⟩
  · obtain ⟨f', here, -, same'⟩ := holdsDerived_iff.mp held
    exact left.toLinked.hasEdge_iff.mpr ⟨f', here, same'.trans same⟩

theorem asserted_storeEdge (shadows : Shadows lost d p) {e : Edge} (asserted : e.isDerived = false) :
    ∀ f ∈ (p.storeEdge e).edges, f.isDerived = false := by
  rw [edges_storeEdge]
  exact List.forall_mem_append.mpr ⟨shadows.asserted, by simpa using asserted⟩

theorem storeEdge (shadows : Shadows lost d p) {e : Edge} (asserted : e.isDerived = false) :
    Shadows lost (d.storeEdge e) (p.storeEdge e) where
  vertices := by rw [vertices_storeEdge, vertices_storeEdge, shadows.vertices]
  asserted := shadows.asserted_storeEdge asserted
  kept := by
    rw [edges_storeEdge, edges_storeEdge, List.filter_append]
    exact shadows.kept.append List.filter_sublist
  found := by
    have grown := edges_storeEdge d e
    rw [edges_storeEdge p e]
    refine List.forall_mem_append.mpr ⟨fun f there => shadows.found_of_append grown there, ?_⟩
    intro f new
    exact Or.inl (grown ▸ List.mem_append_right d.edges new)

/-- An edge that is stored in the one graph only, for the other has a derived edge of its
identity, is lost. -/
theorem loseEdge (shadows : Shadows lost d p) {e : Edge} (asserted : e.isDerived = false)
    (may : lost) (held : d.holdsDerived e.id = true) : Shadows lost d (p.storeEdge e) where
  vertices := by rw [vertices_storeEdge, shadows.vertices]
  asserted := shadows.asserted_storeEdge asserted
  kept := by
    rw [edges_storeEdge]
    exact shadows.kept.trans (List.sublist_append_left _ _)
  found := by
    rw [edges_storeEdge]
    exact List.forall_mem_append.mpr
      ⟨shadows.found, by simpa using Or.inr (And.intro may held)⟩

theorem addEdge (shadows : Shadows lost d p) (left : d.Coherent) (right : p.Coherent) {e : Edge}
    (asserted : e.isDerived = false) (clear : d.holdsDerived e.normalized.id = true → lost) :
    Shadows lost (d.call (.addEdge e)).2 (p.call (.addEdge e)).2 := by
  cases checked : e.normalized.check with
  | error cause => rwa [call_addEdge_of_fault checked, call_addEdge_of_fault checked]
  | ok =>
      have asserted' : e.normalized.isDerived = false := asserted
      rw [call_addEdge_of_checked checked, call_addEdge_of_checked checked]
      by_cases there : p.hasEdge e.normalized = true
      · rwa [if_pos there, if_pos (shadows.hasEdge_of_hasEdge left right there)]
      · rw [if_neg there]
        by_cases here : d.hasEdge e.normalized = true
        · obtain ⟨f, stored, same⟩ := left.toLinked.hasEdge_iff.mp here
          -- were it asserted, the other graph would have it too
          have derived : f.isDerived = true := by
            by_contra notDerived
            have both := shadows.mem_of_asserted stored (eq_false_of_ne_true notDerived)
            exact there (right.toLinked.hasEdge_iff.mpr ⟨f, both, same⟩)
          have held := holdsDerived_iff.mpr ⟨f, stored, derived, same⟩
          rw [if_pos here]
          exact shadows.loseEdge asserted' (clear held) held
        · rw [if_neg here]
          exact shadows.storeEdge asserted'

theorem removeVertex (shadows : Shadows lost d p) (left : d.Coherent) (right : p.Coherent)
    (id : String) : Shadows lost (d.call (.removeVertex id)).2 (p.call (.removeVertex id)).2 := by
  obtain ⟨-, -, vertices, edges⟩ := left.removeVertex_spec id
  obtain ⟨-, -, vertices', edges'⟩ := right.removeVertex_spec id
  have gone : (d.removeVertex id).2.vertices = (p.removeVertex id).2.vertices := by
    rw [vertices, vertices', shadows.vertices]
  rw [shadows.vertex?_eq left right] at edges
  cases found : (p.vertex? id).isSome with
  | false =>
      rw [found, if_neg Bool.false_ne_true] at edges edges'
      exact shadows.congr gone edges edges'
  | true =>
      rw [found, if_pos rfl] at edges edges'
      refine shadows.filter (fun e here f there same => ?_) gone edges edges'
      -- edges with one id have the same ends
      obtain ⟨sources, -, targets⟩ := (left.toLinked.storable_of_mem_edges here).parts_of_id_eq
        (right.toLinked.storable_of_mem_edges there) same
      rw [sources, targets]

theorem removeEdge (shadows : Shadows lost d p) (left : d.Coherent) (right : p.Coherent)
    (raw : String) : Shadows lost (d.call (.removeEdge raw)).2 (p.call (.removeEdge raw)).2 := by
  cases read : EdgeId.parse raw with
  | error cause => rwa [call_removeEdge_of_fault read, call_removeEdge_of_fault read]
  | ok id =>
      obtain ⟨after, done, -, vertices, edges⟩ := left.removeEdge_spec read
      obtain ⟨after', done', -, vertices', edges'⟩ := right.removeEdge_spec read
      simp only [call, done, done']
      refine shadows.filter (fun e _ f _ same => ?_)
        (vertices.trans (shadows.vertices.trans vertices'.symm)) edges edges'
      rw [same]

theorem compact (shadows : Shadows lost d p) (left : d.Coherent) (right : p.Coherent) :
    Shadows lost (d.call .compact).2 (p.call .compact).2 := by
  obtain ⟨-, vertices, edges⟩ := left.compact
  obtain ⟨-, vertices', edges'⟩ := right.compact
  exact shadows.congr (vertices.trans (shadows.vertices.trans vertices'.symm)) edges edges'

/-! ## A derivation in one session -/

/-- Derived edges that are new in the one graph make no difference. -/
theorem grow (shadows : Shadows lost d p) {d' : Graph} {added : List Edge}
    (vertices : d'.vertices = d.vertices) (edges : d'.edges = d.edges ++ added)
    (derived : ∀ e ∈ added, e.isDerived = true) : Shadows lost d' p where
  vertices := vertices.trans shadows.vertices
  asserted := shadows.asserted
  kept := by
    have none_ : added.filter (!·.isDerived) = [] :=
      List.filter_eq_nil_iff.mpr fun e new => by simp [derived e new]
    rw [edges, List.filter_append, none_, List.append_nil]
    exact shadows.kept
  found _ there := shadows.found_of_append edges there

theorem insertEdges (shadows : Shadows lost d p) (left : d.Coherent) {es : List Edge}
    (derived : ∀ e ∈ es, e.isDerived = true) : Shadows lost (d.insertEdges es).2 p := by
  induction es generalizing d with
  | nil => exact shadows
  | cons e es ih =>
      obtain ⟨first, later⟩ := List.forall_mem_cons.mp derived
      rw [Graph.insertEdges]
      split
      · exact shadows
      · next isNew stored done =>
          obtain ⟨coherent, vertices, edges⟩ := left.insertEdge done
          refine ih ?_ coherent later
          cases isNew with
          | false => exact shadows.congr (vertices.trans shadows.vertices) edges rfl
          | true =>
              have derived' : e.normalized.isDerived = true := first
              exact shadows.grow vertices edges (by simpa using derived')

theorem runGeneration (shadows : Shadows lost d p) (left : d.Coherent) (rules : List Rule)
    (generation : Nat) : Shadows lost (d.runGeneration rules .derived generation).2 p := by
  apply shadows.insertEdges left
  intro e here
  obtain ⟨r, -, candidate⟩ := List.mem_flatMap.mp here
  exact isDerived_of_mem_candidates candidate

theorem deriveThrough (shadows : Shadows lost d p) (left : d.Coherent) (rules : List Rule)
    (generations : List Nat) (report : Report) :
    Shadows lost (Graph.deriveThrough rules .derived generations report d).2 p := by
  induction generations generalizing d report with
  | nil => exact shadows
  | cons generation rest ih =>
      have step := shadows.runGeneration left rules generation
      have coherent := left.runGeneration rules .derived generation
      rw [Graph.deriveThrough]
      split
      · next cause after failed => rwa [failed] at step
      · next created after done =>
          rw [done] at step coherent
          exact ih step coherent _

/-! ## Whole sessions -/

/-- **What the two sessions have in common, a step keeps.** A derivation is a step of
one of them only. -/
theorem apply (shadows : Shadows lost d p) (left : d.Coherent) (right : p.Coherent) (s : Step)
    (clear : s.isClear d = false → lost) :
    Shadows lost (s.apply d) (if s.isDerivation then p else s.apply p) := by
  cases s with
  | addVertex v => exact shadows.addVertex left right v
  | addEdge e asserted =>
      exact shadows.addEdge left right asserted fun held => clear (by simp [Step.isClear, held])
  | removeVertex id => exact shadows.removeVertex left right id
  | removeEdge raw => exact shadows.removeEdge left right raw
  | compact => exact shadows.compact left right
  | derive rules generations => exact shadows.deriveThrough left rules _ _

theorem perform (shadows : Shadows lost d p) (left : d.Coherent) (right : p.Coherent)
    (steps : List Step) (clear : d.isClear steps = false → lost) :
    Shadows lost (d.perform steps) (p.perform (withoutDerivations steps)) := by
  induction steps generalizing d p with
  | nil => exact shadows
  | cons s rest ih =>
      have next := shadows.apply left right s fun unclear => clear (by simp [isClear, unclear])
      have later : (s.apply d).isClear rest = false → lost := fun unclear =>
        clear (by simp [isClear, unclear])
      rw [perform_withoutDerivations]
      exact ih next (left.apply s) (right.applyPlain s) later

/-- No asserted edge has the identity of a derived one. -/
theorem notHeld_of_mem (shadows : Shadows lost d p) (left : d.Coherent) {e : Edge}
    (here : e ∈ d.edges) (there : e ∈ p.edges) : d.holdsDerived e.id = false := by
  by_contra held
  obtain ⟨f, stored, derived, same⟩ := holdsDerived_iff.mp (eq_true_of_ne_false held)
  obtain rfl := left.toLinked.edge_eq_of_id stored here same
  rw [shadows.asserted f there] at derived
  cases derived

/-- **The asserted edges of the one graph are those of the other that no derived edge
stands in for.** -/
theorem edges_eq (shadows : Shadows lost d p) (left : d.Coherent) (right : p.Coherent) :
    d.edges.filter (!·.isDerived) = p.edges.filter (!d.holdsDerived ·.id) := by
  have both : ∀ e, e ∈ d.edges.filter (!·.isDerived) ↔ e ∈ p.edges.filter (!d.holdsDerived ·.id) := by
    intro e
    simp only [List.mem_filter, Bool.not_eq_true']
    constructor
    · rintro ⟨here, asserted⟩
      have there := shadows.mem_of_asserted here asserted
      exact ⟨there, shadows.notHeld_of_mem left here there⟩
    · rintro ⟨there, notHeld⟩
      rcases shadows.found e there with here | ⟨-, held⟩
      · exact ⟨here, shadows.asserted e there⟩
      · rw [notHeld] at held
        cases held
  have perm := (List.perm_ext_iff_of_nodup (left.toLinked.nodup_edges.filter _)
    (right.toLinked.nodup_edges.filter _)).mpr both
  -- the one is a sublist of the other and as long
  have within : d.edges.filter (!·.isDerived) =
      (d.edges.filter (!·.isDerived)).filter (!d.holdsDerived ·.id) :=
    (List.filter_eq_self.mpr fun e here => (List.mem_filter.mp ((both e).mp here)).2).symm
  refine List.Sublist.eq_of_length ?_ perm.length_eq
  rw [within]
  exact shadows.kept.filter _

end Shadows

/-- **Scope separation over whole sessions.** A bonded query gives the rows that it gives
in the session without derivations, in the same order, but for those that use an edge
whose identity is held by a derived edge; it gives the same rows if no step adds an edge
whose identity is held by a derived one at the time. A point of a session is a session
itself, so this holds at every point. -/
theorem run_eq_of_bonded (steps : List Step) (limit? : Option Nat) (bonded : plan.Bonded) :
    (empty.perform steps).run limit? plan =
        ((empty.perform (withoutDerivations steps)).run limit? plan).filter
          (·.avoids (empty.perform steps).holdsDerived) ∧
      (empty.isClear steps = true →
        (empty.perform steps).run limit? plan =
          (empty.perform (withoutDerivations steps)).run limit? plan) := by
  have left := coherent_empty.perform steps
  have right := coherent_empty.perform (withoutDerivations steps)
  have shadows : Shadows True (empty.perform steps) (empty.perform (withoutDerivations steps)) :=
    Shadows.refl_empty.perform coherent_empty coherent_empty steps fun _ => trivial
  have rows := left.run_eq_filter right shadows.vertices
    (shadows.edges_eq left right) bonded limit?
  refine ⟨rows, fun clear => ?_⟩
  have all : Shadows False (empty.perform steps) (empty.perform (withoutDerivations steps)) :=
    Shadows.refl_empty.perform coherent_empty coherent_empty steps fun unclear => by
      rw [clear] at unclear
      cases unclear
  rw [rows]
  apply List.filter_eq_self.mpr
  intro row here
  refine right.avoids_of_mem_run (fun e there => ?_) here
  have kept : e ∈ (empty.perform steps).edges := (all.found e there).resolve_right And.left
  exact all.notHeld_of_mem left kept there

/-! ## An edge that is lost -/

/-- Whoever is known by somebody one knows, one knows as well. -/
def circleRule : Rule where
  name := "circle"
  antecedent := ⟨.walk [sampleTriple "knows" .outbound, sampleTriple "knows" .outbound]⟩
  production := ⟨.first, .third, ["knows"]⟩

theorem circleRule_compiled : ∀ r ∈ [circleRule], ∃ s : RuleSpec, s.compile = .ok r := by
  intro r rule
  obtain rfl := List.mem_singleton.mp rule
  exact ⟨⟨some "circle", "()[knows]>()[knows]>()", "(1)[knows](3)"⟩, by decide +kernel⟩

/-- Three people in a row, and what the rule makes of them. -/
def circle : List Step := [
  .addVertex (.of "ann" ["person"] "Ann"),
  .addVertex (.of "bob" ["person"] "Bob"),
  .addVertex (.of "cyd" ["person"] "Cyd"),
  .addEdge (.asserted "ann" ["knows"] "bob") rfl,
  .addEdge (.asserted "bob" ["knows"] "cyd") rfl,
  .derive [circleRule] 2]

/-- People and whom they are said to know. -/
def acquaintances : Chain where
  head := .typed ["person"]
  hops := [⟨⟨.typed, .bonded, false, true, ["knows"], .anyOf⟩, .any⟩]

theorem acquaintances_bonded : (Plan.ofChain acquaintances).Bonded :=
  Plan.bonded_ofChain (by decide)

/-- The derived edge goes before an edge of its identity is added. -/
def clearSession : List Step :=
  circle ++ [
    .removeEdge "ann>knows>cyd",
    .addEdge (.asserted "ann" ["knows"] "cyd") rfl,
    .removeVertex "bob",
    .compact]

theorem run_eq_of_bonded_clear :
    (Plan.ofChain acquaintances).Bonded ∧ empty.isClear clearSession = true ∧
      (empty.perform clearSession).run none (.ofChain acquaintances) =
        (empty.perform (withoutDerivations clearSession)).run none (.ofChain acquaintances) ∧
      ((empty.perform clearSession).run none (.ofChain acquaintances)).map (·.ids) =
        [["ann", "ann>knows>cyd", "cyd"]] := by
  have clear : empty.isClear clearSession = true := by decide +kernel
  exact ⟨acquaintances_bonded, clear,
    (run_eq_of_bonded clearSession none acquaintances_bonded).2 clear, by decide +kernel⟩

/-- Now it is there when the edge is added. -/
def lossySession : List Step := circle ++ [.addEdge (.asserted "ann" ["knows"] "cyd") rfl]

/-- **A derivation may cost a bonded query a row.** The edge that is added last is not
stored after the derivation, and is without it. -/
theorem bonded_row_lost :
    (∃ s : RuleSpec, s.compile = .ok circleRule) ∧ (Plan.ofChain acquaintances).Bonded ∧
      ((empty.perform lossySession).run none (.ofChain acquaintances)).map (·.ids) =
        [["ann", "ann>knows>bob", "bob"], ["bob", "bob>knows>cyd", "cyd"]] ∧
      ((empty.perform (withoutDerivations lossySession)).run none
          (.ofChain acquaintances)).map (·.ids) =
        [["ann", "ann>knows>bob", "bob"], ["ann", "ann>knows>cyd", "cyd"],
          ["bob", "bob>knows>cyd", "cyd"]] ∧
      (empty.perform lossySession).run none (.ofChain acquaintances) ≠
        (empty.perform (withoutDerivations lossySession)).run none (.ofChain acquaintances) :=
  ⟨⟨⟨some "circle", "()[knows]>()[knows]>()", "(1)[knows](3)"⟩, by decide +kernel⟩,
    acquaintances_bonded, by decide +kernel, by decide +kernel, by decide +kernel⟩

end Graph

end Trellis
