/-
# Trellis.Proofs.Incremental — deriving on the way and deriving at the end

A session that only adds elements may derive as it goes or leave the deriving to the
end. The two graphs differ on the way. An edge that was derived early has a generation
on record that may be too late for it, so the first generations of the next derivation
do not see it; and an asserted edge whose identity is taken by a derived one is not
stored. Neither loses an edge for good. Whatever was added is there under its identity
(`Shadows.identities_subset`), and whatever was derived lies in the saturation of what
was added (`DerivedWithin.perform`), so both graphs have one saturation. A derivation
that goes on for long enough ends there (`deriveEdges_withoutDerivations`).
-/
import Trellis.Proofs.Saturation
import Trellis.Proofs.ScopeSeparation

namespace Trellis.Graph

set_option autoImplicit false

variable {g d p : Graph} {rules : List Rule}

/-! ## Sessions that only add -/

/-- The step adds a vertex or an edge, or derives by the given rules. -/
def Step.addsBy (rules : List Rule) : Step → Bool
  | .addVertex _ | .addEdge _ _ => true
  | .derive own _ => own = rules
  | .removeVertex _ | .removeEdge _ | .compact => false

theorem mem_identities_storeEdge {e : Edge} {i : Edge.Identity} :
    i ∈ (g.storeEdge e).identities ↔ i ∈ g.identities ∨ e.identity = i := by
  simp only [identities, edges_storeEdge, List.mem_append, List.mem_singleton, Set.mem_ofPred_eq]
  constructor
  · rintro ⟨f, old | rfl, rfl⟩
    · exact Or.inl ⟨f, old, rfl⟩
    · exact Or.inr rfl
  · rintro (⟨f, old, rfl⟩ | rfl)
    · exact ⟨f, Or.inl old, rfl⟩
    · exact ⟨e, Or.inr rfl, rfl⟩

/-- **An edge that is added has its identity among those stored**, unless it has a fault;
whether it was new makes no difference. -/
theorem Coherent.mem_identities_addEdge (coherent : g.Coherent) {e : Edge} {i : Edge.Identity} :
    i ∈ (g.call (.addEdge e)).2.identities ↔
      i ∈ g.identities ∨ e.normalized.check = .ok () ∧ e.normalized.identity = i := by
  cases checked : e.normalized.check with
  | error cause => simp [call_addEdge_of_fault checked]
  | ok =>
      have storable : e.normalized.Storable := ⟨⟨e, rfl⟩, checked⟩
      rw [call_addEdge_of_checked checked, and_iff_right rfl]
      split
      · next taken =>
          obtain ⟨f, stored, sameId⟩ := coherent.toLinked.hasEdge_iff.mp taken
          have same : f.identity = e.normalized.identity :=
            ((coherent.toLinked.storable_of_mem_edges stored).id_eq_iff storable).mp sameId
          exact (or_iff_left_of_imp fun itself => ⟨f, stored, same.trans itself⟩).symm
      · exact mem_identities_storeEdge

theorem identities_addVertex (g : Graph) (v : Vertex) :
    (g.call (.addVertex v)).2.identities = g.identities := by
  rw [identities, edges_addVertex, identities]

/-! ## The session and the one without derivations -/

/-- Every edge of the session without derivations has its identity in the other one. -/
theorem Shadows.identities_subset {lost : Prop} (shadows : Shadows lost d p) (left : d.Coherent)
    (right : p.Coherent) : p.identities ⊆ d.identities := by
  rintro i ⟨e, stored, rfl⟩
  rcases shadows.found e stored with kept | ⟨-, held⟩
  · exact ⟨e, kept, rfl⟩
  · obtain ⟨f, here, -, sameId⟩ := holdsDerived_iff.mp held
    have same := ((left.toLinked.storable_of_mem_edges here).id_eq_iff
      (right.toLinked.storable_of_mem_edges stored)).mp sameId
    exact ⟨f, here, same⟩

/-- Every edge of the one graph can be derived from those of the other. -/
def DerivedWithin (rules : List Rule) (d p : Graph) : Prop :=
  d.identities ⊆ saturation rules p.vertices p.identities

namespace DerivedWithin

/-- What a step that adds elements or derives does to the two graphs. -/
theorem apply (within : DerivedWithin rules d p) (wellFormed : ∀ r ∈ rules, r.WellFormed)
    (left : d.Coherent) (right : p.Coherent) (vertices : d.vertices = p.vertices) {s : Step}
    (adds : s.addsBy rules = true) :
    DerivedWithin rules (s.apply d) (if s.isDerivation then p else s.apply p) := by
  cases s with
  | addVertex v =>
      show (d.call (.addVertex v)).2.identities ⊆
        saturation rules (p.call (.addVertex v)).2.vertices (p.call (.addVertex v)).2.identities
      rw [identities_addVertex, identities_addVertex]
      exact within.trans (saturation_mono (p.vertices_subset_addVertex v) (Set.Subset.refl _))
  | addEdge e asserted =>
      show (d.call (.addEdge e)).2.identities ⊆
        saturation rules (p.call (.addEdge e)).2.vertices (p.call (.addEdge e)).2.identities
      rw [vertices_addEdge]
      intro i here
      rcases left.mem_identities_addEdge.mp here with old | new
      · have kept : p.identities ⊆ (p.call (.addEdge e)).2.identities := fun j old =>
          right.mem_identities_addEdge.mpr (Or.inl old)
        exact saturation_mono (List.Subset.refl _) kept (within old)
      · exact subset_saturation (right.mem_identities_addEdge.mpr (Or.inr new))
  | derive own generations =>
      obtain rfl : own = rules := of_decide_eq_true adds
      show (d.deriveEdges own .derived generations).2.identities ⊆
        saturation own p.vertices p.identities
      rw [left.deriveEdges_eq wellFormed]
      exact left.identities_advance_subset wellFormed within (vertices ▸ closed_saturation) _
  | removeVertex id => cases adds
  | removeEdge raw => cases adds
  | compact => cases adds

theorem perform (within : DerivedWithin rules d p) (wellFormed : ∀ r ∈ rules, r.WellFormed)
    (left : d.Coherent) (right : p.Coherent) (shadows : Shadows True d p) {steps : List Step}
    (adds : ∀ s ∈ steps, s.addsBy rules = true) :
    DerivedWithin rules (d.perform steps) (p.perform (withoutDerivations steps)) := by
  induction steps generalizing d p with
  | nil => exact within
  | cons s rest ih =>
      obtain ⟨first, later⟩ := List.forall_mem_cons.mp adds
      have next := within.apply wellFormed left right shadows.vertices first
      have shadows' := shadows.apply left right s fun _ => trivial
      rw [perform_withoutDerivations]
      exact ih next (left.apply s) (right.applyPlain s) shadows' later

end DerivedWithin

/-- **Deriving on the way comes to the same as deriving at the end**, as soon as the last
derivation goes on for long enough. -/
theorem deriveEdges_withoutDerivations
    (compiled : ∀ r ∈ rules, ∃ s : RuleSpec, s.compile = .ok r) {steps : List Step}
    (adds : ∀ s ∈ steps, s.addsBy rules = true) :
    ∃ enough, ∀ n ≥ enough, ∃ report report' incremental scratch,
      (empty.perform steps).deriveEdges rules .derived n = (.ok report, incremental) ∧
      (empty.perform (withoutDerivations steps)).deriveEdges rules .derived n =
        (.ok report', scratch) ∧
      incremental.identities = scratch.identities := by
  have wellFormed := wellFormed_of_compiled compiled
  have left := coherent_empty.perform steps
  have right := coherent_empty.perform (withoutDerivations steps)
  have shadows : Shadows True (empty.perform steps) (empty.perform (withoutDerivations steps)) :=
    Shadows.refl_empty.perform coherent_empty coherent_empty steps fun _ => trivial
  have within : DerivedWithin rules (empty.perform steps)
      (empty.perform (withoutDerivations steps)) :=
    DerivedWithin.perform subset_saturation wellFormed coherent_empty coherent_empty
      Shadows.refl_empty adds
  obtain ⟨enough, saturated⟩ := left.eventually_saturated wellFormed
  obtain ⟨enough', saturated'⟩ := right.eventually_saturated wellFormed
  refine ⟨max enough enough', fun n long => ⟨_, _, _, _, left.deriveEdges_eq wellFormed n,
    right.deriveEdges_eq wellFormed n, ?_⟩⟩
  have one := saturated n ((Nat.le_max_left _ _).trans long)
  have other := saturated' n ((Nat.le_max_right _ _).trans long)
  rw [one.identities_advance left wellFormed, other.identities_advance right wellFormed,
    shadows.vertices]
  exact saturation_eq_of_between (shadows.identities_subset left right) within

/-- One person is said to know another. -/
def acquaint (source target : String) : Step := .addEdge (.asserted source ["knows"] target) rfl

/-- People are added one after the other and whom they know before that, with derivations
in between. What is said last of Ann has been derived before. -/
def piecemeal : List Step := [
  acquaint "ann" "bob",
  acquaint "bob" "cyd",
  .addVertex (.of "ann" ["person"] "Ann"),
  .addVertex (.of "bob" ["person"] "Bob"),
  .derive [circleRule] 2,
  .addVertex (.of "cyd" ["person"] "Cyd"),
  acquaint "cyd" "dan",
  .addVertex (.of "dan" ["person"] "Dan"),
  .derive [circleRule] 2,
  acquaint "ann" "dan",
  acquaint "dan" "eve",
  .addVertex (.of "eve" ["person"] "Eve")]

/-- After one more generation the graphs still differ, and after two they do not. -/
theorem deriveEdges_withoutDerivations_piecemeal :
    (∀ r ∈ [circleRule], ∃ s : RuleSpec, s.compile = .ok r) ∧
      (∀ s ∈ piecemeal, s.addsBy [circleRule] = true) ∧
      (∃ enough, ∀ n ≥ enough,
        ((empty.perform piecemeal).deriveEdges [circleRule] .derived n).2.identities =
          ((empty.perform (withoutDerivations piecemeal)).deriveEdges [circleRule]
            .derived n).2.identities) ∧
      ([1, 2].map fun n => ((empty.perform piecemeal).deriveEdges [circleRule] .derived n).2.edges.map
          fun e => (e.id.text, e.generation)) =
        [[("ann>knows>bob", none), ("bob>knows>cyd", none), ("cyd>knows>dan", none),
            ("ann>knows>cyd", some 1), ("bob>knows>dan", some 1), ("ann>knows>dan", some 2),
            ("dan>knows>eve", none), ("cyd>knows>eve", some 1)],
          [("ann>knows>bob", none), ("bob>knows>cyd", none), ("cyd>knows>dan", none),
            ("ann>knows>cyd", some 1), ("bob>knows>dan", some 1), ("ann>knows>dan", some 2),
            ("dan>knows>eve", none), ("cyd>knows>eve", some 1), ("ann>knows>eve", some 2),
            ("bob>knows>eve", some 2)]] ∧
      ([1, 2].map fun n => ((empty.perform (withoutDerivations piecemeal)).deriveEdges [circleRule]
          .derived n).2.edges.map fun e => (e.id.text, e.generation)) =
        [[("ann>knows>bob", none), ("bob>knows>cyd", none), ("cyd>knows>dan", none),
            ("ann>knows>dan", none), ("dan>knows>eve", none), ("ann>knows>cyd", some 1),
            ("ann>knows>eve", some 1), ("bob>knows>dan", some 1), ("cyd>knows>eve", some 1)],
          [("ann>knows>bob", none), ("bob>knows>cyd", none), ("cyd>knows>dan", none),
            ("ann>knows>dan", none), ("dan>knows>eve", none), ("ann>knows>cyd", some 1),
            ("ann>knows>eve", some 1), ("bob>knows>dan", some 1), ("cyd>knows>eve", some 1),
            ("bob>knows>eve", some 2)]] := by
  have adds : ∀ s ∈ piecemeal, s.addsBy [circleRule] = true := by decide +kernel
  obtain ⟨enough, agree⟩ := deriveEdges_withoutDerivations circleRule_compiled adds
  refine ⟨circleRule_compiled, adds, ⟨enough, fun n long => ?_⟩, by decide +kernel, by decide +kernel⟩
  obtain ⟨report, report', incremental, scratch, ran, ran', same⟩ := agree n long
  rw [ran, ran']
  exact same

end Trellis.Graph
