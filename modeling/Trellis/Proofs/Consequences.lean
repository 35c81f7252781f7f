/-
# Trellis.Proofs.Consequences — what rules make of a set of edges

Over given vertices a rule matches in a set of edges when two of them lead through
three vertices that its slots accept, and each match makes an edge. `consequences`
adds the edges that rules make to a set, and `stage n` does so n times; `saturation`
is the least set with the edges to which there is nothing to add. Edges are taken by
identity, so provenance and generations play no part.
-/
import Mathlib.Order.Bounds.Defs
import Trellis.Proofs.EdgeIdentity
import Trellis.Proofs.Rule
import Trellis.Proofs.Walk

namespace Trellis

set_option autoImplicit false

/-- One of three, by the position of a slot. -/
def Pattern.Slot.pick {α : Type} (s : Pattern.Slot) (a b c : α) : α :=
  match s with
  | .first => a
  | .second => b
  | .third => c

/-- What holds of all three holds of the one that is picked. -/
theorem Pattern.Slot.pick_of {α : Type} {P : α → Prop} {a b c : α} (first : P a) (second : P b)
    (third : P c) (s : Pattern.Slot) : P (s.pick a b c) :=
  match s with
  | .first => first
  | .second => second
  | .third => third

/-- An edge filter is content with a set of types. -/
def EdgeFilter.Admits (f : EdgeFilter) (types : Finset String) : Prop :=
  f.types = [] ∨ if f.inclusive then ∀ t ∈ f.types, t ∈ types else ∃ t ∈ f.types, t ∈ types

/-- Some edge of a set leads along a link from one vertex to another. -/
def Plan.Link.Connects (l : Plan.Link) (edges : Set Edge.Identity) (v w : Vertex) : Prop :=
  ∃ i ∈ edges, l.edgeFilter.Admits i.types ∧ l.direction.Leads i.source i.target v.id w.id

namespace Rule

/-- Three vertices match the antecedent of a rule in a set of edges. -/
def Matches (r : Rule) (vertices : List Vertex) (edges : Set Edge.Identity) (a b c : Vertex) : Prop :=
  (a ∈ vertices ∧ b ∈ vertices ∧ c ∈ vertices) ∧
    ∃ t u, r.antecedent.plan = .walk [t, u] ∧
      (t.source.filter.accepts a = true ∧ t.target.filter.accepts b = true ∧
        u.target.filter.accepts c = true) ∧
      t.link.Connects edges a b ∧ u.link.Connects edges b c

/-- The edge that a match makes: between two of its slots, with the types of the
production. -/
def product (r : Rule) (a b c : Vertex) : Edge.Identity where
  source := (r.production.source.pick a b c).id
  types := r.production.types.toFinset
  target := (r.production.target.pick a b c).id

/-- A match stays a match when there are more vertices and more edges. -/
theorem Matches.mono {r : Rule} {vertices moreVertices : List Vertex}
    {edges moreEdges : Set Edge.Identity} {a b c : Vertex} (matched : r.Matches vertices edges a b c)
    (vertices_grow : vertices ⊆ moreVertices) (edges_grow : edges ⊆ moreEdges) :
    r.Matches moreVertices moreEdges a b c := by
  obtain ⟨⟨first, second, third⟩, t, u, plan, accepted, ⟨i, here, fits⟩, ⟨j, there, fits'⟩⟩ := matched
  exact ⟨⟨vertices_grow first, vertices_grow second, vertices_grow third⟩, t, u, plan, accepted,
    ⟨i, edges_grow here, fits⟩, ⟨j, edges_grow there, fits'⟩⟩

theorem Matches.pick_mem {r : Rule} {vertices : List Vertex} {edges : Set Edge.Identity}
    {a b c : Vertex} (matched : r.Matches vertices edges a b c) (slot : Pattern.Slot) :
    slot.pick a b c ∈ vertices :=
  Pattern.Slot.pick_of matched.1.1 matched.1.2.1 matched.1.2.2 slot

end Rule

variable {rules : List Rule} {vertices moreVertices : List Vertex}
  {edges moreEdges : Set Edge.Identity}

/-- What rules make of the matches in a set of edges. -/
def products (rules : List Rule) (vertices : List Vertex) (edges : Set Edge.Identity) :
    Set Edge.Identity :=
  { i | ∃ r ∈ rules, ∃ a b c, r.Matches vertices edges a b c ∧ i = r.product a b c }

theorem products_congr {rules' : List Rule} (same : ∀ r, r ∈ rules ↔ r ∈ rules') :
    products rules vertices edges = products rules' vertices edges := by
  simp only [products, same]

theorem products_mono (vertices_grow : vertices ⊆ moreVertices) (edges_grow : edges ⊆ moreEdges) :
    products rules vertices edges ⊆ products rules moreVertices moreEdges := by
  rintro i ⟨r, rule, a, b, c, matched, same⟩
  exact ⟨r, rule, a, b, c, matched.mono vertices_grow edges_grow, same⟩

/-- The consequence operator of rules over vertices. -/
def consequences (rules : List Rule) (vertices : List Vertex) (edges : Set Edge.Identity) :
    Set Edge.Identity :=
  edges ∪ products rules vertices edges

/-- **More edges never have fewer consequences.** -/
theorem consequences_mono (edges_grow : edges ⊆ moreEdges) :
    consequences rules vertices edges ⊆ consequences rules vertices moreEdges :=
  Set.union_subset_union edges_grow (products_mono (List.Subset.refl vertices) edges_grow)

/-- The consequence operator applied again and again. -/
def stage (rules : List Rule) (vertices : List Vertex) (edges : Set Edge.Identity) (n : Nat) :
    Set Edge.Identity :=
  (consequences rules vertices)^[n] edges

theorem stage_succ (n : Nat) :
    stage rules vertices edges (n + 1) = consequences rules vertices (stage rules vertices edges n) :=
  Function.iterate_succ_apply' _ _ _

theorem stage_mono {m n : Nat} (earlier : m ≤ n) :
    stage rules vertices edges m ⊆ stage rules vertices edges n := by
  induction earlier with
  | refl => exact Set.Subset.refl _
  | step _ ih =>
      rw [stage_succ]
      exact ih.trans Set.subset_union_left

/-! ## Closed sets of edges -/

/-- A set of edges has whatever rules make of it. -/
def Closed (rules : List Rule) (vertices : List Vertex) (edges : Set Edge.Identity) : Prop :=
  products rules vertices edges ⊆ edges

/-- What every closed set has that contains given edges. -/
def saturation (rules : List Rule) (vertices : List Vertex) (edges : Set Edge.Identity) :
    Set Edge.Identity :=
  { i | ∀ closed, edges ⊆ closed → Closed rules vertices closed → i ∈ closed }

theorem subset_saturation : edges ⊆ saturation rules vertices edges :=
  fun _ here _ within _ => within here

theorem saturation_subset (within : edges ⊆ moreEdges) (closed : Closed rules vertices moreEdges) :
    saturation rules vertices edges ⊆ moreEdges :=
  fun _ here => here moreEdges within closed

theorem closed_saturation : Closed rules vertices (saturation rules vertices edges) := by
  intro i made more within closed
  have smaller : saturation rules vertices edges ⊆ more := saturation_subset within closed
  exact closed (products_mono (List.Subset.refl vertices) smaller made)

/-- **The saturation is the least closed set that contains the edges.** -/
theorem isLeast_saturation : IsLeast { closed | edges ⊆ closed ∧ Closed rules vertices closed }
    (saturation rules vertices edges) :=
  ⟨⟨subset_saturation, closed_saturation⟩, fun _ larger => saturation_subset larger.1 larger.2⟩

/-- A set that is closed over more vertices is closed over fewer. -/
theorem Closed.of_vertices_subset (closed : Closed rules moreVertices edges)
    (vertices_grow : vertices ⊆ moreVertices) : Closed rules vertices edges :=
  (products_mono vertices_grow (Set.Subset.refl edges)).trans closed

theorem saturation_mono (vertices_grow : vertices ⊆ moreVertices) (edges_grow : edges ⊆ moreEdges) :
    saturation rules vertices edges ⊆ saturation rules moreVertices moreEdges :=
  saturation_subset (edges_grow.trans subset_saturation)
    (closed_saturation.of_vertices_subset vertices_grow)

/-- What lies between some edges and their saturation has the same saturation. -/
theorem saturation_eq_of_between (above : edges ⊆ moreEdges)
    (below : moreEdges ⊆ saturation rules vertices edges) :
    saturation rules vertices moreEdges = saturation rules vertices edges :=
  Set.Subset.antisymm (saturation_subset below closed_saturation)
    (saturation_mono (List.Subset.refl vertices) above)

end Trellis
