/-
# Trellis.Proofs.Derive — what a generation does

A generation sees the asserted edges and the edges of earlier generations
(`visible`). The candidates of a well-formed rule are the edges of its matches in
what it sees (`Coherent.mem_candidates`), all of them can be stored, and those
whose identity is new are put at the end (`Coherent.runGeneration_spec`). A
derivation runs one generation after another and reports how many edges each of
them has made (`Coherent.deriveEdges_eq`).
-/
import Trellis.Proofs.Candidates

namespace Trellis

set_option autoImplicit false

/-! ## The edge of a match -/

namespace Rule

variable {r : Rule}

/-- The edge that a match makes in a generation. -/
def edge (r : Rule) (generation : Nat) (a b c : Vertex) : Edge :=
  .derived (r.production.source.pick a b c).id r.production.types
    (r.production.target.pick a b c).id ⟨r.name, generation⟩

theorem generation_edge (r : Rule) (generation : Nat) (a b c : Vertex) :
    (r.edge generation a b c).generation = some generation := rfl

namespace WellFormed

theorem types_edge (wellFormed : r.WellFormed) (generation : Nat) (a b c : Vertex) :
    (r.edge generation a b c).types = r.production.types :=
  Tag.normalize_eq_self wellFormed.clean wellFormed.ascending

theorem normalized_edge (wellFormed : r.WellFormed) (generation : Nat) (a b c : Vertex) :
    (r.edge generation a b c).normalized = r.edge generation a b c := by
  have types := wellFormed.types_edge generation a b c
  have same : Tag.normalize (r.edge generation a b c).types = (r.edge generation a b c).types := by
    rw [types, Tag.normalize_eq_self wellFormed.clean wellFormed.ascending]
  rw [Edge.normalized, same]

theorem identity_edge (wellFormed : r.WellFormed) (generation : Nat) (a b c : Vertex) :
    (r.edge generation a b c).identity = r.product a b c := by
  rw [Edge.identity, wellFormed.types_edge]
  rfl

/-- **Between stored vertices the edge of a match passes every check.** -/
theorem check_edge (wellFormed : r.WellFormed) (generation : Nat) {a b c : Vertex}
    (left : a.Storable) (middle : b.Storable) (right : c.Storable) :
    (r.edge generation a b c).check = .ok () := by
  have id (slot : Pattern.Slot) : Vertex.checkId (slot.pick a b c).id = .ok () :=
    (Vertex.check_eq_ok_iff.mp (slot.pick_of left middle right).checked).1
  refine Edge.check_eq_ok_iff.mpr ⟨id _, id _, Tag.check_eq_ok_iff.mpr ?_⟩
  rw [wellFormed.types_edge]
  exact ⟨wellFormed.typed, fun tag here => (wellFormed.clean tag here).storable⟩

end WellFormed

end Rule

namespace Graph

variable {g : Graph}

/-! ## What a generation sees -/

/-- The identities of all edges. -/
def identities (g : Graph) : Set Edge.Identity := { i | ∃ e ∈ g.edges, e.identity = i }

/-- The identities of the edges that are asserted or of an earlier generation. -/
def visible (g : Graph) (generation : Nat) : Set Edge.Identity :=
  { i | ∃ e ∈ g.edges, e.generation.all (· < generation) = true ∧ e.identity = i }

theorem acceptsTypes_iff {f : EdgeFilter} {e : Edge} :
    f.acceptsTypes e = true ↔ f.Admits e.identity.types := by
  simp only [EdgeFilter.acceptsTypes, EdgeFilter.Admits, Edge.identity, List.mem_toFinset,
    Bool.or_eq_true, List.isEmpty_iff]
  refine or_congr_right ?_
  split
  · simp [Edge.hasAllTypes, Tag.includes]
  · simp [Edge.hasAnyType, Tag.meets]

/-- A path link leads along an edge that a generation sees exactly when a run of the
generation may follow the edge. -/
theorem connects_visible_iff {l : Plan.Link} (path : l.isPath = true) {generation : Nat}
    {v w : Vertex} :
    l.Connects (g.visible generation) v w ↔ ∃ e ∈ g.edges,
      (l.edgeFilter.withGenerationLimit (some generation)).accepts e = true ∧
        l.direction.Leads e.source e.target v.id w.id := by
  have accepts : ∀ e : Edge, (l.edgeFilter.withGenerationLimit (some generation)).accepts e = true ↔
      e.generation.all (· < generation) = true ∧ l.edgeFilter.Admits e.identity.types := by
    intro e
    have types : (l.edgeFilter.withGenerationLimit (some generation)).acceptsTypes e =
        l.edgeFilter.acceptsTypes e := rfl
    have scope : (l.edgeFilter.withGenerationLimit (some generation)).scope = .all := by
      show l.scope = .all
      rw [Plan.Link.scope, if_pos path]
    rw [EdgeFilter.accepts, types, scope, Bool.and_eq_true, Bool.and_eq_true, acceptsTypes_iff]
    exact and_congr_left fun _ => and_iff_right rfl
  constructor
  · rintro ⟨i, ⟨e, stored, seen, rfl⟩, admits, leads⟩
    exact ⟨e, stored, (accepts e).mpr ⟨seen, admits⟩, leads⟩
  · rintro ⟨e, stored, accepted, leads⟩
    obtain ⟨seen, admits⟩ := (accepts e).mp accepted
    exact ⟨e.identity, ⟨e, stored, seen, rfl⟩, admits, leads⟩

/-! ## Candidates -/

/-- Whatever the rule is like, its candidates are derived. -/
theorem isDerived_of_mem_candidates {r : Rule} {generation : Nat} {e : Edge}
    (here : e ∈ r.candidates g .derived generation) : e.isDerived = true := by
  obtain ⟨row, -, made⟩ := List.mem_filterMap.mp here
  obtain ⟨source, -, made⟩ := Option.bind_eq_some_iff.mp made
  obtain ⟨target, -, made⟩ := Option.bind_eq_some_iff.mp made
  obtain rfl := Option.some.inj made
  rfl

/-- **A rule's candidates are the edges of its matches.** -/
theorem Coherent.mem_candidates (coherent : g.Coherent) {r : Rule} (wellFormed : r.WellFormed)
    {generation : Nat} {e : Edge} :
    e ∈ r.candidates g .derived generation ↔
      ∃ a b c, r.Matches g.vertices (g.visible generation) a b c ∧ e = r.edge generation a b c := by
  obtain ⟨t, u, plan, path, path'⟩ := wellFormed.walk
  obtain ⟨found, ⟨-, all⟩, walks⟩ := coherent.toLinked.exists_matches t.source.filter
    t.source.isShown (.ofTriple (some generation) t) (.ofTriple (some generation) u)
  have rows : g.run (some generation) r.antecedent.plan = found.map (·.row t.source.isShown) := by
    rw [plan, ← walks]
    exact coherent.runWalk_eq t [u]
  rw [Rule.candidates_eq_map rows, List.mem_map]
  constructor
  · rintro ⟨m, -, rfl⟩
    refine ⟨m.first, m.second, m.third, ⟨m.vertices, t, u, plan, m.accepted, ?_, ?_⟩, rfl⟩
    · exact (connects_visible_iff path).mpr ⟨m.left, m.edges.1, m.leads⟩
    · exact (connects_visible_iff path').mpr ⟨m.right, m.edges.2, m.leadsOn⟩
  · rintro ⟨a, b, c, ⟨stored, t', u', plan', accepted, first, second⟩, rfl⟩
    obtain ⟨rfl, rfl⟩ : t' = t ∧ u' = u := by simpa using plan'.symm.trans plan
    obtain ⟨i, edge, leads⟩ := (connects_visible_iff path).mp first
    obtain ⟨j, edge', leadsOn⟩ := (connects_visible_iff path').mp second
    exact ⟨⟨a, b, c, i, j, stored, ⟨edge, edge'⟩, accepted, leads, leadsOn⟩, all _, rfl⟩

/-! ## A generation -/

variable {rules : List Rule} {generation : Nat}

theorem Coherent.mem_batch (coherent : g.Coherent) (wellFormed : ∀ r ∈ rules, r.WellFormed)
    {e : Edge} :
    e ∈ (rules.flatMap fun r => r.candidates g .derived generation) ↔ ∃ r ∈ rules, ∃ a b c,
      r.Matches g.vertices (g.visible generation) a b c ∧ e = r.edge generation a b c := by
  rw [List.mem_flatMap]
  constructor
  · rintro ⟨r, rule, here⟩
    exact ⟨r, rule, (coherent.mem_candidates (wellFormed r rule)).mp here⟩
  · rintro ⟨r, rule, made⟩
    exact ⟨r, rule, (coherent.mem_candidates (wellFormed r rule)).mpr made⟩

theorem Coherent.storable_edge (coherent : g.Coherent) (generation : Nat) {r : Rule}
    (wellFormed : r.WellFormed) {edges : Set Edge.Identity} {a b c : Vertex}
    (matched : r.Matches g.vertices edges a b c) :
    (r.edge generation a b c).Storable := by
  obtain ⟨⟨left, middle, right⟩, -⟩ := matched
  have storable := fun {v} (stored : v ∈ g.vertices) => coherent.toLinked.storable_of_mem_vertices stored
  exact ⟨⟨_, wellFormed.normalized_edge generation a b c⟩,
    wellFormed.check_edge generation (storable left) (storable middle) (storable right)⟩

/-- **A generation never fails.** It appends edges of matches in what it sees, none of
them with an identity that was taken, and afterwards the edge of every match is there. -/
theorem Coherent.runGeneration_spec (coherent : g.Coherent)
    (wellFormed : ∀ r ∈ rules, r.WellFormed) (generation : Nat) :
    ∃ added, (g.runGeneration rules .derived generation).1 = .ok added.length ∧
      (g.runGeneration rules .derived generation).2.vertices = g.vertices ∧
      (g.runGeneration rules .derived generation).2.edges = g.edges ++ added ∧
      (∀ e ∈ added, e.identity ∉ g.identities ∧ ∃ r ∈ rules, ∃ a b c,
        r.Matches g.vertices (g.visible generation) a b c ∧ e = r.edge generation a b c) ∧
      products rules g.vertices (g.visible generation) ⊆
        (g.runGeneration rules .derived generation).2.identities := by
  have final := (coherent.runGeneration rules .derived generation).toLinked
  have checked : ∀ e ∈ (rules.flatMap fun r => r.candidates g .derived generation),
      e.normalized.check = .ok () := by
    intro e here
    obtain ⟨r, rule, a, b, c, matched, rfl⟩ := (coherent.mem_batch wellFormed).mp here
    rw [(wellFormed r rule).normalized_edge]
    exact (coherent.storable_edge generation (wellFormed r rule) matched).checked
  obtain ⟨added, count, vertices, edges, fromThese, kept⟩ := coherent.insertEdges_of_checked checked
  refine ⟨added, count, vertices, edges, fun e here => ⟨?_, ?_⟩, ?_⟩
  · -- its id is not taken, so neither is its identity
    rintro ⟨f, stored, same⟩
    have apart := final.nodup_edgeIds
    have left := final.storable_of_mem_edges (edges ▸ List.mem_append_left added stored)
    have right := final.storable_of_mem_edges (edges ▸ List.mem_append_right g.edges here)
    rw [Graph.runGeneration, edges, List.map_append] at apart
    exact (List.nodup_append'.mp apart).2.2 (List.mem_map_of_mem stored)
      (List.mem_map.mpr ⟨e, here, ((left.id_eq_iff right).mpr same).symm⟩)
  · obtain ⟨f, batch, rfl⟩ := List.mem_map.mp (fromThese.subset here)
    obtain ⟨r, rule, a, b, c, matched, rfl⟩ := (coherent.mem_batch wellFormed).mp batch
    exact ⟨r, rule, a, b, c, matched, (wellFormed r rule).normalized_edge generation a b c⟩
  · rintro i ⟨r, rule, a, b, c, matched, rfl⟩
    have batch := (coherent.mem_batch wellFormed).mpr ⟨r, rule, a, b, c, matched, rfl⟩
    obtain ⟨f, stored, same⟩ := kept _ batch
    have storable := coherent.storable_edge generation (wellFormed r rule) matched
    rw [(wellFormed r rule).normalized_edge] at same
    refine ⟨f, edges ▸ stored, ?_⟩
    rw [← (wellFormed r rule).identity_edge generation]
    exact ((final.storable_of_mem_edges (edges ▸ stored)).id_eq_iff storable).mp same

theorem Coherent.vertices_runGeneration (coherent : g.Coherent)
    (wellFormed : ∀ r ∈ rules, r.WellFormed) (generation : Nat) :
    (g.runGeneration rules .derived generation).2.vertices = g.vertices := by
  obtain ⟨-, -, vertices, -⟩ := coherent.runGeneration_spec wellFormed generation
  exact vertices

theorem Coherent.identities_runGeneration (coherent : g.Coherent)
    (wellFormed : ∀ r ∈ rules, r.WellFormed) (generation : Nat) :
    (g.runGeneration rules .derived generation).2.identities =
      g.identities ∪ products rules g.vertices (g.visible generation) := by
  obtain ⟨added, -, -, edges, new, made⟩ := coherent.runGeneration_spec wellFormed generation
  refine Set.Subset.antisymm ?_ (Set.union_subset ?_ made)
  · rintro i ⟨e, stored, rfl⟩
    rw [edges, List.mem_append] at stored
    rcases stored with old | new_
    · exact Or.inl ⟨e, old, rfl⟩
    · obtain ⟨-, r, rule, a, b, c, matched, rfl⟩ := new e new_
      exact Or.inr ⟨r, rule, a, b, c, matched, (wellFormed r rule).identity_edge generation a b c⟩
  · rintro i ⟨e, stored, rfl⟩
    exact ⟨e, edges ▸ List.mem_append_left added stored, rfl⟩

theorem Coherent.subset_identities_runGeneration (coherent : g.Coherent)
    (wellFormed : ∀ r ∈ rules, r.WellFormed) (generation : Nat) :
    g.identities ⊆ (g.runGeneration rules .derived generation).2.identities := by
  rw [coherent.identities_runGeneration wellFormed]
  exact Set.subset_union_left

/-! ## Generations in a row -/

/-- The graph after generations have been run in order. -/
def advance (g : Graph) (rules : List Rule) (generations : List Nat) : Graph :=
  generations.foldl (fun g generation => (g.runGeneration rules .derived generation).2) g

/-- How many edges each of the generations adds. -/
def created (g : Graph) (rules : List Rule) : List Nat → List Nat
  | [] => []
  | generation :: rest =>
    let after := (g.runGeneration rules .derived generation).2
    (after.edges.length - g.edges.length) :: after.created rules rest

theorem advance_cons (g : Graph) (rules : List Rule) (generation : Nat) (rest : List Nat) :
    g.advance rules (generation :: rest) =
      (g.runGeneration rules .derived generation).2.advance rules rest := rfl

theorem advance_append (g : Graph) (rules : List Rule) (first rest : List Nat) :
    g.advance rules (first ++ rest) = (g.advance rules first).advance rules rest :=
  List.foldl_append

theorem length_created (g : Graph) (rules : List Rule) (generations : List Nat) :
    (g.created rules generations).length = generations.length := by
  induction generations generalizing g with
  | nil => rfl
  | cons generation rest ih => rw [created, List.length_cons, ih, List.length_cons]

theorem created_append (g : Graph) (rules : List Rule) (first rest : List Nat) :
    g.created rules (first ++ rest) =
      g.created rules first ++ (g.advance rules first).created rules rest := by
  induction first generalizing g with
  | nil => rfl
  | cons generation first ih => rw [List.cons_append, created, ih, created, advance_cons]; rfl

theorem Coherent.advance (coherent : g.Coherent) (rules : List Rule) (generations : List Nat) :
    (g.advance rules generations).Coherent := by
  induction generations generalizing g with
  | nil => exact coherent
  | cons generation rest ih => exact ih (coherent.runGeneration rules .derived generation)

theorem Coherent.runGeneration_eq (coherent : g.Coherent) (wellFormed : ∀ r ∈ rules, r.WellFormed)
    (generation : Nat) : g.runGeneration rules .derived generation =
      (.ok ((g.runGeneration rules .derived generation).2.edges.length - g.edges.length),
        (g.runGeneration rules .derived generation).2) := by
  obtain ⟨added, count, -, edges, -⟩ := coherent.runGeneration_spec wellFormed generation
  refine Prod.ext ?_ rfl
  rw [count, edges, List.length_append, Nat.add_sub_cancel_left]

/-- **Generations of well-formed rules all run**, and the report says what each added. -/
theorem Coherent.deriveThrough_eq (coherent : g.Coherent) (wellFormed : ∀ r ∈ rules, r.WellFormed)
    (generations : List Nat) (report : Report) :
    Graph.deriveThrough rules .derived generations report g =
      (.ok ⟨generations.getLastD report.generations,
          report.edgesCreated + (g.created rules generations).sum,
          report.createdPerGeneration ++ g.created rules generations⟩,
        g.advance rules generations) := by
  induction generations generalizing g report with
  | nil => simp [Graph.deriveThrough, created, Graph.advance]
  | cons generation rest ih =>
      rw [Graph.deriveThrough, coherent.runGeneration_eq wellFormed generation]
      simp only [ih (coherent.runGeneration rules .derived generation), Report.record, created,
        List.getLastD_cons, List.sum_cons, Nat.add_assoc, List.append_assoc, List.singleton_append,
        advance_cons]

theorem Coherent.deriveEdges_eq (coherent : g.Coherent) (wellFormed : ∀ r ∈ rules, r.WellFormed)
    (n : Nat) : g.deriveEdges rules .derived n =
      (.ok ⟨n, (g.created rules (List.range' 1 n)).sum, g.created rules (List.range' 1 n)⟩,
        g.advance rules (List.range' 1 n)) := by
  have last : (List.range' 1 n).getLastD 0 = n := by
    cases n with
    | zero => rfl
    | succ n => rw [List.range'_1_concat, List.getLastD_concat, Nat.add_comm]
  rw [deriveEdges, coherent.deriveThrough_eq wellFormed, last, Nat.zero_add, List.nil_append]

end Graph

end Trellis
