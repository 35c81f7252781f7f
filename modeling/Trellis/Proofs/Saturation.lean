/-
# Trellis.Proofs.Saturation — derivation comes to an end at the least closed set

Rules make edges between stored vertices only, one for each rule and each two of them
at most (`products_subset_producible`), and no generation makes an edge that is there.
So all generations of a derivation together make no more than that many
(`Coherent.sum_created_le`), and of more generations than that one makes nothing.

A generation that sees every edge and makes nothing leaves nothing to make: the graph
is `Saturated`, and later generations do not change it (`Saturated.advance_eq`). Its
edges are then the saturation of those at the start, since no generation ever leaves
a closed set that has them (`Coherent.identities_advance_subset`).

Edges with stray generations on record may be out of sight for a while. They are seen
once the generations have passed the last one on record, so every derivation that goes
on for long enough ends up saturated (`Coherent.eventually_saturated`).
-/
import Mathlib.Algebra.Order.BigOperators.Group.List
import Trellis.Proofs.Additions
import Trellis.Proofs.Rerun

namespace Trellis

set_option autoImplicit false

variable {rules : List Rule} {vertices : List Vertex} {edges : Set Edge.Identity}

/-! ## How many edges rules can make -/

/-- For each rule and each two vertices, the edge that the rule makes between them. -/
def producible (rules : List Rule) (vertices : List Vertex) : List Edge.Identity :=
  rules.flatMap fun r => vertices.flatMap fun v => vertices.map fun w =>
    ⟨v.id, r.production.types.toFinset, w.id⟩

theorem length_producible (rules : List Rule) (vertices : List Vertex) :
    (producible rules vertices).length = rules.length * vertices.length ^ 2 := by
  simp [producible, List.length_flatMap, Nat.pow_two]

theorem products_subset_producible {i : Edge.Identity} (made : i ∈ products rules vertices edges) :
    i ∈ producible rules vertices := by
  obtain ⟨r, rule, a, b, c, matched, rfl⟩ := made
  have source := matched.pick_mem r.production.source
  have target := matched.pick_mem r.production.target
  exact List.mem_flatMap.mpr
    ⟨r, rule, List.mem_flatMap.mpr ⟨_, source, List.mem_map.mpr ⟨_, target, rfl⟩⟩⟩

namespace Graph

variable {g : Graph} {generation first : Nat} {generations : List Nat}

/-! ## What generations add -/

theorem visible_subset_identities (g : Graph) (generation : Nat) :
    g.visible generation ⊆ g.identities := by
  rintro i ⟨e, stored, -, rfl⟩
  exact ⟨e, stored, rfl⟩

/-- **Generations stay within every closed set.** -/
theorem Coherent.identities_advance_subset (coherent : g.Coherent)
    (wellFormed : ∀ r ∈ rules, r.WellFormed) (within : g.identities ⊆ edges)
    (closed : Closed rules g.vertices edges) (generations : List Nat) :
    (g.advance rules generations).identities ⊆ edges := by
  induction generations generalizing g with
  | nil => exact within
  | cons generation rest ih =>
      rw [advance_cons]
      refine ih (coherent.runGeneration rules .derived generation) ?_ ?_
      · have seen : g.visible generation ⊆ edges := (g.visible_subset_identities generation).trans within
        rw [coherent.identities_runGeneration wellFormed]
        exact Set.union_subset within
          ((products_mono (List.Subset.refl g.vertices) seen).trans closed)
      · rwa [coherent.vertices_runGeneration wellFormed]

theorem Makes.mem_producible {e : Edge} (made : g.Makes rules generation e)
    (wellFormed : ∀ r ∈ rules, r.WellFormed) : e.identity ∈ producible rules g.vertices := by
  obtain ⟨r, rule, seen, a, b, c, matched, rfl⟩ := made
  exact products_subset_producible
    ⟨r, rule, a, b, c, matched, (wellFormed r rule).identity_edge generation a b c⟩

/-- **Generations make no more edges than there are rules and pairs of vertices.** -/
theorem Coherent.sum_created_le (coherent : g.Coherent) (wellFormed : ∀ r ∈ rules, r.WellFormed)
    (generations : List Nat) :
    (g.created rules generations).sum ≤ rules.length * g.vertices.length ^ 2 := by
  obtain ⟨added, edges, count, made⟩ := coherent.edges_advance wellFormed generations
  have apart : (added.map Edge.identity).Nodup := by
    have all := (coherent.advance rules generations).toLinked.nodup_identities
    rw [edges, List.map_append] at all
    exact all.of_append_right
  have inside : added.map Edge.identity ⊆ producible rules g.vertices := by
    intro i here
    obtain ⟨e, new, rfl⟩ := List.mem_map.mp here
    obtain ⟨generation, -, made⟩ := made e new
    exact made.mem_producible wellFormed
  calc (g.created rules generations).sum
      = (added.map Edge.identity).length := by rw [List.length_map, count]
    _ ≤ (producible rules g.vertices).length := (apart.subperm inside).length_le
    _ = rules.length * g.vertices.length ^ 2 := length_producible rules g.vertices

/-- Of more generations than that, one makes nothing. -/
theorem Coherent.zero_mem_created (coherent : g.Coherent) (wellFormed : ∀ r ∈ rules, r.WellFormed)
    (many : rules.length * g.vertices.length ^ 2 < generations.length) :
    0 ∈ g.created rules generations := by
  by_contra none_
  have positive : ∀ n ∈ g.created rules generations, 1 ≤ n := fun n here =>
    Nat.one_le_iff_ne_zero.mpr fun zero => none_ (zero ▸ here)
  have long := List.length_le_sum_of_one_le _ positive
  have short := coherent.sum_created_le wellFormed generations
  rw [length_created] at long
  omega

/-! ## Saturated graphs -/

/-- There is nothing left for the rules to make. -/
def Saturated (g : Graph) (rules : List Rule) : Prop := Closed rules g.vertices g.identities

namespace Saturated

theorem settled (saturated : g.Saturated rules) (generation : Nat) : g.Settled rules generation :=
  (products_mono (List.Subset.refl g.vertices) (g.visible_subset_identities generation)).trans saturated

/-- **Generations do not change a saturated graph.** -/
theorem advance_eq (saturated : g.Saturated rules) (coherent : g.Coherent)
    (wellFormed : ∀ r ∈ rules, r.WellFormed) (generations : List Nat) :
    g.advance rules generations = g ∧
      g.created rules generations = List.replicate generations.length 0 :=
  Settled.advance_eq (fun generation _ => saturated.settled generation) coherent wellFormed

/-- **A derivation that ends saturated ends at the saturation** of the edges that it began
with. -/
theorem identities_advance (saturated : (g.advance rules generations).Saturated rules)
    (coherent : g.Coherent) (wellFormed : ∀ r ∈ rules, r.WellFormed) :
    (g.advance rules generations).identities = saturation rules g.vertices g.identities := by
  refine Set.Subset.antisymm ?_ (saturation_subset ?_ ?_)
  · exact coherent.identities_advance_subset wellFormed subset_saturation closed_saturation generations
  · obtain ⟨added, edges, -⟩ := coherent.edges_advance wellFormed generations
    rintro i ⟨e, stored, rfl⟩
    exact ⟨e, edges ▸ List.mem_append_left added stored, rfl⟩
  · rwa [Saturated, coherent.vertices_advance wellFormed] at saturated

end Saturated

/-! ## Generations that see every edge -/

/-- Every edge is asserted or of an earlier generation. -/
def AllVisible (g : Graph) (generation : Nat) : Prop :=
  ∀ e ∈ g.edges, e.generation.all (· < generation) = true

theorem allVisible_of_asserted (asserted : ∀ e ∈ g.edges, e.isDerived = false) (generation : Nat) :
    g.AllVisible generation := by
  intro e stored
  rw [generation_of_asserted (asserted e stored)]
  rfl

/-- What is visible to a generation is visible to later ones. -/
theorem all_lt_of_le {date : Option Nat} {later : Nat}
    (seen : date.all (· < generation) = true) (late : generation ≤ later) :
    date.all (· < later) = true := by
  cases date with
  | none => rfl
  | some own =>
      rw [Option.all_some, decide_eq_true_eq] at seen ⊢
      omega

/-- Some generation is later than all that are on record. -/
theorem exists_allVisible (g : Graph) : ∃ generation, g.AllVisible generation := by
  suffices all : ∀ edges : List Edge, ∃ generation, ∀ e ∈ edges,
      e.generation.all (· < generation) = true from all g.edges
  intro edges
  induction edges with
  | nil => exact ⟨0, by simp⟩
  | cons e rest ih =>
      obtain ⟨late, seen⟩ := ih
      have own : e.generation.all (· < e.generation.getD 0 + 1) = true := by
        cases e.generation <;> simp
      exact ⟨max (e.generation.getD 0 + 1) late, List.forall_mem_cons.mpr
        ⟨all_lt_of_le own (Nat.le_max_left _ _),
          fun f here => all_lt_of_le (seen f here) (Nat.le_max_right _ _)⟩⟩

namespace AllVisible

/-- What earlier generations make is visible as well. -/
theorem advance (seen : g.AllVisible generation) (coherent : g.Coherent)
    (wellFormed : ∀ r ∈ rules, r.WellFormed) (earlier : ∀ k ∈ generations, k < generation) :
    (g.advance rules generations).AllVisible generation := by
  obtain ⟨added, edges, -, made⟩ := coherent.edges_advance wellFormed generations
  rw [AllVisible, edges]
  refine List.forall_mem_append.mpr ⟨seen, fun e here => ?_⟩
  obtain ⟨k, run, made⟩ := made e here
  rw [made.generation_eq, Option.all_some, decide_eq_true_eq]
  exact earlier k run

theorem mono (seen : g.AllVisible generation) {later : Nat} (late : generation ≤ later) :
    g.AllVisible later :=
  fun e stored => all_lt_of_le (seen e stored) late

/-- The generation that follows some in a row sees every edge, if it would have done so
without them. -/
theorem advance_range' {n : Nat} (seen : g.AllVisible (first + n)) (coherent : g.Coherent)
    (wellFormed : ∀ r ∈ rules, r.WellFormed) :
    (g.advance rules (List.range' first n)).AllVisible (first + n) :=
  seen.advance coherent wellFormed fun _ here => (List.mem_range'_1.mp here).2

/-- **A generation that sees every edge and makes nothing leaves nothing to make.** -/
theorem saturated (seen : g.AllVisible generation) (coherent : g.Coherent)
    (wellFormed : ∀ r ∈ rules, r.WellFormed)
    (nothing : (g.runGeneration rules .derived generation).2.edges.length ≤ g.edges.length) :
    g.Saturated rules := by
  obtain ⟨added, -, -, edges, -, made⟩ := coherent.runGeneration_spec wellFormed generation
  rw [edges, List.length_append] at nothing
  have none_ : added = [] := List.eq_nil_of_length_eq_zero (by omega)
  have same : (g.runGeneration rules .derived generation).2.identities = g.identities := by
    rw [identities, edges, none_, List.append_nil, identities]
  rw [visible_eq_identities seen, same] at made
  exact made

/-- Where the list of what each generation made has a zero, the graph was saturated. -/
theorem saturated_of_created (seen : g.AllVisible first) (coherent : g.Coherent)
    (wellFormed : ∀ r ∈ rules, r.WellFormed) {n k : Nat}
    (nothing : (g.created rules (List.range' first n))[k]? = some 0) :
    k < n ∧ (g.advance rules (List.range' first k)).Saturated rules := by
  have within : k < n := by
    obtain ⟨within, -⟩ := List.getElem?_eq_some_iff.mp nothing
    rwa [length_created, List.length_range'] at within
  obtain ⟨more, rfl⟩ := Nat.exists_eq_add_of_lt within
  have split : List.range' first (k + more + 1) =
      List.range' first k ++ (first + k) :: List.range' (first + k + 1) more := by
    rw [← List.range'_succ, List.range'_append_1, Nat.add_assoc]
  have before : (g.created rules (List.range' first k)).length = k := by
    rw [length_created, List.length_range']
  rw [split, created_append, List.getElem?_append_right (by omega), before, Nat.sub_self, created,
    List.getElem?_cons_zero, Option.some.injEq, Nat.sub_eq_zero_iff_le] at nothing
  have seen' := (seen.mono (Nat.le_add_right first k)).advance_range' coherent wellFormed
  exact ⟨within, seen'.saturated (coherent.advance rules (List.range' first k)) wellFormed nothing⟩

/-- From the first generation that makes nothing on, nothing changes. -/
theorem advance_eq_of_created (seen : g.AllVisible first) (coherent : g.Coherent)
    (wellFormed : ∀ r ∈ rules, r.WellFormed) {n k : Nat}
    (nothing : (g.created rules (List.range' first n))[k]? = some 0) :
    (g.advance rules (List.range' first n)).Saturated rules ∧
      g.created rules (List.range' first n) =
        g.created rules (List.range' first k) ++ List.replicate (n - k) 0 := by
  obtain ⟨within, saturated⟩ := seen.saturated_of_created coherent wellFormed nothing
  obtain ⟨same, zeros⟩ := saturated.advance_eq (coherent.advance rules (List.range' first k))
    wellFormed (List.range' (first + k) (n - k))
  have split : List.range' first n = List.range' first k ++ List.range' (first + k) (n - k) := by
    rw [List.range'_append_1, Nat.add_sub_cancel' within.le]
  rw [split, advance_append, created_append, same, zeros, List.length_range']
  exact ⟨saturated, rfl⟩

/-- **Enough generations saturate a graph** whose edges the first of them sees. -/
theorem saturated_of_lt (seen : g.AllVisible first) (coherent : g.Coherent)
    (wellFormed : ∀ r ∈ rules, r.WellFormed) {n : Nat}
    (many : rules.length * g.vertices.length ^ 2 < n) :
    (g.advance rules (List.range' first n)).Saturated rules := by
  have some_ : 0 ∈ g.created rules (List.range' first n) :=
    coherent.zero_mem_created wellFormed (by rwa [List.length_range'])
  obtain ⟨k, nothing⟩ := List.mem_iff_getElem?.mp some_
  exact (seen.advance_eq_of_created coherent wellFormed nothing).1

end AllVisible

/-- **Every derivation that goes on for long enough ends up saturated**, whatever
generations are on record of the edges that it begins with. -/
theorem Coherent.eventually_saturated (coherent : g.Coherent)
    (wellFormed : ∀ r ∈ rules, r.WellFormed) :
    ∃ enough, ∀ n ≥ enough, (g.advance rules (List.range' 1 n)).Saturated rules := by
  obtain ⟨late, seen⟩ := g.exists_allVisible
  refine ⟨late + rules.length * g.vertices.length ^ 2 + 1, fun n long => ?_⟩
  have split : List.range' 1 n = List.range' 1 late ++ List.range' (1 + late) (n - late) := by
    rw [List.range'_append_1, Nat.add_sub_cancel' (by omega)]
  have all : (g.advance rules (List.range' 1 late)).AllVisible (1 + late) :=
    (seen.mono (Nat.le_add_left late 1)).advance_range' coherent wellFormed
  rw [split, advance_append]
  refine all.saturated_of_lt (coherent.advance rules (List.range' 1 late)) wellFormed ?_
  rw [coherent.vertices_advance wellFormed]
  omega

/-- **Derivation ends at the least closed set.** On a graph without derived edges: once a
generation makes nothing, no later one does; all of them make no more edges than there
are rules and pairs of stored vertices, so of more generations than that one makes
nothing; and from there on the edges are the least set that has those at the start and
whatever the rules make of it. -/
theorem deriveEdges_saturates (reachable : g.Reachable)
    (asserted : ∀ e ∈ g.edges, e.isDerived = false)
    (compiled : ∀ r ∈ rules, ∃ s : RuleSpec, s.compile = .ok r) (n : Nat) :
    ∃ report after, g.deriveEdges rules .derived n = (.ok report, after) ∧
      report.createdPerGeneration.length = n ∧
      report.edgesCreated = report.createdPerGeneration.sum ∧
      after.edges.length = g.edges.length + report.edgesCreated ∧
      (∀ k m, k ≤ m → m < n → report.createdPerGeneration[k]? = some 0 →
        report.createdPerGeneration[m]? = some 0) ∧
      report.edgesCreated ≤ rules.length * g.vertices.length ^ 2 ∧
      (rules.length * g.vertices.length ^ 2 < n → 0 ∈ report.createdPerGeneration) ∧
      (0 ∈ report.createdPerGeneration →
        IsLeast { closed | g.identities ⊆ closed ∧ Closed rules g.vertices closed }
          after.identities) := by
  have coherent := reachable.coherent
  have wellFormed := wellFormed_of_compiled compiled
  have seen : g.AllVisible 1 := allVisible_of_asserted asserted 1
  have bound := coherent.sum_created_le wellFormed (List.range' 1 n)
  obtain ⟨added, edges, count, -⟩ := coherent.edges_advance wellFormed (List.range' 1 n)
  refine ⟨_, _, coherent.deriveEdges_eq wellFormed n, ?_, rfl, ?_, ?_, bound, ?_, ?_⟩
  · rw [length_created, List.length_range']
  · rw [edges, List.length_append, count]
  · intro k m later within nothing
    obtain ⟨-, zeros⟩ := seen.advance_eq_of_created coherent wellFormed nothing
    have before : (g.created rules (List.range' 1 k)).length = k := by
      rw [length_created, List.length_range']
    rw [zeros, List.getElem?_append_right (by omega), before,
      List.getElem?_replicate_of_lt (by omega)]
  · intro many
    exact coherent.zero_mem_created wellFormed (by rwa [List.length_range'])
  · intro some_
    obtain ⟨k, nothing⟩ := List.mem_iff_getElem?.mp some_
    obtain ⟨saturated, -⟩ := seen.advance_eq_of_created coherent wellFormed nothing
    rw [saturated.identities_advance coherent wellFormed]
    exact isLeast_saturation

theorem deriveEdges_saturates_sample :
    sample.Reachable ∧ (∀ e ∈ sample.edges, e.isDerived = false) ∧
      (∀ r ∈ [nearRule, alikeRule], ∃ s : RuleSpec, s.compile = .ok r) ∧
      (sample.deriveEdges [nearRule, alikeRule] .derived 4).1 = .ok ⟨4, 6, [2, 4, 0, 0]⟩ ∧
      IsLeast { closed | sample.identities ⊆ closed ∧
          Closed [nearRule, alikeRule] sample.vertices closed }
        (sample.deriveEdges [nearRule, alikeRule] .derived 4).2.identities := by
  have asserted : ∀ e ∈ sample.edges, e.isDerived = false := by decide +kernel
  obtain ⟨report, after, ran, -, -, -, -, -, -, least⟩ :=
    deriveEdges_saturates sample_reachable asserted sampleRules_compiled 4
  have counts : (sample.deriveEdges [nearRule, alikeRule] .derived 4).1 =
      .ok ⟨4, 6, [2, 4, 0, 0]⟩ := by decide +kernel
  rw [ran] at counts ⊢
  obtain rfl := Except.ok.inj counts
  exact ⟨sample_reachable, asserted, sampleRules_compiled, rfl, least (by decide)⟩

end Graph

end Trellis
