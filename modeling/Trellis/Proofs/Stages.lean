/-
# Trellis.Proofs.Stages — derivation computes the stages of its rules

On a graph without derived edges the edges after n generations are those of stage n
of the consequence operator, and the generation on an edge's record is the first
stage that has it. `Staged` says so of a graph on the way; a generation takes it from
one stage to the next (`Staged.runGeneration`), for every edge that is there by then
is seen by the next generation.
-/
import Trellis.Proofs.Derive

namespace Trellis.Graph

set_option autoImplicit false

variable {g start : Graph} {rules : List Rule}

theorem generation_of_asserted {e : Edge} (asserted : e.isDerived = false) : e.generation = none := by
  have noPath : e.derivationPath = [] := by simpa [Edge.isDerived] using asserted
  rw [Edge.generation, noPath]
  rfl

/-- A generation that comes after all that are on record sees every edge. -/
theorem visible_eq_identities {generation : Nat}
    (seen : ∀ e ∈ g.edges, e.generation.all (· < generation) = true) :
    g.visible generation = g.identities := by
  refine Set.ext fun i => ⟨?_, ?_⟩
  · rintro ⟨e, stored, -, rfl⟩
    exact ⟨e, stored, rfl⟩
  · rintro ⟨e, stored, rfl⟩
    exact ⟨e, stored, seen e stored, rfl⟩

/-- A stage is the first to have an edge. -/
def FirstStage (start : Graph) (rules : List Rule) (i : Edge.Identity) (k : Nat) : Prop :=
  IsLeast { m | i ∈ stage rules start.vertices start.identities m } k

/-- After n generations: the edges of stage n, where those that are new come after the
others and each has the stage that was the first to have it on record. -/
structure Staged (start : Graph) (rules : List Rule) (n : Nat) (g : Graph) : Prop where
  coherent : g.Coherent
  vertices : g.vertices = start.vertices
  identities : g.identities = stage rules start.vertices start.identities n
  grown : ∃ added, g.edges = start.edges ++ added ∧ ∀ e ∈ added,
    e.identity ∉ start.identities ∧
      ∃ k, e.generation = some k ∧ 1 ≤ k ∧ k ≤ n ∧ FirstStage start rules e.identity k

namespace Staged

variable {n : Nat}

theorem zero (coherent : start.Coherent) (rules : List Rule) : Staged start rules 0 start where
  coherent := coherent
  vertices := rfl
  identities := rfl
  grown := ⟨[], by simp, by simp⟩

/-- The next generation sees all edges. -/
theorem visible_eq (staged : Staged start rules n g)
    (asserted : ∀ e ∈ start.edges, e.isDerived = false) : g.visible (n + 1) = g.identities := by
  obtain ⟨added, edges, new⟩ := staged.grown
  apply visible_eq_identities
  intro e stored
  rw [edges, List.mem_append] at stored
  rcases stored with old | new_
  · rw [generation_of_asserted (asserted e old)]
    rfl
  · obtain ⟨-, k, generation, -, bound, -⟩ := new e new_
    rw [generation, Option.all_some, decide_eq_true_eq]
    omega

/-- **A generation leads from one stage to the next.** -/
theorem runGeneration (staged : Staged start rules n g)
    (asserted : ∀ e ∈ start.edges, e.isDerived = false) (wellFormed : ∀ r ∈ rules, r.WellFormed) :
    Staged start rules (n + 1) (g.runGeneration rules .derived (n + 1)).2 := by
  have visible := staged.visible_eq asserted
  obtain ⟨added, -, vertices, edges, new, -⟩ :=
    staged.coherent.runGeneration_spec wellFormed (n + 1)
  obtain ⟨earlier, edges', old⟩ := staged.grown
  have identities : (g.runGeneration rules .derived (n + 1)).2.identities =
      stage rules start.vertices start.identities (n + 1) := by
    rw [staged.coherent.identities_runGeneration wellFormed, visible, staged.vertices,
      staged.identities, stage_succ]
    rfl
  refine ⟨staged.coherent.runGeneration rules .derived (n + 1), vertices.trans staged.vertices,
    identities, earlier ++ added, by rw [edges, edges', List.append_assoc], fun e here => ?_⟩
  rcases List.mem_append.mp here with before | now
  · obtain ⟨absent, k, generation, positive, bound, first⟩ := old e before
    exact ⟨absent, k, generation, positive, by omega, first⟩
  · obtain ⟨absent, r, -, a, b, c, -, rfl⟩ := new e now
    rw [staged.identities] at absent
    have generation := r.generation_edge (n + 1) a b c
    refine ⟨fun atStart => absent (stage_mono (Nat.zero_le n) atStart), n + 1, generation, by omega,
      le_rfl, ?_, fun m present => ?_⟩
    · -- it is stored, and what is stored is stage n + 1
      show (r.edge (n + 1) a b c).identity ∈ stage rules start.vertices start.identities (n + 1)
      rw [← identities]
      exact ⟨_, edges ▸ List.mem_append_right g.edges now, rfl⟩
    · by_contra early
      have within : m ≤ n := by omega
      exact absent (stage_mono within present)

theorem deriveThrough (staged : Staged start rules n g)
    (asserted : ∀ e ∈ start.edges, e.isDerived = false) (wellFormed : ∀ r ∈ rules, r.WellFormed)
    (more : Nat) (report : Report) :
    (∃ final, (Graph.deriveThrough rules .derived (List.range' (n + 1) more) report g).1 = .ok final) ∧
      Staged start rules (n + more)
        (Graph.deriveThrough rules .derived (List.range' (n + 1) more) report g).2 := by
  induction more generalizing n g report with
  | zero => exact ⟨⟨report, rfl⟩, staged⟩
  | succ more ih =>
      obtain ⟨added, count, -⟩ := staged.coherent.runGeneration_spec wellFormed (n + 1)
      have next := staged.runGeneration asserted wellFormed
      rw [List.range'_succ, Graph.deriveThrough]
      cases done : g.runGeneration rules .derived (n + 1) with
      | mk result after =>
          rw [done] at count next
          obtain rfl : result = .ok added.length := count
          have rest := ih next (report.record (n + 1) added.length)
          have sum : n + 1 + more = n + (more + 1) := by omega
          rw [sum] at rest
          exact rest

end Staged

/-- **Derivation computes the stages of the consequence operator**: after n
generations the edges are those of stage n, the old ones are asserted as before, and
each new one records the first stage that has it. -/
theorem deriveEdges_eq_stage (reachable : g.Reachable)
    (asserted : ∀ e ∈ g.edges, e.isDerived = false)
    (compiled : ∀ r ∈ rules, ∃ s : RuleSpec, s.compile = .ok r) (n : Nat) :
    (∃ report, (g.deriveEdges rules Edge.derived n).1 = .ok report) ∧
      (g.deriveEdges rules Edge.derived n).2.identities =
        stage rules g.vertices g.identities n ∧
      (∀ e ∈ (g.deriveEdges rules Edge.derived n).2.edges,
        e.identity ∈ g.identities → e ∈ g.edges ∧ e.isDerived = false) ∧
      ∀ e ∈ (g.deriveEdges rules Edge.derived n).2.edges, e.identity ∉ g.identities →
        ∃ k, e.generation = some k ∧ 1 ≤ k ∧ k ≤ n ∧
          IsLeast { m | e.identity ∈ stage rules g.vertices g.identities m } k := by
  have wellFormed : ∀ r ∈ rules, r.WellFormed := by
    intro r rule
    obtain ⟨s, compiles⟩ := compiled r rule
    exact wellFormed_of_compile compiles
  obtain ⟨succeeds, staged⟩ :=
    (Staged.zero reachable.coherent rules).deriveThrough asserted wellFormed n {}
  rw [Nat.zero_add] at staged succeeds
  obtain ⟨added, edges, new⟩ := staged.grown
  refine ⟨succeeds, staged.identities, fun e stored known => ?_, fun e stored unknown => ?_⟩
  · have old : e ∈ g.edges := by
      rcases List.mem_append.mp (edges ▸ stored) with old | added_
      · exact old
      · exact absurd known (new e added_).1
    exact ⟨old, asserted e old⟩
  · rcases List.mem_append.mp (edges ▸ stored) with old | added_
    · exact absurd ⟨e, old, rfl⟩ unknown
    · exact (new e added_).2

/-- Any vertex, a path along an edge with a type, and any vertex. -/
def sampleTriple (type : String) (direction : Pattern.Direction) : Plan.Triple :=
  ⟨⟨[], none, [], .hidden⟩, ⟨[type], 1, false, true, direction⟩, ⟨[], none, [], .hidden⟩⟩

def nearRule : Rule where
  name := "near"
  antecedent := ⟨.walk [sampleTriple "knows" .outbound, sampleTriple "likes" .outbound]⟩
  production := ⟨.first, .third, ["near"]⟩

def alikeRule : Rule where
  name := "alike"
  antecedent := ⟨.walk [sampleTriple "near" .outbound, sampleTriple "near" .inbound]⟩
  production := ⟨.first, .third, ["alike"]⟩

theorem sampleRules_compiled :
    ∀ r ∈ [nearRule, alikeRule], ∃ s : RuleSpec, s.compile = .ok r := by
  intro r rule
  simp only [List.mem_cons, List.not_mem_nil, or_false] at rule
  rcases rule with rfl | rfl
  · exact ⟨⟨some "near", "()[knows]>()[Likes]>()", "(1)[near](3)"⟩, by decide +kernel⟩
  · exact ⟨⟨some "alike", "()[near]>()<[near]()", "(1)[Alike](3)"⟩, by decide +kernel⟩

theorem deriveEdges_eq_stage_sample :
    sample.Reachable ∧ (∀ e ∈ sample.edges, e.isDerived = false) ∧
      (∀ r ∈ [nearRule, alikeRule], ∃ s : RuleSpec, s.compile = .ok r) ∧
      (sample.deriveEdges [nearRule, alikeRule] Edge.derived 2).2.identities =
        stage [nearRule, alikeRule] sample.vertices sample.identities 2 ∧
      (sample.deriveEdges [nearRule, alikeRule] Edge.derived 2).2.edges.map
          (fun e => (e.id.text, e.generation)) =
        [("ann>knows>bob", none), ("bob>knows,likes>cyd", none), ("bob>knows>bob", none),
          ("bob>knows>ann", none), ("bob>knows>dan", none), ("ann>near>cyd", some 1),
          ("bob>near>cyd", some 1), ("ann>alike>ann", some 2), ("ann>alike>bob", some 2),
          ("bob>alike>ann", some 2), ("bob>alike>bob", some 2)] := by
  have asserted : ∀ e ∈ sample.edges, e.isDerived = false := by decide +kernel
  exact ⟨sample_reachable, asserted, sampleRules_compiled,
    (deriveEdges_eq_stage sample_reachable asserted sampleRules_compiled 2).2.1, by decide +kernel⟩

end Trellis.Graph
