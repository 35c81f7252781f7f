/-
# Trellis.Proofs.Interleaving — a derivation among the calls of other clients

A derivation of a shared graph takes one turn for each generation, and other clients
may add vertices and asserted edges between the turns. What they add may let edges be
derived earlier than they would have been, or take the identity of an edge that was
about to be derived. Neither takes anything from what the rest of the derivation sees:
beside the undisturbed derivation, the disturbed one is `Ahead` after the same number
of generations, that is, whatever is visible to some generation in the one graph is
visible to it in the other. A generation of both keeps them so (`Ahead.runGeneration`),
and so does a client's turn (`Ahead.addVertex`, `Ahead.addEdge`). Hence no edge is lost,
and none comes later than it would have come (`deriveAmong_not_behind`).
-/
import Trellis.Proofs.Saturation

namespace Trellis

set_option autoImplicit false

variable {rules : List Rule}

/-! ## Turns -/

/-- A turn at a graph that a derivation shares with other clients. -/
inductive Turn where
  /-- The next generation of the derivation. -/
  | generation
  | addVertex (v : Vertex)
  | addEdge (e : Edge) (asserted : e.isDerived = false)

namespace Turn

def isGeneration : Turn → Bool
  | .generation => true
  | .addVertex _ | .addEdge _ _ => false

/-- How many generations there are among some turns. -/
def generations (turns : List Turn) : Nat := turns.countP isGeneration

end Turn

namespace Shared

/-- What a derivation has reported so far, or why it has failed, and the shared graph. -/
abbrev Progress := Except InputError Report × Shared

/-- A generation has the number that follows the last one in the report. A derivation that
has failed takes no more turns, and the other clients go on. -/
def take (rules : List Rule) : Progress → Turn → Progress
  | (.ok report, s), .generation =>
    match s.turn fun g => g.runGeneration rules Edge.derived (report.generations + 1) with
    | (.error cause, s) => (.error cause, s)
    | (.ok created, s) => (.ok (report.record (report.generations + 1) created), s)
  | (.error cause, s), .generation => (.error cause, s)
  | (result, s), .addVertex v => (result, (s.turn (·.call (.addVertex v))).2)
  | (result, s), .addEdge e _ => (result, (s.turn (·.call (.addEdge e))).2)

/-- A derivation whose generations are some of the given turns, in their order. -/
def deriveAmong (s : Shared) (rules : List Rule) (turns : List Turn) : Progress :=
  turns.foldl (take rules) (.ok {}, s)

theorem foldl_take_of_failed (n : Nat) (cause : InputError) (s : Shared) :
    (List.replicate n Turn.generation).foldl (take rules) (.error cause, s) = (.error cause, s) := by
  induction n with
  | zero => rfl
  | succ n ih => exact ih

theorem foldl_take_replicate (n : Nat) (report : Report) (s : Shared) :
    (List.replicate n Turn.generation).foldl (take rules) (.ok report, s) =
      s.deriveThrough rules (List.range' (report.generations + 1) n) report := by
  induction n generalizing report s with
  | zero => rfl
  | succ n ih =>
      rw [List.replicate_succ, List.foldl_cons, List.range'_succ, deriveThrough, take]
      cases s.turn fun g => g.runGeneration rules .derived (report.generations + 1) with
      | mk result after =>
          cases result with
          | error cause => exact foldl_take_of_failed n cause after
          | ok created => exact ih (report.record (report.generations + 1) created) after

/-- **With nobody else about this is the derivation that takes all its turns at once.** -/
theorem deriveAmong_replicate (s : Shared) (rules : List Rule) (n : Nat) :
    s.deriveAmong rules (List.replicate n .generation) = s.deriveEdges rules n :=
  foldl_take_replicate n {} s

/-- A generation of well-formed rules does not fail. -/
theorem take_generation {s : Shared} (coherent : s.graph.Coherent)
    (wellFormed : ∀ r ∈ rules, r.WellFormed) (report : Report) :
    take rules (.ok report, s) .generation =
      (.ok (report.record (report.generations + 1)
          ((s.graph.runGeneration rules .derived (report.generations + 1)).2.edges.length -
            s.graph.edges.length)),
        ⟨(s.graph.runGeneration rules .derived (report.generations + 1)).2⟩) := by
  rw [take, turn, coherent.runGeneration_eq wellFormed (report.generations + 1)]

end Shared

namespace Graph

variable {n : Nat} {g alone together : Graph}

/-! ## Never behind -/

/-- Beside a derivation that has run n generations undisturbed, another graph lets every
generation see at least as much. The edges that it has beyond those are asserted or come
from these generations, so that the next one sees them too. -/
structure Ahead (n : Nat) (alone together : Graph) : Prop where
  vertices : alone.vertices ⊆ together.vertices
  visible : ∀ generation, alone.visible generation ⊆ together.visible generation
  recent : ∀ e ∈ together.edges,
    e.identity ∈ alone.identities ∨ e.generation.all (· < n + 1) = true

namespace Ahead

theorem refl (g : Graph) : Ahead 0 g g where
  vertices := List.Subset.refl _
  visible _ := Set.Subset.refl _
  recent e stored := Or.inl ⟨e, stored, rfl⟩

theorem identities_subset (ahead : Ahead n alone together) :
    alone.identities ⊆ together.identities := by
  obtain ⟨late, seen⟩ := alone.exists_allVisible
  rw [← visible_eq_identities seen]
  exact (ahead.visible late).trans (together.visible_subset_identities late)

/-- **A generation of both does not fall behind.** An edge that is new in the one graph has
a match in the other as well. If it is there already, it has been asserted or derived by
an earlier one of these generations. -/
theorem runGeneration (ahead : Ahead n alone together) (left : alone.Coherent)
    (right : together.Coherent) (wellFormed : ∀ r ∈ rules, r.WellFormed) :
    Ahead (n + 1) (alone.runGeneration rules .derived (n + 1)).2
      (together.runGeneration rules .derived (n + 1)).2 := by
  obtain ⟨added, -, vertices, edges, new, -⟩ := left.runGeneration_spec wellFormed (n + 1)
  obtain ⟨added', -, vertices', edges', new', made'⟩ := right.runGeneration_spec wellFormed (n + 1)
  have dated : ∀ e ∈ added', e.generation = some (n + 1) := by
    intro e here
    obtain ⟨-, r, -, a, b, c, -, rfl⟩ := new' e here
    exact r.generation_edge (n + 1) a b c
  refine ⟨by rw [vertices, vertices']; exact ahead.vertices, ?_, ?_⟩
  · rintro generation i ⟨e, stored, seen, rfl⟩
    rcases List.mem_append.mp (edges ▸ stored) with old | now
    · obtain ⟨f, stored', seen', same⟩ := ahead.visible generation ⟨e, old, seen, rfl⟩
      exact ⟨f, edges' ▸ List.mem_append_left added' stored', seen', same⟩
    · obtain ⟨unknown, r, rule, a, b, c, matched, rfl⟩ := new e now
      have late : n + 1 < generation := by
        rwa [r.generation_edge, Option.all_some, decide_eq_true_eq] at seen
      have product := (wellFormed r rule).identity_edge (n + 1) a b c
      obtain ⟨f, stored', same⟩ := made' ⟨r, rule, a, b, c,
        matched.mono ahead.vertices (ahead.visible (n + 1)), product⟩
      refine ⟨f, stored', ?_, same⟩
      rcases List.mem_append.mp (edges' ▸ stored') with old' | now'
      · exact all_lt_of_le ((ahead.recent f old').resolve_left (same ▸ unknown)) late.le
      · rw [dated f now', Option.all_some, decide_eq_true_eq]
        exact late
  · intro e stored
    rcases List.mem_append.mp (edges' ▸ stored) with old | now
    · rcases ahead.recent e old with known | early
      · exact Or.inl (left.subset_identities_runGeneration wellFormed (n + 1) known)
      · exact Or.inr (all_lt_of_le early (Nat.le_succ (n + 1)))
    · rw [dated e now]
      exact Or.inr (by simp)

theorem addVertex (ahead : Ahead n alone together) (v : Vertex) :
    Ahead n alone (together.call (.addVertex v)).2 where
  vertices := List.Subset.trans ahead.vertices (together.vertices_subset_addVertex v)
  visible generation i here := by
    obtain ⟨e, stored, seen, same⟩ := ahead.visible generation here
    exact ⟨e, together.edges_addVertex v ▸ stored, seen, same⟩
  recent := by
    rw [edges_addVertex]
    exact ahead.recent

theorem addEdge (ahead : Ahead n alone together) {e : Edge} (asserted : e.isDerived = false) :
    Ahead n alone (together.call (.addEdge e)).2 := by
  rcases call_addEdge_cases together e with same | stored
  · rwa [same]
  · rw [stored]
    refine ⟨by rw [vertices_storeEdge]; exact ahead.vertices, fun generation i here => ?_, ?_⟩
    · obtain ⟨f, there, seen, same⟩ := ahead.visible generation here
      exact ⟨f, edges_storeEdge together _ ▸ List.mem_append_left _ there, seen, same⟩
    · have asserted' : e.normalized.isDerived = false := asserted
      rw [edges_storeEdge]
      refine List.forall_mem_append.mpr ⟨ahead.recent, fun f new => Or.inr ?_⟩
      obtain rfl := List.mem_singleton.mp new
      rw [generation_of_asserted asserted']
      rfl

/-- **Whatever turns are taken, the derivation succeeds and does not fall behind.** -/
theorem deriveAmong (ahead : Ahead n alone together) (left : alone.Coherent)
    (right : together.Coherent) (wellFormed : ∀ r ∈ rules, r.WellFormed) (turns : List Turn)
    (report : Report) (done : report.generations = n) :
    ∃ final after, turns.foldl (Shared.take rules) (.ok report, ⟨together⟩) = (.ok final, ⟨after⟩) ∧
      Ahead (n + Turn.generations turns)
        (alone.advance rules (List.range' (n + 1) (Turn.generations turns))) after := by
  induction turns generalizing n alone together report with
  | nil => exact ⟨report, together, rfl, ahead⟩
  | cons turn rest ih =>
      cases turn with
      | generation =>
          have count : Turn.generations (.generation :: rest) = Turn.generations rest + 1 :=
            List.countP_cons_of_pos rfl
          have sum : n + (Turn.generations rest + 1) = n + 1 + Turn.generations rest := by omega
          have took := Shared.take_generation (s := ⟨together⟩) right wellFormed report
          rw [done] at took
          rw [List.foldl_cons, took, count, sum, List.range'_succ, advance_cons]
          exact ih (ahead.runGeneration left right wellFormed)
            (left.runGeneration rules .derived (n + 1)) (right.runGeneration rules .derived (n + 1)) _ rfl
      | addVertex v => exact ih (ahead.addVertex v) left (right.call _) report done
      | addEdge e asserted => exact ih (ahead.addEdge asserted) left (right.call _) report done

end Ahead

theorem isDerived_eq_false_of_generation {e : Edge} (none_ : e.generation = none) :
    e.isDerived = false := by
  have noPath : e.derivationPath = [] := by
    simpa [Edge.generation, List.min?_eq_none_iff] using none_
  rw [Edge.isDerived, noPath]
  rfl

/-- The edges that are new in a generation have its number. -/
theorem Coherent.generation_of_new (coherent : g.Coherent) (wellFormed : ∀ r ∈ rules, r.WellFormed)
    {h : Nat} {e : Edge} (stored : e ∈ (g.advance rules (List.range' 1 (h + 1))).edges)
    (new : e ∉ (g.advance rules (List.range' 1 h)).edges) : e.generation = some (h + 1) := by
  have before := coherent.advance rules (List.range' 1 h)
  obtain ⟨added, edges, -, made⟩ := before.edges_advance wellFormed [1 + h]
  rw [List.range'_1_concat, advance_append, edges] at stored
  obtain ⟨k, last, made⟩ := made e ((List.mem_append.mp stored).resolve_left new)
  rw [made.generation_eq, List.mem_singleton.mp last, Nat.add_comm]

theorem Coherent.edges_subset_advance (coherent : g.Coherent)
    (wellFormed : ∀ r ∈ rules, r.WellFormed) {m n : Nat} (earlier : m ≤ n) :
    (g.advance rules (List.range' 1 m)).edges ⊆ (g.advance rules (List.range' 1 n)).edges := by
  obtain ⟨more, rfl⟩ := Nat.exists_eq_add_of_le earlier
  obtain ⟨added, edges, -⟩ := (coherent.advance rules (List.range' 1 m)).edges_advance wellFormed
    (List.range' (1 + m) more)
  rw [← List.range'_append_1, advance_append, edges]
  exact List.subset_append_left _ _

end Graph

/-- **No edge is lost to other clients, and none comes later.** Whatever vertices and
asserted edges others add between the generations of a derivation, it succeeds, and at the
end there is every edge that the undisturbed derivation stores. One that this derivation
makes in some generation is then asserted, or derived with that generation or an earlier
one on record. -/
theorem Shared.deriveAmong_not_behind {s : Shared} (reachable : s.graph.Reachable)
    (compiled : ∀ r ∈ rules, ∃ spec : RuleSpec, spec.compile = .ok r) (turns : List Turn) :
    ∃ report report' alone together,
      s.deriveEdges rules (Turn.generations turns) = (.ok report, alone) ∧
      s.deriveAmong rules turns = (.ok report', together) ∧
      alone.graph.identities ⊆ together.graph.identities ∧
      ∀ h < Turn.generations turns, ∀ e ∈ (s.deriveEdges rules (h + 1)).2.graph.edges,
        e ∉ (s.deriveEdges rules h).2.graph.edges →
        ∃ f ∈ together.graph.edges, f.identity = e.identity ∧
          (f.isDerived = false ∨ ∃ k ≤ h + 1, f.generation = some k) := by
  have coherent := reachable.coherent
  have wellFormed := wellFormed_of_compiled compiled
  obtain ⟨report', after, took, ahead⟩ := (Graph.Ahead.refl s.graph).deriveAmong coherent coherent
    wellFormed turns {} rfl
  rw [Nat.zero_add] at ahead
  refine ⟨_, report', _, ⟨after⟩, deriveEdges_of_wellFormed coherent wellFormed _, took,
    ahead.identities_subset, fun h within e stored new => ?_⟩
  rw [deriveEdges_of_wellFormed coherent wellFormed] at stored new
  have dated := coherent.generation_of_new wellFormed stored new
  have kept := coherent.edges_subset_advance wellFormed within stored
  have seen : e.generation.all (· < h + 2) = true := by simp [dated]
  obtain ⟨f, there, early, same⟩ := ahead.visible (h + 2) ⟨e, kept, seen, rfl⟩
  refine ⟨f, there, same, ?_⟩
  cases own : f.generation with
  | none => exact Or.inl (Graph.isDerived_eq_false_of_generation own)
  | some k =>
      rw [own, Option.all_some, decide_eq_true_eq] at early
      exact Or.inr ⟨k, by omega, rfl⟩

/-- Before the first generation somebody says that Ann is near Cyd, so that this generation
makes her alike to herself, and before the second one that she is like Bob. -/
def sampleTurns : List Turn := [
  .addVertex (.of "dan" ["person"] "Dan"),
  .addEdge (.asserted "ann" ["near"] "cyd") rfl,
  .generation,
  .addEdge (.asserted "ann" ["alike"] "bob") rfl,
  .generation]

theorem Shared.deriveAmong_not_behind_sample :
    (Shared.mk Graph.sample).graph.Reachable ∧
      (∀ r ∈ [Graph.nearRule, Graph.alikeRule], ∃ spec : RuleSpec, spec.compile = .ok r) ∧
      (∃ report report' alone together,
        (Shared.mk Graph.sample).deriveEdges [Graph.nearRule, Graph.alikeRule] 2 =
          (.ok report, alone) ∧
        (Shared.mk Graph.sample).deriveAmong [Graph.nearRule, Graph.alikeRule] sampleTurns =
          (.ok report', together) ∧
        alone.graph.identities ⊆ together.graph.identities) ∧
      (((Shared.mk Graph.sample).deriveEdges [Graph.nearRule, Graph.alikeRule] 2).2.graph.edges.drop
          5).map (fun e => (e.id.text, e.generation)) =
        [("ann>near>cyd", some 1), ("bob>near>cyd", some 1), ("ann>alike>ann", some 2),
          ("ann>alike>bob", some 2), ("bob>alike>ann", some 2), ("bob>alike>bob", some 2)] ∧
      (((Shared.mk Graph.sample).deriveAmong [Graph.nearRule, Graph.alikeRule]
          sampleTurns).2.graph.edges.drop 5).map (fun e => (e.id.text, e.generation)) =
        [("ann>near>cyd", none), ("bob>near>cyd", some 1), ("ann>alike>ann", some 1),
          ("ann>alike>bob", none), ("bob>alike>ann", some 2), ("bob>alike>bob", some 2)] := by
  have reachable : (Shared.mk Graph.sample).graph.Reachable := Graph.sample_reachable
  obtain ⟨report, report', alone, together, ran, ran', kept, -⟩ :=
    deriveAmong_not_behind reachable Graph.sampleRules_compiled sampleTurns
  exact ⟨reachable, Graph.sampleRules_compiled, ⟨report, report', alone, together, ran, ran', kept⟩,
    by decide +kernel, by decide +kernel⟩

end Trellis
