/-
# Trellis.Proofs.Additions — what a derivation adds

A derivation by compiled rules leaves the vertices and the edges that are there as they
are and puts new edges behind them: a batch for each generation, one after the other, each
edge between stored vertices, with the types of the production of its rule and the rule in
this generation as its only record (`Coherent.advance_spec`). It cannot fail, since
compiling a rule lets no type through that the graph would refuse and a match has only
stored ids. A graph that is shared is derived from in turns, with the same outcome as long
as no other client takes one in between (`Shared.deriveEdges_eq`). What the report says is
what one could have counted (`deriveEdges_appends`).
-/
import Mathlib.Data.List.Forall2
import Trellis.Proofs.Graph.Stats
import Trellis.Proofs.Stages
import Trellis.Shared

namespace Trellis

set_option autoImplicit false

variable {rules : List Rule}

namespace Graph

variable {g : Graph} {generation : Nat} {e : Edge}

/-! ## Batches -/

theorem Coherent.vertices_advance (coherent : g.Coherent) (wellFormed : ∀ r ∈ rules, r.WellFormed)
    (generations : List Nat) : (g.advance rules generations).vertices = g.vertices := by
  induction generations generalizing g with
  | nil => rfl
  | cons generation rest ih =>
      rw [advance_cons, ih (coherent.runGeneration rules .derived generation),
        coherent.vertices_runGeneration wellFormed]

/-- Some rule makes the edge in a generation, of three stored vertices that match its
antecedent in some edges. -/
def Makes (g : Graph) (rules : List Rule) (generation : Nat) (e : Edge) : Prop :=
  ∃ r ∈ rules, ∃ edges a b c, r.Matches g.vertices edges a b c ∧ e = r.edge generation a b c

/-- **What generations add**: one batch of edges after the other, made by the rules in the
generation whose batch it is. -/
theorem Coherent.advance_spec (coherent : g.Coherent) (wellFormed : ∀ r ∈ rules, r.WellFormed)
    (generations : List Nat) :
    ∃ batches, (g.advance rules generations).edges = g.edges ++ batches.flatten ∧
      g.created rules generations = batches.map List.length ∧
      List.Forall₂ (fun generation batch => ∀ e ∈ batch, g.Makes rules generation e)
        generations batches := by
  induction generations generalizing g with
  | nil => exact ⟨[], (List.append_nil _).symm, rfl, .nil⟩
  | cons generation rest ih =>
      obtain ⟨added, -, vertices, edges, new, -⟩ := coherent.runGeneration_spec wellFormed generation
      obtain ⟨batches, edges', counts, made⟩ := ih (coherent.runGeneration rules .derived generation)
      refine ⟨added :: batches, ?_, ?_, .cons (fun e here => ?_) ?_⟩
      · rw [advance_cons, edges', edges, List.append_assoc, List.flatten_cons]
      · rw [created, counts, edges, List.length_append, Nat.add_sub_cancel_left, List.map_cons]
      · obtain ⟨-, r, rule, a, b, c, matched, made⟩ := new e here
        exact ⟨r, rule, _, a, b, c, matched, made⟩
      · simpa only [Makes, vertices] using made

/-- The edges that generations add, all together. -/
theorem Coherent.edges_advance (coherent : g.Coherent) (wellFormed : ∀ r ∈ rules, r.WellFormed)
    (generations : List Nat) :
    ∃ added, (g.advance rules generations).edges = g.edges ++ added ∧
      added.length = (g.created rules generations).sum ∧
      ∀ e ∈ added, ∃ generation ∈ generations, g.Makes rules generation e := by
  obtain ⟨batches, edges, counts, made⟩ := coherent.advance_spec wellFormed generations
  refine ⟨batches.flatten, edges, by rw [counts, List.length_flatten], fun e here => ?_⟩
  obtain ⟨batch, listed, here⟩ := List.mem_flatten.mp here
  obtain ⟨generation, run, made⟩ := exists_of_mem_forall₂ made.flip listed
  exact ⟨generation, run, made e here⟩

theorem Makes.generation_eq (made : g.Makes rules generation e) : e.generation = some generation := by
  obtain ⟨r, -, -, a, b, c, -, rfl⟩ := made
  exact r.generation_edge generation a b c

/-- What the rules make can be told from the edge itself. -/
theorem Makes.spec (made : g.Makes rules generation e) :
    (∃ v ∈ g.vertices, v.id = e.source) ∧ (∃ w ∈ g.vertices, w.id = e.target) ∧
      ∃ r ∈ rules, e.types = Tag.normalize r.production.types ∧
        e.derivationPath = [⟨r.name, generation⟩] := by
  obtain ⟨r, rule, seen, a, b, c, matched, rfl⟩ := made
  exact ⟨⟨_, matched.pick_mem r.production.source, rfl⟩, ⟨_, matched.pick_mem r.production.target, rfl⟩,
    r, rule, rfl, rfl⟩

end Graph

/-! ## Derivations of a shared graph -/

namespace Shared

/-- A shared graph is derived from like one that is not shared. -/
theorem deriveThrough_eq (generations : List Nat) (report : Report) (s : Shared) :
    s.deriveThrough rules generations report =
      Prod.map id Shared.mk (Graph.deriveThrough rules .derived generations report s.graph) := by
  induction generations generalizing report s with
  | nil => rfl
  | cons generation rest ih =>
      rw [deriveThrough, Graph.deriveThrough, turn]
      cases s.graph.runGeneration rules .derived generation with
      | mk result after =>
          cases result with
          | error cause => rfl
          | ok created => exact ih _ _

theorem deriveEdges_eq (s : Shared) (rules : List Rule) (n : Nat) :
    s.deriveEdges rules n = Prod.map id Shared.mk (s.graph.deriveEdges rules .derived n) :=
  deriveThrough_eq _ _ s

theorem deriveEdges_of_wellFormed {s : Shared} (coherent : s.graph.Coherent)
    (wellFormed : ∀ r ∈ rules, r.WellFormed) (n : Nat) :
    s.deriveEdges rules n =
      (.ok ⟨n, (s.graph.created rules (List.range' 1 n)).sum, s.graph.created rules (List.range' 1 n)⟩,
        ⟨s.graph.advance rules (List.range' 1 n)⟩) := by
  rw [deriveEdges_eq, coherent.deriveEdges_eq wellFormed]
  rfl

end Shared

/-! ## Whole derivations -/

namespace Graph

variable {g : Graph}

/-- **A derivation by compiled rules cannot fail and only appends.** Of a graph and of the
shared graph that holds it, it gives one report and one graph. The report has a count for
each generation, which is the length of the batch that this generation added; their sum is
the number of edges that have been created, and the graph has become larger by as many. The
vertices are as before. The edges are those from before and then the batches, in the order
of their generations, and each edge of a batch is between stored vertices, has the types
of the production of a rule, and has this rule in this generation as its one record. -/
theorem deriveEdges_appends (reachable : g.Reachable)
    (compiled : ∀ r ∈ rules, ∃ s : RuleSpec, s.compile = .ok r) (n : Nat) :
    ∃ (report : Report) (after : Graph) (batches : List (List Edge)),
      g.deriveEdges rules .derived n = (.ok report, after) ∧
      (Shared.mk g).deriveEdges rules n = (.ok report, ⟨after⟩) ∧
      report.generations = n ∧ report.createdPerGeneration.length = n ∧
      report.createdPerGeneration = batches.map List.length ∧
      report.createdPerGeneration.sum = report.edgesCreated ∧
      after.edgeCount = g.edgeCount + report.edgesCreated ∧
      after.vertices = g.vertices ∧ after.edges = g.edges ++ batches.flatten ∧
      List.Forall₂ (fun generation batch => ∀ e ∈ batch,
          (∃ v ∈ g.vertices, v.id = e.source) ∧ (∃ w ∈ g.vertices, w.id = e.target) ∧
            ∃ r ∈ rules, e.types = Tag.normalize r.production.types ∧
              e.derivationPath = [⟨r.name, generation⟩])
        (List.range' 1 n) batches := by
  have coherent := reachable.coherent
  have wellFormed := wellFormed_of_compiled compiled
  obtain ⟨batches, edges, counts, made⟩ := coherent.advance_spec wellFormed (List.range' 1 n)
  have count : (g.advance rules (List.range' 1 n)).edgeCount =
      g.edgeCount + (g.created rules (List.range' 1 n)).sum := by
    rw [(coherent.advance rules _).toLinked.edgeCount_eq, coherent.toLinked.edgeCount_eq, edges,
      List.length_append, List.length_flatten, counts]
  refine ⟨_, _, batches, coherent.deriveEdges_eq wellFormed n,
    Shared.deriveEdges_of_wellFormed coherent wellFormed n, rfl, ?_, counts, rfl, count,
    coherent.vertices_advance wellFormed _, edges, ?_⟩
  · rw [length_created, List.length_range']
  · exact made.imp fun _ _ batch e here => (batch e here).spec

/-- Two batches: the second rule needs what the first makes. -/
theorem deriveEdges_appends_sample :
    sample.Reachable ∧ (∀ r ∈ [nearRule, alikeRule], ∃ s : RuleSpec, s.compile = .ok r) ∧
      ∃ (after : Graph) (batches : List (List Edge)), sample.deriveEdges [nearRule, alikeRule] .derived 2 =
          (.ok ⟨2, 6, [2, 4]⟩, after) ∧
        (Shared.mk sample).deriveEdges [nearRule, alikeRule] 2 = (.ok ⟨2, 6, [2, 4]⟩, ⟨after⟩) ∧
        batches.map List.length = [2, 4] ∧ after.edges = sample.edges ++ batches.flatten := by
  obtain ⟨report, after, batches, ran, shared, -, -, counts, -, -, -, edges, -⟩ :=
    deriveEdges_appends sample_reachable sampleRules_compiled 2
  have reported : (sample.deriveEdges [nearRule, alikeRule] .derived 2).1 = .ok ⟨2, 6, [2, 4]⟩ := by
    decide +kernel
  rw [ran] at reported
  obtain rfl := Except.ok.inj reported
  exact ⟨sample_reachable, sampleRules_compiled, after, batches, ran, shared, counts.symm, edges⟩

end Graph

end Trellis
