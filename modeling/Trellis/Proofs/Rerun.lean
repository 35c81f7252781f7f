/-
# Trellis.Proofs.Rerun — a second derivation goes on where the first one stopped

An edge that a generation makes has the number of that generation on record, so no
generation up to that number ever sees it (`Coherent.visible_runGeneration`), whatever
is on record of the edges that were there before. Hence a generation that has run is
settled: what it would make is there already, and stays there when later generations
run (`Settled.advance`). Running a settled generation changes nothing at all
(`Settled.advance_eq`), down to the slots and the indexes of the graph.
-/
import Trellis.Proofs.Stages

namespace Trellis.Graph

set_option autoImplicit false

variable {g : Graph} {rules : List Rule} {generation later : Nat} {generations : List Nat}

/-- Whatever a generation would make is stored. -/
def Settled (g : Graph) (rules : List Rule) (generation : Nat) : Prop :=
  products rules g.vertices (g.visible generation) ⊆ g.identities

/-! ## What a generation sees stays the same -/

/-- **A generation sees the same before and after it runs, or a later one does.** -/
theorem Coherent.visible_runGeneration (coherent : g.Coherent)
    (wellFormed : ∀ r ∈ rules, r.WellFormed) (late : generation ≤ later) :
    (g.runGeneration rules .derived later).2.visible generation = g.visible generation := by
  obtain ⟨added, -, -, edges, new, -⟩ := coherent.runGeneration_spec wellFormed later
  refine Set.ext fun i => ⟨?_, ?_⟩
  · rintro ⟨e, stored, seen, rfl⟩
    rw [edges, List.mem_append] at stored
    rcases stored with old | now
    · exact ⟨e, old, seen, rfl⟩
    · -- an edge of the later generation is not seen
      obtain ⟨-, r, -, a, b, c, -, rfl⟩ := new e now
      rw [r.generation_edge, Option.all_some, decide_eq_true_eq] at seen
      omega
  · rintro ⟨e, stored, seen, rfl⟩
    exact ⟨e, edges ▸ List.mem_append_left added stored, seen, rfl⟩

/-! ## Settled generations -/

theorem Coherent.settled_runGeneration (coherent : g.Coherent)
    (wellFormed : ∀ r ∈ rules, r.WellFormed) (generation : Nat) :
    (g.runGeneration rules .derived generation).2.Settled rules generation := by
  rw [Settled, coherent.vertices_runGeneration wellFormed,
    coherent.visible_runGeneration wellFormed le_rfl, coherent.identities_runGeneration wellFormed]
  exact Set.subset_union_right

namespace Settled

theorem runGeneration (settled : g.Settled rules generation) (coherent : g.Coherent)
    (wellFormed : ∀ r ∈ rules, r.WellFormed) (late : generation ≤ later) :
    (g.runGeneration rules .derived later).2.Settled rules generation := by
  rw [Settled, coherent.vertices_runGeneration wellFormed,
    coherent.visible_runGeneration wellFormed late]
  exact settled.trans (coherent.subset_identities_runGeneration wellFormed later)

theorem advance (settled : g.Settled rules generation) (coherent : g.Coherent)
    (wellFormed : ∀ r ∈ rules, r.WellFormed) (late : ∀ later ∈ generations, generation ≤ later) :
    (g.advance rules generations).Settled rules generation := by
  induction generations generalizing g with
  | nil => exact settled
  | cons next rest ih =>
      obtain ⟨first, late⟩ := List.forall_mem_cons.mp late
      exact ih (settled.runGeneration coherent wellFormed first)
        (coherent.runGeneration rules .derived next) late

/-- **A settled generation changes nothing.** Every edge that it makes is taken for one
that is stored. -/
theorem runGeneration_eq (settled : g.Settled rules generation) (coherent : g.Coherent)
    (wellFormed : ∀ r ∈ rules, r.WellFormed) :
    g.runGeneration rules .derived generation = (.ok 0, g) := by
  apply insertEdges_of_taken
  intro e here
  obtain ⟨r, rule, a, b, c, matched, rfl⟩ := (coherent.mem_batch wellFormed).mp here
  have storable := coherent.storable_edge generation (wellFormed r rule) matched
  obtain ⟨f, stored, same⟩ := settled ⟨r, rule, a, b, c, matched, rfl⟩
  have sameId : f.id = (r.edge generation a b c).id :=
    ((coherent.toLinked.storable_of_mem_edges stored).id_eq_iff storable).mpr
      (same.trans ((wellFormed r rule).identity_edge generation a b c).symm)
  rw [(wellFormed r rule).normalized_edge]
  exact ⟨storable.checked, coherent.toLinked.hasEdge_iff.mpr ⟨f, stored, sameId⟩⟩

theorem advance_eq (settled : ∀ generation ∈ generations, g.Settled rules generation)
    (coherent : g.Coherent) (wellFormed : ∀ r ∈ rules, r.WellFormed) :
    g.advance rules generations = g ∧
      g.created rules generations = List.replicate generations.length 0 := by
  induction generations with
  | nil => exact ⟨rfl, rfl⟩
  | cons generation rest ih =>
      obtain ⟨first, others⟩ := List.forall_mem_cons.mp settled
      have unchanged := first.runGeneration_eq coherent wellFormed
      obtain ⟨same, nothing⟩ := ih others
      rw [advance_cons, created, unchanged]
      exact ⟨same, by rw [nothing, Nat.sub_self, List.length_cons, List.replicate_succ]⟩

end Settled

/-- **Generations that have run in ascending order are settled.** -/
theorem Coherent.settled_advance (coherent : g.Coherent) (wellFormed : ∀ r ∈ rules, r.WellFormed)
    (ascending : generations.Pairwise (· ≤ ·)) :
    ∀ generation ∈ generations, (g.advance rules generations).Settled rules generation := by
  induction generations generalizing g with
  | nil => simp
  | cons first rest ih =>
      obtain ⟨late, ascending⟩ := List.pairwise_cons.mp ascending
      have next := coherent.runGeneration rules .derived first
      rw [advance_cons]
      exact List.forall_mem_cons.mpr
        ⟨(coherent.settled_runGeneration wellFormed first).advance next wellFormed late,
          ih next ascending⟩

/-! ## Two derivations in a row -/

/-- After the first n generations the first m are those from n + 1 on: the ones before
have nothing left to do. -/
theorem Coherent.advance_again (coherent : g.Coherent) (wellFormed : ∀ r ∈ rules, r.WellFormed)
    (n m : Nat) :
    (g.advance rules (List.range' 1 n)).advance rules (List.range' 1 m) =
        g.advance rules (List.range' 1 (max n m)) ∧
      (g.advance rules (List.range' 1 n)).created rules (List.range' 1 m) =
        List.replicate (min n m) 0 ++ (g.created rules (List.range' 1 (max n m))).drop n := by
  have final := coherent.advance rules (List.range' 1 n)
  have settled := coherent.settled_advance wellFormed
    (List.pairwise_le_range' : (List.range' 1 n).Pairwise (· ≤ ·))
  rcases Nat.le_total m n with short | long
  · have within : ∀ k ∈ List.range' 1 m, k ∈ List.range' 1 n := by
      intro k here
      rw [List.mem_range'_1] at here ⊢
      omega
    obtain ⟨same, nothing⟩ :=
      Settled.advance_eq (fun k here => settled k (within k here)) final wellFormed
    rw [Nat.max_eq_left short, Nat.min_eq_right short, same, nothing, List.length_range',
      List.drop_of_length_le (by rw [length_created, List.length_range']), List.append_nil]
    exact ⟨rfl, rfl⟩
  · obtain ⟨same, nothing⟩ := Settled.advance_eq settled final wellFormed
    obtain ⟨more, rfl⟩ := Nat.exists_eq_add_of_le long
    have split : List.range' 1 (n + more) = List.range' 1 n ++ List.range' (1 + n) more :=
      List.range'_append_1.symm
    have done : n = (g.created rules (List.range' 1 n)).length := by
      rw [length_created, List.length_range']
    rw [Nat.max_eq_right long, Nat.min_eq_left long, split, advance_append, advance_append, same,
      created_append, created_append, same, nothing, List.length_range']
    refine ⟨rfl, congrArg _ ?_⟩
    rw [List.drop_left' done.symm]

/-- **Two derivations in a row are the longer one of them.** The second one leaves the
very graph that the longer one leaves, and adds nothing in the generations that the
first one has run; so a derivation that is repeated changes nothing. -/
theorem deriveEdges_deriveEdges (reachable : g.Reachable)
    (compiled : ∀ r ∈ rules, ∃ s : RuleSpec, s.compile = .ok r) (n m : Nat) :
    ∃ first second whole : Report,
      (g.deriveEdges rules .derived n).1 = .ok first ∧
      (g.deriveEdges rules .derived (max n m)).1 = .ok whole ∧
      (g.deriveEdges rules .derived n).2.deriveEdges rules .derived m =
        (.ok second, (g.deriveEdges rules .derived (max n m)).2) ∧
      second.createdPerGeneration =
        List.replicate (min n m) 0 ++ whole.createdPerGeneration.drop n ∧
      second.edgesCreated = second.createdPerGeneration.sum ∧
      (g.deriveEdges rules .derived n).2.deriveEdges rules .derived n =
        (.ok ⟨n, 0, List.replicate n 0⟩, (g.deriveEdges rules .derived n).2) := by
  have coherent := reachable.coherent
  have wellFormed := wellFormed_of_compiled compiled
  have final := coherent.advance rules (List.range' 1 n)
  obtain ⟨more, createdMore⟩ := coherent.advance_again wellFormed n m
  obtain ⟨again, createdAgain⟩ := coherent.advance_again wellFormed n n
  have nothing : (g.advance rules (List.range' 1 n)).created rules (List.range' 1 n) =
      List.replicate n 0 := by
    rw [createdAgain, Nat.max_self, Nat.min_self,
      List.drop_of_length_le (by rw [length_created, List.length_range']), List.append_nil]
  simp only [coherent.deriveEdges_eq wellFormed, final.deriveEdges_eq wellFormed]
  refine ⟨_, _, _, rfl, rfl, Prod.ext rfl more, createdMore, rfl, ?_⟩
  rw [again, nothing, Nat.max_self, List.sum_replicate_nat, Nat.mul_zero]

/-- The sample with an edge that says that generation 7 has made it. The first
generations do not see it, and do not store it anew. -/
def strayed : Graph := (sample.call (.addEdge (.derived "ann" ["near"] "cyd" ⟨"by hand", 7⟩))).2

theorem deriveEdges_deriveEdges_strayed :
    strayed.Reachable ∧ (∀ r ∈ [nearRule, alikeRule], ∃ s : RuleSpec, s.compile = .ok r) ∧
      ∃ first second whole : Report,
        (strayed.deriveEdges [nearRule, alikeRule] .derived 1).1 = .ok first ∧
        (strayed.deriveEdges [nearRule, alikeRule] .derived 2).1 = .ok whole ∧
        (strayed.deriveEdges [nearRule, alikeRule] .derived 1).2.deriveEdges
            [nearRule, alikeRule] .derived 2 =
          (.ok second, (strayed.deriveEdges [nearRule, alikeRule] .derived 2).2) ∧
        first.createdPerGeneration = [1] ∧ second.createdPerGeneration = [0, 1] ∧
        whole.createdPerGeneration = [1, 1] := by
  have reachable : strayed.Reachable := sample_reachable.call _
  obtain ⟨first, second, whole, ran, ranWhole, ranAgain, rest, -⟩ :=
    deriveEdges_deriveEdges reachable sampleRules_compiled 1 2
  have one : (strayed.deriveEdges [nearRule, alikeRule] .derived 1).1 = .ok ⟨1, 1, [1]⟩ := by
    decide +kernel
  have two : (strayed.deriveEdges [nearRule, alikeRule] .derived 2).1 = .ok ⟨2, 2, [1, 1]⟩ := by
    decide +kernel
  obtain rfl := Except.ok.inj (ran.symm.trans one)
  obtain rfl := Except.ok.inj (ranWhole.symm.trans two)
  exact ⟨reachable, sampleRules_compiled, _, second, _, one, two, ranAgain, rfl, rest, rfl⟩

end Trellis.Graph
