/-
# Trellis.Proofs.RuleOrder — the order of rules decides the order of new edges only

What later generations and the report depend on is the set of identities with their
generations (`dated`): it determines what a generation sees, and how many edges there
are. Two graphs with the same vertices and the same dated identities are `Alike`, and
they stay alike when each runs a generation by the same rules, in whatever order they
are listed and however often (`Alike.runGeneration`).

What may differ is which of the edges of one identity is stored, when several rules
make it in one generation. Those differ in the rule on record and in nothing else,
for the edge of a match is determined by its identity, its generation and the name of
its rule (`Grown.eq_or_recordedApart`).
-/
import Trellis.Proofs.Rerun

namespace Trellis.Graph

set_option autoImplicit false

variable {g h start : Graph} {rules rules' : List Rule} {n : Nat}

/-! ## Dated identities -/

/-- The identities of all edges, each with the generation on record. -/
def dated (g : Graph) : Set (Edge.Identity × Option Nat) :=
  { d | ∃ e ∈ g.edges, (e.identity, e.generation) = d }

theorem identities_eq_image (g : Graph) : g.identities = Set.image Prod.fst g.dated := by
  refine Set.ext fun i => ⟨?_, ?_⟩
  · rintro ⟨e, stored, rfl⟩
    exact ⟨_, ⟨e, stored, rfl⟩, rfl⟩
  · rintro ⟨_, ⟨e, stored, rfl⟩, rfl⟩
    exact ⟨e, stored, rfl⟩

theorem visible_eq_image (g : Graph) (generation : Nat) :
    g.visible generation =
      Set.image Prod.fst { d ∈ g.dated | d.2.all (· < generation) = true } := by
  refine Set.ext fun i => ⟨?_, ?_⟩
  · rintro ⟨e, stored, seen, rfl⟩
    exact ⟨_, ⟨⟨e, stored, rfl⟩, seen⟩, rfl⟩
  · rintro ⟨_, ⟨⟨e, stored, rfl⟩, seen⟩, rfl⟩
    exact ⟨e, stored, seen, rfl⟩

/-- **A generation adds the new identities among the products, with its own number.** -/
theorem Coherent.dated_runGeneration (coherent : g.Coherent)
    (wellFormed : ∀ r ∈ rules, r.WellFormed) (generation : Nat) :
    (g.runGeneration rules .derived generation).2.dated = g.dated ∪
      { d | d.1 ∈ products rules g.vertices (g.visible generation) ∧ d.1 ∉ g.identities ∧
        d.2 = some generation } := by
  obtain ⟨added, -, -, edges, new, made⟩ := coherent.runGeneration_spec wellFormed generation
  refine Set.Subset.antisymm ?_ (Set.union_subset ?_ ?_)
  · rintro d ⟨e, stored, rfl⟩
    rw [edges, List.mem_append] at stored
    rcases stored with old | now
    · exact Or.inl ⟨e, old, rfl⟩
    · obtain ⟨unknown, r, rule, a, b, c, matched, rfl⟩ := new e now
      exact Or.inr ⟨⟨r, rule, a, b, c, matched, (wellFormed r rule).identity_edge generation a b c⟩,
        unknown, r.generation_edge generation a b c⟩
  · rintro d ⟨e, stored, rfl⟩
    exact ⟨e, edges ▸ List.mem_append_left added stored, rfl⟩
  · rintro ⟨i, date⟩ ⟨product, unknown, date_eq⟩
    obtain rfl : date = some generation := date_eq
    obtain ⟨e, stored, rfl⟩ := made product
    -- the edge that has the identity is not an old one
    rcases List.mem_append.mp (edges ▸ stored) with old | now
    · exact absurd ⟨e, old, rfl⟩ unknown
    · obtain ⟨-, r, -, a, b, c, -, rfl⟩ := new e now
      exact ⟨_, stored, Prod.ext rfl (r.generation_edge generation a b c)⟩

/-! ## Graphs that are alike -/

/-- The same vertices, and the same edges up to their order and the rules on record. -/
structure Alike (g h : Graph) : Prop where
  vertices : g.vertices = h.vertices
  dated : g.dated = h.dated

namespace Alike

theorem refl (g : Graph) : g.Alike g := ⟨rfl, rfl⟩

theorem identities (alike : g.Alike h) : g.identities = h.identities := by
  rw [identities_eq_image, alike.dated, ← identities_eq_image]

theorem visible (alike : g.Alike h) (generation : Nat) :
    g.visible generation = h.visible generation := by
  rw [visible_eq_image, alike.dated, ← visible_eq_image]

theorem length_edges (alike : g.Alike h) (left : g.Coherent) (right : h.Coherent) :
    g.edges.length = h.edges.length := by
  have perm : (g.edges.map Edge.identity).Perm (h.edges.map Edge.identity) := by
    rw [List.perm_ext_iff_of_nodup left.toLinked.nodup_identities right.toLinked.nodup_identities]
    intro i
    rw [List.mem_map, List.mem_map]
    exact Set.ext_iff.mp alike.identities i
  simpa using perm.length_eq

theorem generation_eq (alike : g.Alike h) (right : h.Coherent) {e f : Edge} (stored : e ∈ g.edges)
    (stored' : f ∈ h.edges) (same : e.identity = f.identity) : e.generation = f.generation := by
  obtain ⟨e', there, dates⟩ := Set.ext_iff.mp alike.dated _ |>.mp ⟨e, stored, rfl⟩
  obtain ⟨sameIdentity, sameGeneration⟩ := Prod.mk.inj dates
  obtain rfl := right.toLinked.edge_eq_of_identity there stored' (sameIdentity.trans same)
  exact sameGeneration.symm

variable (wellFormed : ∀ r ∈ rules, r.WellFormed) (same : ∀ r, r ∈ rules ↔ r ∈ rules')

include wellFormed same

/-- **A generation by the same rules keeps graphs alike.** -/
theorem runGeneration (alike : g.Alike h) (left : g.Coherent) (right : h.Coherent)
    (generation : Nat) :
    (g.runGeneration rules .derived generation).2.Alike
      (h.runGeneration rules' .derived generation).2 := by
  have wellFormed' : ∀ r ∈ rules', r.WellFormed := fun r rule => wellFormed r ((same r).mpr rule)
  constructor
  · rw [left.vertices_runGeneration wellFormed, right.vertices_runGeneration wellFormed',
      alike.vertices]
  · rw [left.dated_runGeneration wellFormed, right.dated_runGeneration wellFormed', alike.dated,
      alike.vertices, alike.visible, alike.identities, products_congr same]

theorem advance (alike : g.Alike h) (left : g.Coherent) (right : h.Coherent)
    (generations : List Nat) :
    (g.advance rules generations).Alike (h.advance rules' generations) ∧
      g.created rules generations = h.created rules' generations := by
  induction generations generalizing g h with
  | nil => exact ⟨alike, rfl⟩
  | cons generation rest ih =>
      have next := alike.runGeneration wellFormed same left right generation
      have left' := left.runGeneration rules .derived generation
      have right' := right.runGeneration rules' .derived generation
      obtain ⟨final, counts⟩ := ih next left' right'
      rw [advance_cons, advance_cons, created, created]
      exact ⟨final, by rw [counts, alike.length_edges left right, next.length_edges left' right']⟩

end Alike

/-! ## The rules on record -/

/-- The edges that are new are edges of matches in what their generations see, and those
generations are not later than the n-th. -/
structure Grown (start : Graph) (rules : List Rule) (n : Nat) (g : Graph) : Prop where
  coherent : g.Coherent
  vertices : g.vertices = start.vertices
  edges : ∃ added, g.edges = start.edges ++ added ∧ ∀ e ∈ added, e.identity ∉ start.identities ∧
    ∃ k ≤ n, ∃ r ∈ rules, ∃ a b c, r.Matches g.vertices (g.visible k) a b c ∧ e = r.edge k a b c

/-- Two edges that differ in the rule on record, when each of the two rules makes the
edge of what the generation sees. -/
def RecordedApart (g : Graph) (rules : List Rule) (e f : Edge) : Prop :=
  ∃ k, ∃ r ∈ rules, ∃ r' ∈ rules, r.name ≠ r'.name ∧
    e.identity ∈ products [r] g.vertices (g.visible k) ∧
    e.identity ∈ products [r'] g.vertices (g.visible k) ∧
    e.derivationPath = [⟨r.name, k⟩] ∧ f = { e with derivationPath := [⟨r'.name, k⟩] }

namespace Grown

theorem zero (coherent : start.Coherent) (rules : List Rule) : Grown start rules 0 start where
  coherent := coherent
  vertices := rfl
  edges := ⟨[], by simp, by simp⟩

theorem runGeneration (grown : Grown start rules n g) (wellFormed : ∀ r ∈ rules, r.WellFormed) :
    Grown start rules (n + 1) (g.runGeneration rules .derived (n + 1)).2 := by
  obtain ⟨added, -, vertices, edges, new, -⟩ := grown.coherent.runGeneration_spec wellFormed (n + 1)
  obtain ⟨earlier, edges', old⟩ := grown.edges
  have sees : ∀ k ≤ n + 1, (g.runGeneration rules .derived (n + 1)).2.visible k = g.visible k :=
    fun k bound => grown.coherent.visible_runGeneration wellFormed bound
  refine ⟨grown.coherent.runGeneration rules .derived (n + 1), vertices.trans grown.vertices,
    earlier ++ added, by rw [edges, edges', List.append_assoc], fun e here => ?_⟩
  rcases List.mem_append.mp here with before | now
  · obtain ⟨unknown, k, bound, r, rule, a, b, c, matched, rfl⟩ := old e before
    have bound' : k ≤ n + 1 := by omega
    rw [← vertices, ← sees k bound'] at matched
    exact ⟨unknown, k, bound', r, rule, a, b, c, matched, rfl⟩
  · obtain ⟨unknown, r, rule, a, b, c, matched, rfl⟩ := new e now
    rw [← vertices, ← sees (n + 1) le_rfl] at matched
    refine ⟨fun known => unknown ?_, n + 1, le_rfl, r, rule, a, b, c, matched, rfl⟩
    obtain ⟨f, stored, same⟩ := known
    exact ⟨f, edges' ▸ List.mem_append_left earlier stored, same⟩

theorem advance (grown : Grown start rules n g) (wellFormed : ∀ r ∈ rules, r.WellFormed)
    (more : Nat) : Grown start rules (n + more) (g.advance rules (List.range' (n + 1) more)) := by
  induction more generalizing n g with
  | zero => exact grown
  | succ more ih =>
      have sum : n + (more + 1) = n + 1 + more := by omega
      rw [List.range'_succ, advance_cons, sum]
      exact ih (grown.runGeneration wellFormed)

/-- **Edges of one identity differ at most in the rule on record.** -/
theorem eq_or_recordedApart (grown : Grown start rules n g) (grown' : Grown start rules' n h)
    (alike : g.Alike h) (wellFormed : ∀ r ∈ rules, r.WellFormed)
    (same : ∀ r, r ∈ rules ↔ r ∈ rules') (coherent : start.Coherent) {e f : Edge}
    (stored : e ∈ g.edges) (stored' : f ∈ h.edges) (identity : e.identity = f.identity) :
    e = f ∨ g.RecordedApart rules e f := by
  obtain ⟨added, edges, new⟩ := grown.edges
  obtain ⟨added', edges', new'⟩ := grown'.edges
  have left := grown.coherent.toLinked.storable_of_mem_edges stored
  have right := grown'.coherent.toLinked.storable_of_mem_edges stored'
  have sameGeneration := alike.generation_eq grown'.coherent stored stored' identity
  obtain ⟨sources, types, targets⟩ := left.parts_of_id_eq right ((left.id_eq_iff right).mpr identity)
  rcases List.mem_append.mp (edges ▸ stored) with old | now <;>
    rcases List.mem_append.mp (edges' ▸ stored') with old' | now'
  · exact Or.inl (coherent.toLinked.edge_eq_of_identity old old' identity)
  · exact absurd ⟨e, old, identity⟩ (new' f now').1
  · exact absurd ⟨f, old', identity.symm⟩ (new e now).1
  · obtain ⟨-, k, -, r, rule, a, b, c, matched, rfl⟩ := new e now
    obtain ⟨-, k', -, r', rule', a', b', c', matched', rfl⟩ := new' f now'
    rw [r.generation_edge, r'.generation_edge, Option.some.injEq] at sameGeneration
    subst sameGeneration
    have swapped : r'.edge k a' b' c' =
        { r.edge k a b c with derivationPath := [⟨r'.name, k⟩] } := by
      rw [Edge.mk.injEq]
      exact ⟨sources.symm, targets.symm, types.symm, rfl⟩
    by_cases named : r.name = r'.name
    · rw [← named] at swapped
      exact Or.inl swapped.symm
    · have rule' := (same r').mpr rule'
      rw [← alike.vertices, ← alike.visible] at matched'
      refine Or.inr ⟨k, r, rule, r', rule', named, ?_, ?_, rfl, swapped⟩
      · exact ⟨r, List.mem_singleton_self r, a, b, c, matched, (wellFormed r rule).identity_edge k a b c⟩
      · rw [identity]
        exact ⟨r', List.mem_singleton_self r', a', b', c', matched',
          (wellFormed r' rule').identity_edge k a' b' c'⟩

end Grown

/-- **Derivation does not depend on the order of its rules**, nor on how often each is
listed: the reports are equal, and so are the graphs up to the order of the new edges
and the rule on record of an edge that several rules make in one generation. -/
theorem deriveEdges_of_same_rules (reachable : g.Reachable)
    (compiled : ∀ r ∈ rules, ∃ s : RuleSpec, s.compile = .ok r)
    (same : ∀ r, r ∈ rules ↔ r ∈ rules') (n : Nat) :
    ∃ report after after', g.deriveEdges rules .derived n = (.ok report, after) ∧
      g.deriveEdges rules' .derived n = (.ok report, after') ∧
      after.vertices = g.vertices ∧ after'.vertices = g.vertices ∧
      (∃ added, after.edges = g.edges ++ added) ∧ (∃ added, after'.edges = g.edges ++ added) ∧
      after.identities = after'.identities ∧
      ∀ e ∈ after.edges, ∀ f ∈ after'.edges, e.identity = f.identity →
        e.isDerived = f.isDerived ∧ e.generation = f.generation ∧
          (e = f ∨ after.RecordedApart rules e f) := by
  have coherent := reachable.coherent
  have wellFormed := wellFormed_of_compiled compiled
  have wellFormed' : ∀ r ∈ rules', r.WellFormed := fun r rule => wellFormed r ((same r).mpr rule)
  obtain ⟨alike, counts⟩ :=
    (Alike.refl g).advance wellFormed same coherent coherent (List.range' 1 n)
  have grown := (Grown.zero coherent rules).advance wellFormed n
  have grown' := (Grown.zero coherent rules').advance wellFormed' n
  obtain ⟨added, edges, -⟩ := grown.edges
  obtain ⟨added', edges', -⟩ := grown'.edges
  refine ⟨_, _, _, coherent.deriveEdges_eq wellFormed n, ?_, grown.vertices, grown'.vertices,
    ⟨added, edges⟩, ⟨added', edges'⟩, alike.identities, fun e stored f stored' identity => ?_⟩
  · rw [coherent.deriveEdges_eq wellFormed', counts]
  · have differ := grown.eq_or_recordedApart grown' alike wellFormed same coherent stored stored'
      identity
    refine ⟨?_, alike.generation_eq grown'.coherent stored stored' identity, differ⟩
    rcases differ with rfl | ⟨k, r, -, r', -, -, -, -, path, rfl⟩
    · rfl
    · rw [Edge.isDerived, Edge.isDerived, path]
      rfl

/-- Another rule that makes people near. -/
def closeRule : Rule where
  name := "close"
  antecedent := ⟨.walk [sampleTriple "knows" .outbound, sampleTriple "knows" .outbound]⟩
  production := ⟨.first, .third, ["near"]⟩

theorem deriveEdges_of_same_rules_sample :
    sample.Reachable ∧ (∀ r ∈ [nearRule, closeRule], ∃ s : RuleSpec, s.compile = .ok r) ∧
      (∀ r, r ∈ [nearRule, closeRule] ↔ r ∈ [closeRule, nearRule, closeRule]) ∧
      (∃ report after after',
        sample.deriveEdges [nearRule, closeRule] .derived 1 = (.ok report, after) ∧
        sample.deriveEdges [closeRule, nearRule, closeRule] .derived 1 = (.ok report, after') ∧
        after.identities = after'.identities) ∧
      (((sample.deriveEdges [nearRule, closeRule] .derived 1).2.edges.filter (·.isDerived)).map
          fun e => (e.id.text, e.derivationPath)) =
        [("ann>near>cyd", [⟨"near", 1⟩]), ("bob>near>cyd", [⟨"near", 1⟩]),
          ("ann>near>bob", [⟨"close", 1⟩]), ("ann>near>ann", [⟨"close", 1⟩]),
          ("bob>near>bob", [⟨"close", 1⟩]), ("bob>near>ann", [⟨"close", 1⟩])] ∧
      (((sample.deriveEdges [closeRule, nearRule, closeRule] .derived 1).2.edges.filter
          (·.isDerived)).map fun e => (e.id.text, e.derivationPath)) =
        [("ann>near>cyd", [⟨"close", 1⟩]), ("ann>near>bob", [⟨"close", 1⟩]),
          ("ann>near>ann", [⟨"close", 1⟩]), ("bob>near>cyd", [⟨"close", 1⟩]),
          ("bob>near>bob", [⟨"close", 1⟩]), ("bob>near>ann", [⟨"close", 1⟩])] := by
  have compiled : ∀ r ∈ [nearRule, closeRule], ∃ s : RuleSpec, s.compile = .ok r := by
    intro r rule
    simp only [List.mem_cons, List.not_mem_nil, or_false] at rule
    rcases rule with rfl | rfl
    · exact sampleRules_compiled nearRule List.mem_cons_self
    · exact ⟨⟨some "close", "()[knows]>()[knows]>()", "(1)[near](3)"⟩, by decide +kernel⟩
  have same : ∀ r, r ∈ [nearRule, closeRule] ↔ r ∈ [closeRule, nearRule, closeRule] := by
    intro r
    simp only [List.mem_cons, List.not_mem_nil, or_false]
    tauto
  obtain ⟨report, after, after', ran, ran', -, -, -, -, identities, -⟩ :=
    deriveEdges_of_same_rules sample_reachable compiled same 1
  exact ⟨sample_reachable, compiled, same, ⟨report, after, after', ran, ran', identities⟩,
    by decide +kernel, by decide +kernel⟩

end Trellis.Graph
