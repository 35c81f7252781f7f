/-
# Trellis.Proofs.Candidates — one edge for each match

A rule runs its antecedent, takes two vertices from each row by their places and passes
over a row that has no vertex at one of them. There is no such row. The antecedent has two
hops, so its rows are walks along two strides, and such a walk is three vertices and the
two edges between them: a `Match`. In the row of a match the vertex of every slot stands
where the slot looks for it (`Match.vertexAt?_row`).

A run lists the matches, each once (`Linked.exists_matches`). From each of them the rule
makes an edge, in the order of the run (`Rule.candidates_eq_map`), for any texts that it
can be compiled from (`candidates_one_per_match`).
-/
import Mathlib.Data.Set.List
import Trellis.Derive
import Trellis.Proofs.Consequences
import Trellis.Proofs.Query

namespace Trellis

set_option autoImplicit false

open Pattern (Slot)

namespace Graph

variable {g : Graph} {head : VertexFilter} {s s' : Stride}

/-! ## Matches -/

/-- A walk along two strides from a vertex that a filter accepts. -/
@[ext]
structure Match (g : Graph) (head : VertexFilter) (s s' : Stride) where
  first : Vertex
  second : Vertex
  third : Vertex
  left : Edge
  right : Edge
  vertices : first ∈ g.vertices ∧ second ∈ g.vertices ∧ third ∈ g.vertices
  edges : left ∈ g.edges ∧ right ∈ g.edges
  accepted : head.accepts first = true ∧ s.target.accepts second = true ∧
    s'.target.accepts third = true
  leads : s.edges.accepts left = true ∧
    s.direction.Leads left.source left.target first.id second.id
  leadsOn : s'.edges.accepts right = true ∧
    s'.direction.Leads right.source right.target second.id third.id

namespace Match

/-- The vertex of a slot. -/
def vertex (m : g.Match head s s') (slot : Slot) : Vertex := slot.pick m.first m.second m.third

def row (m : g.Match head s s') (shown : Bool) : Row :=
  ⟨[.vertex m.first.id shown, .edge m.left.id true, .vertex m.second.id s.isShown,
    .edge m.right.id true, .vertex m.third.id s'.isShown]⟩

theorem vertex_mem (m : g.Match head s s') (slot : Slot) : m.vertex slot ∈ g.vertices :=
  Slot.pick_of m.vertices.1 m.vertices.2.1 m.vertices.2.2 slot

/-- **Every slot finds its vertex.** -/
theorem vertexAt?_row (m : g.Match head s s') (shown : Bool) (slot : Slot) :
    (m.row shown).vertexAt? slot.rowIndex = some (m.vertex slot).id := by
  cases slot <;> rfl

theorem isSome_vertexAt?_row (m : g.Match head s s') (shown : Bool) (place : Nat) :
    ((m.row shown).vertexAt? place).isSome = true ↔ place ∈ [0, 2, 4] := by
  rcases place with _ | _ | _ | _ | _ | place <;>
    simp [row, Row.vertexAt?, Row.Element.vertexId?]

end Match

/-- The ids in a row tell its match from all others. -/
theorem Linked.row_injective (linked : g.Linked) (shown : Bool) :
    Function.Injective fun m : g.Match head s s' => m.row shown := by
  intro m n same
  simp only [Match.row, Row.mk.injEq, List.cons.injEq, Row.Element.vertex.injEq,
    Row.Element.edge.injEq, and_true] at same
  obtain ⟨first, left, second, right, third⟩ := same
  ext1
  · exact linked.vertex_eq_of_id m.vertices.1 n.vertices.1 first
  · exact linked.vertex_eq_of_id m.vertices.2.1 n.vertices.2.1 second
  · exact linked.vertex_eq_of_id m.vertices.2.2 n.vertices.2.2 third
  · exact linked.edge_eq_of_id m.edges.1 n.edges.1 left
  · exact linked.edge_eq_of_id m.edges.2 n.edges.2 right

/-- The walks along two strides are the rows of matches. -/
theorem isWalk_pair_iff {shown : Bool} {row : Row} :
    g.IsWalk head shown [s, s'] row ↔ ∃ m : g.Match head s s', m.row shown = row := by
  constructor
  · rintro ⟨a, stored, accepted, later, continues, rfl⟩
    cases continues with
    | @step _ _ _ e b later edge admitted leads vertex accepted' continues =>
        cases continues with
        | @step _ _ _ f c later edge' admitted' leads' vertex' accepted'' continues =>
            cases continues
            exact ⟨⟨a, b, c, e, f, ⟨stored, vertex, vertex'⟩, ⟨edge, edge'⟩,
              ⟨accepted, accepted', accepted''⟩, ⟨admitted, leads⟩, ⟨admitted', leads'⟩⟩, rfl⟩
  · rintro ⟨m, rfl⟩
    exact ⟨m.first, m.vertices.1, m.accepted.1, _,
      .step m.edges.1 m.leads.1 m.leads.2 m.vertices.2.1 m.accepted.2.1
        (.step m.edges.2 m.leadsOn.1 m.leadsOn.2 m.vertices.2.2 m.accepted.2.2 (.stop _)), rfl⟩

/-- **The walks along two strides are the rows of all matches, each once.** -/
theorem Linked.exists_matches (linked : g.Linked) (head : VertexFilter) (shown : Bool)
    (s s' : Stride) :
    ∃ found : List (g.Match head s s'), (found.Nodup ∧ ∀ m, m ∈ found) ∧
      g.walks head shown [s, s'] = found.map (·.row shown) := by
  have listed : g.walks head shown [s, s'] ∈
      Set.range (List.map fun m : g.Match head s s' => m.row shown) := by
    rw [Set.range_list_map]
    exact fun row here => isWalk_pair_iff.mp (mem_walks.mp here)
  obtain ⟨found, rows⟩ := listed
  -- no row is there twice, so no match is
  have apart := linked.nodup_walks head shown [s, s']
  rw [← rows] at apart
  refine ⟨found, ⟨apart.of_map _, fun m => ?_⟩, rows.symm⟩
  have here : m.row shown ∈ g.walks head shown [s, s'] :=
    mem_walks.mpr (isWalk_pair_iff.mpr ⟨m, rfl⟩)
  rw [← rows] at here
  exact (List.mem_map_of_injective (linked.row_injective shown)).mp here

end Graph

/-! ## Candidates -/

/-- **A rule makes an edge from each match**, between the vertices of the slots that its
production names. -/
theorem Rule.candidates_eq_map {g : Graph} {head : VertexFilter} {s s' : Stride} {shown : Bool}
    {r : Rule} {generation : Nat} {found : List (g.Match head s s')}
    (rows : g.run (some generation) r.antecedent.plan = found.map (·.row shown))
    (build : EdgeBuilder) :
    r.candidates g build generation = found.map fun m =>
      build (m.vertex r.production.source).id r.production.types (m.vertex r.production.target).id
        ⟨r.name, generation⟩ := by
  rw [Rule.candidates, rows, List.filterMap_map, List.filterMap_eq_map_iff_forall_eq_some]
  intro m _
  rw [Function.comp_apply, m.vertexAt?_row, m.vertexAt?_row]
  rfl

namespace Graph

variable {g : Graph}

/-- **No match of a rule is passed over.** The texts of a compiled rule are a chain of two
hops and a production. In any generation, the rows of the antecedent are those of the
matches of this chain, all of them and each once. Every row has five elements, with vertices
at the places 0, 2 and 4 and nowhere else, and every slot has there the stored vertex that
it stands for. So whichever slots the production names, the rule makes one edge for each
row, in the order of the rows, between the vertices that are matched at these slots. -/
theorem candidates_one_per_match (reachable : g.Reachable) {s : RuleSpec} {r : Rule}
    (compiled : s.compile = .ok r) (build : EdgeBuilder) (generation : Nat) :
    ∃ head first second,
      Pattern.parseAntecedent s.antecedent = .ok ⟨head, [first, second]⟩ ∧
      Pattern.parseProduction s.production = .ok r.production ∧
      ∃ found : List (g.Match head.asks (.ofHop (some generation) first)
          (.ofHop (some generation) second)),
        (found.Nodup ∧ ∀ m, m ∈ found) ∧
        g.run (some generation) r.antecedent.plan = found.map (·.row (head ≠ .hidden)) ∧
        (∀ row ∈ g.run (some generation) r.antecedent.plan, row.elements.length = 5 ∧
          ∀ place, (row.vertexAt? place).isSome = true ↔ place ∈ [0, 2, 4]) ∧
        (∀ m ∈ found, ∀ slot, m.vertex slot ∈ g.vertices ∧
          (m.row (head ≠ .hidden)).vertexAt? (2 * (slot.position - 1)) =
            some (m.vertex slot).id) ∧
        r.candidates g build generation = found.map fun m =>
          build (m.vertex r.production.source).id r.production.types
            (m.vertex r.production.target).id ⟨r.name, generation⟩ := by
  obtain ⟨⟨head, hops⟩, readChain, readProduction, antecedent⟩ := halves_of_compile compiled
  obtain ⟨first, second, rfl⟩ :=
    List.length_eq_two.mp (Pattern.path_of_parseAntecedent readChain).1
  obtain ⟨found, all, walks⟩ := reachable.coherent.toLinked.exists_matches head.asks
    (head ≠ .hidden) (.ofHop (some generation) first) (.ofHop (some generation) second)
  have rows : g.run (some generation) r.antecedent.plan = found.map (·.row (head ≠ .hidden)) := by
    rw [antecedent, reachable.coherent.run_ofChain (List.cons_ne_nil first [second])]
    exact walks
  refine ⟨head, first, second, readChain, readProduction, found, all, rows, fun row here => ?_,
    fun m _ slot => ⟨m.vertex_mem slot, ?_⟩, Rule.candidates_eq_map rows build⟩
  · rw [rows] at here
    obtain ⟨m, -, rfl⟩ := List.mem_map.mp here
    exact ⟨rfl, m.isSome_vertexAt?_row _⟩
  · rw [← slot.rowIndex_eq]
    exact m.vertexAt?_row _ slot

/-- From whoever is joined to somebody that a person knows, back to this person. -/
def peerSpec : RuleSpec := ⟨none, "(person)[knows]>()<[](person)", "(3)[peer](1)"⟩

def peerRule : Rule where
  name := "(person)[knows]>()<[](person) => (3)[peer](1)"
  antecedent :=
    let person : Plan.Node := ⟨["person"], none, [], .typed⟩
    let anyone : Plan.Node := ⟨[], none, [], .hidden⟩
    ⟨.walk [⟨person, ⟨["knows"], 1, false, true, .outbound⟩, anyone⟩,
      ⟨anyone, ⟨[], 1, false, true, .inbound⟩, person⟩]⟩
  production := ⟨.third, .first, ["peer"]⟩

/-- Three matches make one edge between them, and it is three candidates. -/
theorem candidates_one_per_match_peers :
    sample.Reachable ∧ peerSpec.compile = .ok peerRule ∧
      (∃ head first second,
        Pattern.parseAntecedent peerSpec.antecedent = .ok ⟨head, [first, second]⟩ ∧
        ∃ found : List (sample.Match head.asks (.ofHop (some 1) first) (.ofHop (some 1) second)),
          (found.Nodup ∧ ∀ m, m ∈ found) ∧
          peerRule.candidates sample .derived 1 = found.map fun m =>
            .derived m.third.id ["peer"] m.first.id ⟨peerRule.name, 1⟩) ∧
      (peerRule.candidates sample .derived 1).map (·.id.text) =
        ["ann>peer>ann", "bob>peer>ann", "bob>peer>bob", "ann>peer>bob", "bob>peer>bob",
          "bob>peer>bob"] := by
  have compiled : peerSpec.compile = .ok peerRule := by decide +kernel
  obtain ⟨head, first, second, readChain, -, found, all, -, -, -, made⟩ :=
    candidates_one_per_match sample_reachable compiled .derived 1
  exact ⟨sample_reachable, compiled, ⟨head, first, second, readChain, found, all, made⟩,
    by decide +kernel⟩

end Graph

end Trellis
