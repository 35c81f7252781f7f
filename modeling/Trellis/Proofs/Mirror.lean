/-
# Trellis.Proofs.Mirror — a pattern read from its other end

The mirror of a chain has its nodes and links in reverse order, and each link has its bonds
swapped. What leads along a link from one vertex to another leads along its mirror back
(`Link.leads_mirror`), so a walk read backwards is a walk along the mirror: it is turned
around hop by hop, the part behind a vertex being a walk of the mirror already
(`matches_mirrorOnto`). As the mirror of the mirror is the chain itself, the two have the
same matches but for the direction in which they are read (`run_mirror_perm`); their order
is that of two different searches and may differ.
-/
import Trellis.Proofs.Query

namespace Trellis

set_option autoImplicit false

open Pattern (Node Link Hop Chain)

def Row.reversed (r : Row) : Row := ⟨r.elements.reverse⟩

theorem Row.reversed_reversed (r : Row) : r.reversed.reversed = r := by
  simp [reversed]

/-! ## Mirrors -/

namespace Pattern

/-- The link seen from its other end. -/
def Link.mirror (l : Link) : Link := { l with leftBond := l.rightBond, rightBond := l.leftBond }

theorem Link.mirror_mirror (l : Link) : l.mirror.mirror = l := rfl

theorem Link.leads_mirror (l : Link) (source target id next : String) :
    l.mirror.direction.Leads source target id next ↔ l.direction.Leads source target next id := by
  cases left : l.leftBond <;> cases right : l.rightBond <;>
    simp only [mirror, direction, left, right, Direction.ofBonds, Direction.Leads] <;> tauto

namespace Chain

/-- The hops that lead back to a node, taken from its other end, in front of hops that lead
on from it. -/
def mirrorOnto (node : Node) (behind : List Hop) : List Hop → Chain
  | [] => ⟨node, behind⟩
  | hop :: rest => mirrorOnto hop.node (⟨hop.link.mirror, node⟩ :: behind) rest

/-- The chain read from its last node to its first. -/
def mirror (c : Chain) : Chain := mirrorOnto c.head [] c.hops

theorem nodes_mirrorOnto (node : Node) (behind hops : List Hop) :
    (mirrorOnto node behind hops).nodes =
      (hops.map (·.node)).reverse ++ node :: behind.map (·.node) := by
  induction hops generalizing node behind with
  | nil => rfl
  | cons hop rest ih => simp [mirrorOnto, ih]

theorem links_mirrorOnto (node : Node) (behind hops : List Hop) :
    (mirrorOnto node behind hops).links =
      (hops.map (·.link.mirror)).reverse ++ behind.map (·.link) := by
  induction hops generalizing node behind with
  | nil => rfl
  | cons hop rest ih => simp [mirrorOnto, ih]

theorem nodes_mirror (c : Chain) : c.mirror.nodes = c.nodes.reverse := by
  rw [mirror, nodes_mirrorOnto]
  simp [nodes]

theorem links_mirror (c : Chain) : c.mirror.links = c.links.reverse.map Link.mirror := by
  rw [mirror, links_mirrorOnto]
  simp [links, Function.comp_def]

/-- Turning around at the end gives back what was behind and what came after. -/
theorem mirror_mirrorOnto (node : Node) (behind hops : List Hop) :
    (mirrorOnto node behind hops).mirror = mirrorOnto node hops behind := by
  induction hops generalizing node behind with
  | nil => rfl
  | cons hop rest ih => rw [mirrorOnto, ih, mirrorOnto, Link.mirror_mirror]

theorem mirror_mirror (c : Chain) : c.mirror.mirror = c :=
  mirror_mirrorOnto c.head [] c.hops

theorem hops_mirror_ne_nil {c : Chain} (long : c.hops ≠ []) : c.mirror.hops ≠ [] := by
  have links := c.links_mirror
  intro none_
  rw [Chain.links, none_] at links
  exact long (by simpa [Chain.links] using links.symm)

end Chain

end Pattern

namespace Graph

variable {g : Graph} {limit? : Option Nat} {c : Chain} {row : Row}

/-! ## Walks read backwards -/

/-- What follows a vertex along a chain, read backwards, leads to it along the mirror; the
walk that is behind the vertex goes on from there. -/
theorem matches_mirrorOnto {node : Node} {behind hops : List Hop} {v : Vertex}
    (stored : v ∈ g.vertices) (asked : node.asks.accepts v = true)
    {before later : List Row.Element}
    (back : g.Continues v.id (behind.map (.ofHop limit?)) before)
    (on : g.Continues v.id (hops.map (.ofHop limit?)) later) :
    g.Matches limit? (.mirrorOnto node behind hops)
      ⟨later.reverse ++ .vertex v.id (node ≠ .hidden) :: before⟩ := by
  induction hops generalizing node behind v before later with
  | nil =>
      cases on
      exact ⟨v, stored, asked, before, back, rfl⟩
  | cons hop rest ih =>
      rw [List.map_cons] at on
      cases on with
      | @step _ _ _ e w later edge admitted leads vertex accepted continues =>
          -- the edge leads back, to the node that has just been left
          have return_ : g.Continues w.id
              ((⟨hop.link.mirror, node⟩ :: behind : List Hop).map (.ofHop limit?))
              (.edge e.id true :: .vertex v.id (node ≠ .hidden) :: before) :=
            .step edge admitted ((hop.link.leads_mirror _ _ _ _).mpr leads) stored asked back
          have whole := ih vertex accepted return_ continues
          simpa [Chain.mirrorOnto, Stride.ofHop] using whole

theorem Matches.mirror (is : g.Matches limit? c row) : g.Matches limit? c.mirror row.reversed := by
  obtain ⟨v, stored, asked, later, continues, rfl⟩ := is
  have whole : g.Matches limit? (.mirrorOnto c.head [] c.hops) _ :=
    matches_mirrorOnto stored asked (.stop v.id) continues
  simpa [Chain.mirror, Row.reversed] using whole

theorem matches_mirror_iff : g.Matches limit? c.mirror row ↔ g.Matches limit? c row.reversed := by
  constructor
  · intro is
    simpa only [Chain.mirror_mirror] using is.mirror
  · intro is
    simpa only [Row.reversed_reversed] using is.mirror

theorem reversed_injective : Function.Injective Row.reversed := fun r r' same => by
  rw [← r.reversed_reversed, same, r'.reversed_reversed]

/-- **A pattern and its mirror match the same walks**: the rows of the mirror are the rows
of the pattern read backwards, each as often, under any limit. -/
theorem run_mirror_perm (reachable : g.Reachable) (limit? : Option Nat) (long : c.hops ≠ []) :
    c.mirror.nodes = c.nodes.reverse ∧ c.mirror.links = c.links.reverse.map Link.mirror ∧
      (g.run limit? (.ofChain c.mirror)).Perm
        ((g.run limit? (.ofChain c)).map Row.reversed) := by
  have coherent := reachable.coherent
  refine ⟨c.nodes_mirror, c.links_mirror, ?_⟩
  rw [coherent.run_ofChain (Chain.hops_mirror_ne_nil long), coherent.run_ofChain long]
  have once := coherent.toLinked.nodup_walks c.mirror.head.asks (c.mirror.head ≠ .hidden)
    (c.mirror.hops.map (.ofHop limit?))
  have once' := coherent.toLinked.nodup_walks c.head.asks (c.head ≠ .hidden)
    (c.hops.map (.ofHop limit?))
  refine (List.perm_ext_iff_of_nodup once (once'.map reversed_injective)).mpr fun row => ?_
  have here : row ∈ g.matchesOf limit? c.mirror ↔ row.reversed ∈ g.matchesOf limit? c :=
    mem_walks.trans (matches_mirror_iff.trans mem_walks.symm)
  rw [List.mem_map]
  constructor
  · exact fun found => ⟨row.reversed, here.mp found, row.reversed_reversed⟩
  · rintro ⟨r, found, rfl⟩
    exact here.mpr (by rwa [Row.reversed_reversed])

theorem run_mirror_perm_sample :
    sample.Reachable ∧ sampleChain.hops ≠ [] ∧
      (sample.run none (.ofChain sampleChain.mirror)).Perm
        ((sample.run none (.ofChain sampleChain)).map Row.reversed) ∧
      (sample.run none (.ofChain sampleChain.mirror)).map (·.ids) =
        [["ann", "bob>knows>ann", "bob", "bob>knows>bob", "bob"],
          ["bob", "ann>knows>bob", "ann", "ann>knows>bob", "bob"],
          ["bob", "ann>knows>bob", "ann", "bob>knows>ann", "bob"],
          ["bob", "bob>knows>bob", "bob", "bob>knows>bob", "bob"],
          ["cyd", "bob>knows,likes>cyd", "bob", "bob>knows>bob", "bob"]] ∧
      ((sample.run none (.ofChain sampleChain)).map Row.reversed).map (·.ids) =
        [["cyd", "bob>knows,likes>cyd", "bob", "bob>knows>bob", "bob"],
          ["bob", "bob>knows>bob", "bob", "bob>knows>bob", "bob"],
          ["ann", "bob>knows>ann", "bob", "bob>knows>bob", "bob"],
          ["bob", "ann>knows>bob", "ann", "bob>knows>ann", "bob"],
          ["bob", "ann>knows>bob", "ann", "ann>knows>bob", "bob"]] :=
  ⟨sample_reachable, by decide, (run_mirror_perm sample_reachable none (by decide)).2.2,
    by decide +kernel, by decide +kernel⟩

end Graph

end Trellis
