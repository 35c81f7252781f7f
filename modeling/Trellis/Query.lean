/-
# Trellis.Query — running plans

A plan of one node gives a row for each vertex that its filter accepts. A walk
keeps a frontier of rows that have got as far as some hop: it starts with the
vertices of the first node and extends every row by every edge that the hop
allows from the row's last vertex, outbound edges before inbound ones and each
in order of insertion. A limit hides the derived edges of that generation and
of later ones from the whole run.
-/
import Trellis.Distinct
import Trellis.Graph.Lookup
import Trellis.Plan
import Trellis.Row

namespace Trellis.Graph

set_option autoImplicit false

open Plan (Triple)

/-- An edge to follow and the vertex it leads to. -/
abbrev Move := EdgeId × String

/-- The moves from a vertex along one hop. A loop is one move, whichever way it
is taken. -/
def moves (g : Graph) (limit? : Option Nat) (t : Triple) (id : String) : List Move :=
  let here := some (VertexFilter.ofIds [id])
  let there := some t.target.filter
  let edge := t.link.edgeFilter.withGenerationLimit limit?
  let outbound :=
    if t.link.direction.includesOutbound then
      (g.filterEdges here edge there).map fun e => (e.id, e.target)
    else []
  let inbound :=
    if t.link.direction.includesInbound then
      (g.filterEdges there edge here).map fun e => (e.id, e.source)
    else []
  distinctBy (fun move => [move.1.text, move.2]) (outbound ++ inbound)

/-- The rows that extend a row by one hop. -/
def expand (g : Graph) (limit? : Option Nat) (t : Triple) (row : Row) : List Row :=
  match row.lastVertex? with
  | none => []
  | some id => (g.moves limit? t id).map fun move => row.extended move.1 move.2 t.target.isShown

/-- The rows of the first node of a walk. -/
def anchors (g : Graph) (node : Plan.Node) : List Row :=
  (g.filterVertices node.filter).map fun v => .start v.id node.isShown

def runWalk (g : Graph) (limit? : Option Nat) : List Triple → List Row
  | [] => []
  | first :: rest =>
    let frontier := (first :: rest).foldl (fun rows t => rows.flatMap (g.expand limit? t))
      (g.anchors first.source)
    distinctBy Row.ids frontier

/-- The rows of a plan, each once. -/
def run (g : Graph) (limit? : Option Nat) : Plan → List Row
  | .vertices filter => (g.filterVertices filter).map fun v => .start v.id true
  | .walk triples => g.runWalk limit? triples

/-! ## Patterns as text -/

/-- The plan of a query whose question mark may be left out. -/
def planOf (pattern : String) : Except PatternError Plan :=
  Plan.ofChain <$> Pattern.parseSearch pattern

def search (g : Graph) (pattern : String) : Except PatternError (List Row) :=
  g.run none <$> planOf pattern

def count (g : Graph) (pattern : String) : Except PatternError Nat :=
  List.length <$> g.search pattern

end Trellis.Graph
