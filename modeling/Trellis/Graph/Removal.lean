/-
# Trellis.Graph.Removal — taking elements out, and compaction

Removing an edge takes it out of every index and leaves its slot vacant;
removing a vertex first removes every edge at it, pending ones included. When
the vacant slots are many and outnumber the living elements, the graph is
compacted: built anew from its living elements in their order. Compaction
changes slots only, never what a reader sees.
-/
import Trellis.Graph.Basic

namespace Trellis.Graph

set_option autoImplicit false

/-- Takes the edge in a slot out of the arena and of every index. -/
def detachEdge (g : Graph) (slot : Nat) : Graph :=
  match g.edgeArena.get? slot with
  | none => g
  | some ⟨edge, keys⟩ =>
    { g with
      edgeArena := g.edgeArena.vacate slot
      edgeSlots := g.edgeSlots.erase edge.id
      outbound := g.outbound.withdraw edge.source slot
      inbound := g.inbound.withdraw edge.target slot
      buckets := g.buckets.withdrawAll keys slot }

/-- Takes the vertex in a slot out of the arena and of every index. -/
def detachVertex (g : Graph) (slot : Nat) : Graph :=
  match g.vertexArena.get? slot with
  | none => g
  | some vertex =>
    { g with
      vertexArena := g.vertexArena.vacate slot
      vertexSlots := g.vertexSlots.erase vertex.id
      verticesByType := g.verticesByType.withdrawAll vertex.types slot }

/-- The same elements in the same order, in arenas without a vacant slot. -/
def compact (g : Graph) : Graph :=
  g.edges.foldl storeEdge (g.vertices.foldl storeVertex empty)

def vertexTombstones (g : Graph) : Nat := g.vertexArena.size - g.vertexCount

def edgeTombstones (g : Graph) : Nat := g.edgeArena.size - g.edgeCount

/-- Fewer vacant slots than this never cause a compaction. -/
def compactionThreshold : Nat := 64

/-- The vacant slots are many and outnumber the living elements. -/
def isSparse (g : Graph) : Bool :=
  let live := g.vertexCount + g.edgeCount
  let tombstones := g.vertexArena.size + g.edgeArena.size - live
  compactionThreshold ≤ tombstones && live < tombstones

def compactIfSparse (g : Graph) : Graph := if g.isSparse then g.compact else g

/-- Removes a vertex and every edge at it; gives the vertex, if it was stored. -/
def removeVertex (g : Graph) (id : String) : Option Vertex × Graph :=
  match g.vertexSlots[id]? with
  | none => (none, g)
  | some slot =>
    let bare := (g.touching id).foldl detachEdge g
    (g.vertexArena.get? slot, (bare.detachVertex slot).compactIfSparse)

/-- Removes the edge that a text identifies; gives the edge, if it was stored. -/
def removeEdge (g : Graph) (raw : String) : Except EdgeIdError (Option Edge × Graph) := do
  let id ← EdgeId.parse raw
  return match g.edgeSlots[id]? with
    | none => (none, g)
    | some slot => ((·.edge) <$> g.edgeArena.get? slot, (g.detachEdge slot).compactIfSparse)

end Trellis.Graph
