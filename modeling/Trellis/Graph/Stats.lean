/-
# Trellis.Graph.Stats — the counters of a graph and its indexes
-/
import Trellis.Graph.Removal

namespace Trellis.Graph

set_option autoImplicit false

structure Stats where
  vertices : Nat
  edges : Nat
  /-- Edges that wait for an endpoint. -/
  pendingEdges : Nat
  /-- Combinations of types under which some edge is filed. -/
  buckets : Nat
  /-- How often edges are filed, over all buckets. -/
  bucketEntries : Nat
  vertexTombstones : Nat
  edgeTombstones : Nat
  deriving DecidableEq

def stats (g : Graph) : Stats where
  vertices := g.vertexCount
  edges := g.edgeCount
  pendingEdges := g.edgeArena.live.countP (·.keys = [])
  buckets := g.buckets.keyCount
  bucketEntries := g.buckets.entryCount
  vertexTombstones := g.vertexTombstones
  edgeTombstones := g.edgeTombstones

end Trellis.Graph
