/-
# Trellis.Dataset — made-up graphs of a known shape
-/
import Trellis.Graph.Stats

namespace Trellis

set_option autoImplicit false

/-- The elements of a graph before it is built. -/
structure Dataset where
  vertices : List Vertex
  edges : List Edge

namespace Dataset

def build (d : Dataset) : Except InputError Graph := Graph.build d.vertices d.edges

def numbered (stem : String) (n : Nat) : String := stem ++ toString n

/-- A straight chain: each vertex has a type of its own and is linked to the next. -/
def chain (length : Nat) : Dataset where
  vertices := (List.range length).map fun n =>
    .of (numbered "v" n) [numbered "t" n] (numbered "vertex " n)
  edges := (List.range' 1 (length - 1)).map fun n =>
    .asserted (numbered "v" (n - 1)) ["link"] (numbered "v" n)

end Dataset

end Trellis
