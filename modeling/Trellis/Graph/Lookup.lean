/-
# Trellis.Graph.Lookup — finding elements by filters

A lookup takes its candidates from the narrowest index that the filters allow
and then tests every candidate against the filters, so that the index decides
only how much is looked at. The answer is in order of insertion. An edge is
found only while both its endpoints are stored.
-/
import Trellis.Graph.Basic

namespace Trellis.Graph

set_option autoImplicit false

/-- The slots among which a vertex filter has to look. -/
def vertexCandidates (g : Graph) (f : VertexFilter) : List Nat :=
  if !f.ids.isEmpty then Ascending.ofList (f.ids.filterMap (g.vertexSlots[·]?))
  else if !f.types.isEmpty then g.verticesByType.collect f.types
  else List.range g.vertexArena.size

/-- The vertices that a filter accepts. -/
def filterVertices (g : Graph) (f : VertexFilter) : List Vertex :=
  if f.isEmpty then g.vertices
  else ((g.vertexCandidates f).filterMap g.vertexArena.get?).filter f.accepts

/-- The types that a filter on an endpoint asks for. -/
def endpointTypes (f? : Option VertexFilter) : List String := (f?.map (·.types)).getD []

/-- The filter on an endpoint, if it lists ids. -/
def withIds? (f? : Option VertexFilter) : Option VertexFilter := f?.filter (!·.ids.isEmpty)

/-- The slots among which an edge lookup has to look: the edges at the ids it
names, at the source before the target, or else the buckets of its types. -/
def edgeCandidates (g : Graph) (source? : Option VertexFilter) (f : EdgeFilter)
    (target? : Option VertexFilter) : List Nat :=
  match withIds? source?, withIds? target? with
  | some source, _ => g.outbound.collect source.ids
  | none, some target => g.inbound.collect target.ids
  | none, none =>
    g.buckets.collect <|
      BucketKey.ofLookup (endpointTypes source?) f.types (endpointTypes target?) f.scope

/-- A vertex is stored, and the filter on it accepts it if there is one. -/
def endpointAccepted (g : Graph) (id : String) (f? : Option VertexFilter) : Bool :=
  (g.vertex? id).any fun v => f?.all (·.accepts v)

/-- The edges that a filter accepts, between vertices that the filters on the
endpoints accept. -/
def filterEdges (g : Graph) (source? : Option VertexFilter) (f : EdgeFilter)
    (target? : Option VertexFilter) : List Edge :=
  (((g.edgeCandidates source? f target?).filterMap g.edgeArena.get?).map (·.edge)).filter fun e =>
    f.accepts e && g.endpointAccepted e.source source? && g.endpointAccepted e.target target?

end Trellis.Graph
