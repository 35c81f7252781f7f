/-
# Trellis.Graph.Basic — the graph and its insertions

A graph keeps its vertices and its edges in arenas and indexes them: slots by
id, vertices by type, edges by source, by target and by combinations of types.
An edge may come before its endpoints. Until both are stored it is pending: it
has an id and is found by it, but no bucket lists it. Each vertex that arrives
files the edges that waited for it.

An insertion first puts the element into its normal form and then either
refuses it or stores it; what is refused leaves the graph as it was. A batch
stops at the first refusal and keeps what came before.
-/
import Trellis.Graph.Arena
import Trellis.Graph.BucketKey
import Trellis.Graph.Postings

namespace Trellis

set_option autoImplicit false

open Trellis.Graph (Arena BucketKey Postings)

/-- A stored edge and the keys it is filed under: none while an endpoint is missing. -/
structure Graph.EdgeEntry where
  edge : Edge
  keys : List BucketKey

structure Graph where
  vertexArena : Arena Vertex := {}
  /-- The slot of each living vertex, by its id. -/
  vertexSlots : Std.TreeMap String Nat := ∅
  /-- The slots of the living vertices with a type. -/
  verticesByType : Postings String := {}
  edgeArena : Arena Graph.EdgeEntry := {}
  /-- The slot of each living edge, by its id. -/
  edgeSlots : Std.TreeMap EdgeId Nat := ∅
  /-- The slots of the living edges that leave a vertex id. -/
  outbound : Postings String := {}
  /-- The slots of the living edges that enter a vertex id. -/
  inbound : Postings String := {}
  /-- The slots of the living edges that are not pending, by their keys. -/
  buckets : Postings BucketKey := {}

namespace Graph

def empty : Graph := {}

/-! ## Reading -/

def vertex? (g : Graph) (id : String) : Option Vertex := do
  g.vertexArena.get? (← g.vertexSlots[id]?)

def edge? (g : Graph) (id : EdgeId) : Option Edge := do
  (·.edge) <$> g.edgeArena.get? (← g.edgeSlots[id]?)

/-- The edge that a text identifies. -/
def findEdge (g : Graph) (raw : String) : Except EdgeIdError (Option Edge) :=
  g.edge? <$> EdgeId.parse raw

/-- All vertices in order of insertion. -/
def vertices (g : Graph) : List Vertex := g.vertexArena.live

/-- All edges in order of insertion, pending ones included. -/
def edges (g : Graph) : List Edge := g.edgeArena.live.map (·.edge)

def vertexCount (g : Graph) : Nat := g.vertexSlots.size

def edgeCount (g : Graph) : Nat := g.edgeSlots.size

/-- The vertices that some of the ids name, in the order of the ids. -/
def verticesById (g : Graph) (ids : List String) : List Vertex := ids.filterMap g.vertex?

/-- The edges that some of the ids name, in the order of the ids. -/
def edgesById (g : Graph) (ids : List EdgeId) : List Edge := ids.filterMap g.edge?

def hasVertex (g : Graph) (v : Vertex) : Bool := g.vertexSlots.contains v.id

def hasEdge (g : Graph) (e : Edge) : Bool := g.edgeSlots.contains e.id

/-- The slots of the edges at a vertex, in ascending order. -/
def touching (g : Graph) (id : String) : List Nat :=
  Ascending.ofList (g.outbound.slots id ++ g.inbound.slots id)

/-! ## Filing -/

/-- The keys of an edge, if both its endpoints are stored. -/
def keysFor? (g : Graph) (e : Edge) : Option (List BucketKey) := do
  let source ← g.vertex? e.source
  let target ← g.vertex? e.target
  return BucketKey.ofEdge source.types e.types target.types e.provenance

/-- Files the edge in a slot under its keys, if it has them. -/
def fileEdge (g : Graph) (slot : Nat) : Graph :=
  match g.edgeArena.get? slot with
  | none => g
  | some entry =>
    match g.keysFor? entry.edge with
    | none => g
    | some keys =>
      { g with
        buckets := g.buckets.fileAll keys slot
        edgeArena := g.edgeArena.set slot { entry with keys } }

def isPending (g : Graph) (slot : Nat) : Bool := (g.edgeArena.get? slot).any (·.keys = [])

/-- Files the edges that waited for a vertex. -/
def filePending (g : Graph) (id : String) : Graph :=
  ((g.touching id).filter g.isPending).foldl fileEdge g

/-! ## Insertion -/

/-- Stores a vertex that has been checked. -/
def storeVertex (g : Graph) (v : Vertex) : Graph :=
  let slot := g.vertexArena.size
  let stored := { g with
    vertexArena := g.vertexArena.push v
    vertexSlots := g.vertexSlots.insert v.id slot
    verticesByType := g.verticesByType.fileAll v.types slot }
  stored.filePending v.id

/-- Stores an edge that has been checked. -/
def storeEdge (g : Graph) (e : Edge) : Graph :=
  let slot := g.edgeArena.size
  let stored := { g with
    edgeArena := g.edgeArena.push ⟨e, []⟩
    edgeSlots := g.edgeSlots.insert e.id slot
    outbound := g.outbound.file e.source slot
    inbound := g.inbound.file e.target slot }
  stored.fileEdge slot

def insertVertex (g : Graph) (v : Vertex) : Except InputError Graph := do
  let v := v.normalized
  v.check
  if g.hasVertex v then .error (.duplicateVertex v.id)
  return g.storeVertex v

/-- An edge whose identity is taken is not stored again; the flag says whether
it was new. -/
def insertEdge (g : Graph) (e : Edge) : Except InputError (Bool × Graph) := do
  let e := e.normalized
  e.check
  return if g.hasEdge e then (false, g) else (true, g.storeEdge e)

/-- Inserts vertices in order, and counts them. -/
def insertVertices (g : Graph) : List Vertex → Except InputError Nat × Graph
  | [] => (.ok 0, g)
  | v :: rest =>
    match g.insertVertex v with
    | .error cause => (.error cause, g)
    | .ok stored =>
      let (count, final) := insertVertices stored rest
      ((· + 1) <$> count, final)

/-- Inserts edges in order, and counts those that were new. -/
def insertEdges (g : Graph) : List Edge → Except InputError Nat × Graph
  | [] => (.ok 0, g)
  | e :: rest =>
    match g.insertEdge e with
    | .error cause => (.error cause, g)
    | .ok (isNew, stored) =>
      let (count, final) := insertEdges stored rest
      ((· + isNew.toNat) <$> count, final)

/-- A graph of the given elements. -/
def build (vertices : List Vertex) (edges : List Edge) : Except InputError Graph :=
  match empty.insertVertices vertices with
  | (.error cause, _) => .error cause
  | (.ok _, g) =>
    match g.insertEdges edges with
    | (.error cause, _) => .error cause
    | (.ok _, g) => .ok g

end Graph

end Trellis
