/-
# Trellis.Vertex — the vertices of a graph

A vertex has an id, a list of type tags and a name. Its fields may hold
anything until an operation takes it in: `normalized` gives the stored form and
`check` says why a vertex cannot be stored. A search for a term in the name
pays no heed to case.
-/
import Trellis.Tag
import Trellis.Text.Occurrence

namespace Trellis

set_option autoImplicit false

open Text

structure Vertex where
  id : String
  types : List String
  name : String
  deriving DecidableEq

namespace Vertex

/-- A vertex with its types in normal form. -/
def of (id : String) (types : List String) (name : String) : Vertex :=
  ⟨id, Tag.normalize types, name⟩

def normalized (v : Vertex) : Vertex := { v with types := Tag.normalize v.types }

def hasAnyType (v : Vertex) (types : List String) : Bool := Tag.meets v.types types

/-- The term occurs in the name, whatever the case of either. -/
def nameContains (v : Vertex) (term : String) : Bool :=
  occursIn (lower term.toList) (lower v.name.toList)

/-- An id is not blank and holds no mark that separates the parts of an edge id. -/
def checkId (id : String) : Except InputError Unit :=
  if allBlank id.toList then .error .blankVertexId
  else if id.toList.contains '>' then .error (.separatorInVertexId id)
  else .ok ()

def check (v : Vertex) : Except InputError Unit := do
  checkId v.id
  Tag.check .vertex v.types

end Vertex

end Trellis
