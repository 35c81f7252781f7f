/-
# Trellis.Filter — which vertices and edges a lookup accepts

A vertex filter narrows by ids, by types and by a term in the name; an edge
filter by types, by provenance and by generation. A field that is empty or
absent does not narrow. Filters may hold any text: the `with…` functions give
the normal spelling, the fields themselves are compared as they stand.
-/
import Trellis.Edge

namespace Trellis

set_option autoImplicit false

/-- Which edges a lookup sees, by their provenance. -/
inductive Scope where
  | all
  | asserted
  | derived
  deriving DecidableEq

def Scope.admits : Scope → Provenance → Bool
  | .all, _ => true
  | .asserted, p => p = .asserted
  | .derived, p => p = .derived

/-- The provenances that a scope admits. -/
def Scope.provenances : Scope → List Provenance
  | .all => [.asserted, .derived]
  | .asserted => [.asserted]
  | .derived => [.derived]

structure VertexFilter where
  ids : List String := []
  types : List String := []
  term : Option String := none
  deriving DecidableEq

namespace VertexFilter

def ofIds (ids : List String) : VertexFilter := { ids }

def withTypes (f : VertexFilter) (types : List String) : VertexFilter :=
  { f with types := Tag.normalize types }

/-- An empty term is no term. -/
def withTerm (f : VertexFilter) (term : String) : VertexFilter :=
  { f with term := if term = "" then none else some term }

def ofTerm (term : String) : VertexFilter := withTerm {} term

/-- The term that is searched for: an empty one is ignored. -/
def activeTerm (f : VertexFilter) : Option String := f.term.filter (· ≠ "")

/-- The filter accepts every vertex because nothing narrows it. -/
def isEmpty (f : VertexFilter) : Bool :=
  f.ids.isEmpty && f.types.isEmpty && f.activeTerm.isNone

def accepts (f : VertexFilter) (v : Vertex) : Bool :=
  (f.ids.isEmpty || f.ids.contains v.id)
    && (f.types.isEmpty || v.hasAnyType f.types)
    && f.activeTerm.all v.nameContains

end VertexFilter

structure EdgeFilter where
  types : List String := []
  /-- Every listed type is needed, not one of them. -/
  inclusive : Bool := false
  scope : Scope := .all
  /-- Derived edges of this generation and later ones are hidden. -/
  generationLimit : Option Nat := none
  deriving DecidableEq

namespace EdgeFilter

def ofScope (scope : Scope) : EdgeFilter := { scope }

def withTypes (f : EdgeFilter) (types : List String) : EdgeFilter :=
  { f with types := Tag.normalize types }

def withInclusive (f : EdgeFilter) (inclusive : Bool) : EdgeFilter := { f with inclusive }

def withGenerationLimit (f : EdgeFilter) (limit : Option Nat) : EdgeFilter :=
  { f with generationLimit := limit }

/-- No limit is set, or the edge is asserted, or it was derived before the limit. -/
def reaches (f : EdgeFilter) (e : Edge) : Bool :=
  f.generationLimit.all fun limit => e.generation.all (· < limit)

def acceptsTypes (f : EdgeFilter) (e : Edge) : Bool :=
  f.types.isEmpty || if f.inclusive then e.hasAllTypes f.types else e.hasAnyType f.types

def accepts (f : EdgeFilter) (e : Edge) : Bool :=
  f.scope.admits e.provenance && f.reaches e && f.acceptsTypes e

end EdgeFilter

end Trellis
