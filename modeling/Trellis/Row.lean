/-
# Trellis.Row — what one match of a pattern is

A row lists the elements of a match in the order of the walk: a vertex, then an
edge and a vertex for each hop. Each element is marked as shown or not. Edges
are always shown, vertices unless their node is hidden.
-/
import Trellis.Edge

namespace Trellis

set_option autoImplicit false

inductive Row.Element where
  | vertex (id : String) (shown : Bool)
  | edge (id : EdgeId) (shown : Bool)
  deriving DecidableEq

namespace Row.Element

def idText : Row.Element → String
  | .vertex id _ => id
  | .edge id _ => id.text

def isShown : Row.Element → Bool
  | .vertex _ shown | .edge _ shown => shown

def vertexId? : Row.Element → Option String
  | .vertex id _ => some id
  | .edge _ _ => none

def isVertex (x : Row.Element) : Bool := x.vertexId?.isSome

end Row.Element

structure Row where
  elements : List Row.Element
  deriving DecidableEq

namespace Row

def start (id : String) (shown : Bool) : Row := ⟨[.vertex id shown]⟩

/-- The row with one more hop at its end. -/
def extended (r : Row) (edge : EdgeId) (id : String) (shown : Bool) : Row :=
  ⟨r.elements ++ [.edge edge true, .vertex id shown]⟩

/-- The vertex at the end; none in an empty row. -/
def lastVertex? (r : Row) : Option String := r.elements.getLast?.bind (·.vertexId?)

/-- The vertex at a place; none where there is an edge or nothing. -/
def vertexAt? (r : Row) (place : Nat) : Option String := r.elements[place]?.bind (·.vertexId?)

/-- The elements that are shown. -/
def projected (r : Row) : List Row.Element := r.elements.filter (·.isShown)

def ids (r : Row) : List String := r.elements.map (·.idText)

end Row

end Trellis
