/-
# Trellis.Resolve — from rows back to elements

A row names the elements of a match. Resolving it looks up every shown element
in the graph as it is now, and fails at the first that has been removed since.
-/
import Trellis.Graph.Basic
import Trellis.Row

namespace Trellis

set_option autoImplicit false

inductive Resolved where
  | vertex (v : Vertex)
  | edge (e : Edge)
  deriving DecidableEq

namespace Graph

def resolveElement (g : Graph) : Row.Element → Except Error Resolved
  | .vertex id _ =>
    match g.vertex? id with
    | some v => .ok (.vertex v)
    | none => .error (.missing .vertex id)
  | .edge id _ =>
    match g.findEdge id.text with
    | .error cause => .error (.edgeId cause)
    | .ok (some e) => .ok (.edge e)
    | .ok none => .error (.missing .edge id.text)

/-- The shown elements of a row, in order. -/
def resolve (g : Graph) (row : Row) : Except Error (List Resolved) :=
  row.projected.mapM g.resolveElement

end Graph

end Trellis
