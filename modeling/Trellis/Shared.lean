/-
# Trellis.Shared — a graph that several clients use in turn

Clients of a shared graph take turns: a turn reads and changes the graph at
once, and nobody sees it half done. A derivation takes one turn for each
generation, so other clients may come between two generations but never into
one.
-/
import Trellis.Derive

namespace Trellis

set_option autoImplicit false

structure Shared where
  graph : Graph

namespace Shared

/-- One turn of a client. -/
def turn {α : Type} (s : Shared) (act : Graph → α × Graph) : α × Shared :=
  let (answer, graph) := act s.graph
  (answer, ⟨graph⟩)

def search (s : Shared) (pattern : String) : Except PatternError (List Row) :=
  s.graph.search pattern

/-- Runs generations in order, a turn for each, and adds them to a report. -/
def deriveThrough (rules : List Rule) :
    List Nat → Report → Shared → Except InputError Report × Shared
  | [], report, s => (.ok report, s)
  | generation :: rest, report, s =>
    match s.turn fun g => g.runGeneration rules Edge.derived generation with
    | (.error cause, s) => (.error cause, s)
    | (.ok created, s) => deriveThrough rules rest (report.record generation created) s

def deriveEdges (s : Shared) (rules : List Rule) (generations : Nat) :
    Except InputError Report × Shared :=
  s.deriveThrough rules (List.range' 1 generations) {}

end Shared

end Trellis
