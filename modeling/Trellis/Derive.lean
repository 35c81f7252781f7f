/-
# Trellis.Derive — deriving edges by rules, generation by generation

A generation runs the antecedent of every rule on the graph with its asserted
edges and the edges derived in earlier generations, and only then inserts the
edge that each match produces. Edges of a generation never feed matches of the
same generation, so the order of the rules decides neither which edges there
are nor in which generation they come.
-/
import Trellis.Query

namespace Trellis

set_option autoImplicit false

/-- Makes the edge of a match from its source, the types of the production, its
target and the derivation record. -/
abbrev EdgeBuilder := String → List String → String → Derivation → Edge

/-- The edges that a rule makes in a generation, one for each match. -/
def Rule.candidates (r : Rule) (g : Graph) (build : EdgeBuilder) (generation : Nat) : List Edge :=
  (g.run (some generation) r.antecedent.plan).filterMap fun row => do
    let source ← row.vertexAt? r.production.source.rowIndex
    let target ← row.vertexAt? r.production.target.rowIndex
    return build source r.production.types target ⟨r.name, generation⟩

/-- How many edges a derivation made, in all and in each generation. -/
structure Report where
  generations : Nat := 0
  edgesCreated : Nat := 0
  createdPerGeneration : List Nat := []
  deriving DecidableEq

/-- The report with one more generation. -/
def Report.record (r : Report) (generation created : Nat) : Report :=
  ⟨generation, r.edgesCreated + created, r.createdPerGeneration ++ [created]⟩

namespace Graph

/-- Runs one generation, and counts the edges that were new. -/
def runGeneration (g : Graph) (rules : List Rule) (build : EdgeBuilder) (generation : Nat) :
    Except InputError Nat × Graph :=
  g.insertEdges (rules.flatMap fun rule => rule.candidates g build generation)

/-- Runs generations in order and adds them to a report. -/
def deriveThrough (rules : List Rule) (build : EdgeBuilder) :
    List Nat → Report → Graph → Except InputError Report × Graph
  | [], report, g => (.ok report, g)
  | generation :: rest, report, g =>
    match g.runGeneration rules build generation with
    | (.error cause, g) => (.error cause, g)
    | (.ok created, g) => deriveThrough rules build rest (report.record generation created) g

/-- Runs generations 1 to `generations`. One that makes nothing counts as well. -/
def deriveEdges (g : Graph) (rules : List Rule) (build : EdgeBuilder) (generations : Nat) :
    Except InputError Report × Graph :=
  deriveThrough rules build (List.range' 1 generations) {} g

end Graph

end Trellis
