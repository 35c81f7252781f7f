/-
# Trellis.Graph.BucketKey — edges by combinations of types

An indexed edge is filed under every combination of a type of its source, a
type of its own and a type of its target, where each of the three may also be
left open, and apart by provenance. A lookup that knows some types then reads
the few keys that name them and leave the rest open.
-/
import Trellis.Filter

namespace Trellis.Graph

set_option autoImplicit false

/-- A combination of types; `none` leaves a place open. -/
structure BucketKey where
  source : Option String
  edge : Option String
  target : Option String
  provenance : Provenance
  deriving DecidableEq

namespace BucketKey

def order : BucketKey → BucketKey → Ordering :=
  compareLex (compareOn source) <| compareLex (compareOn edge) <|
    compareLex (compareOn target) (compareOn provenance)

instance : Ord BucketKey := ⟨order⟩

instance : Std.TransOrd BucketKey := inferInstanceAs (Std.TransCmp (compareLex _ _))

instance : Std.LawfulEqOrd BucketKey where
  eq_of_compare {a b} h := by
    have same : order a b = .eq := h
    rw [order, compareLex_eq_eq, compareLex_eq_eq, compareLex_eq_eq] at same
    obtain ⟨sources, edges, targets, provenances⟩ := same
    have hs : a.source = b.source := Std.LawfulEqOrd.eq_of_compare sources
    have he : a.edge = b.edge := Std.LawfulEqOrd.eq_of_compare edges
    have ht : a.target = b.target := Std.LawfulEqOrd.eq_of_compare targets
    have hp : a.provenance = b.provenance := Std.LawfulEqOrd.eq_of_compare provenances
    cases a
    cases b
    simp_all

/-- Every choice from four lists. -/
def combine (provenances : List Provenance) (sources edges targets : List (Option String)) :
    List BucketKey :=
  provenances.flatMap fun provenance =>
    sources.flatMap fun source =>
      edges.flatMap fun edge =>
        targets.map fun target => ⟨source, edge, target, provenance⟩

/-- Types in lower case and ascending order, each once. -/
def named (types : List String) : List (Option String) :=
  (Ascending.ofList (types.map Text.lowercase)).map some

/-- A place of an edge's keys: left open, or one of the types in lower case, in the
order of the list and once for each run of it. -/
def openOrNamed (types : List String) : List (Option String) :=
  (none :: types.map fun type => some (Text.lowercase type)).eraseReps

/-- A place of a lookup's keys: the types asked for, or left open if there are none. -/
def namedOrOpen (types : List String) : List (Option String) :=
  if types.isEmpty then [none] else named types

/-- The keys under which an edge is filed. -/
def ofEdge (sourceTypes edgeTypes targetTypes : List String) (provenance : Provenance) :
    List BucketKey :=
  combine [provenance] (openOrNamed sourceTypes) (openOrNamed edgeTypes) (openOrNamed targetTypes)

/-- The keys that a lookup reads. -/
def ofLookup (sourceTypes edgeTypes targetTypes : List String) (scope : Scope) : List BucketKey :=
  combine scope.provenances (namedOrOpen sourceTypes) (namedOrOpen edgeTypes)
    (namedOrOpen targetTypes)

end BucketKey

end Trellis.Graph
