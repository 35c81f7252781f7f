/-
# Trellis.Plan — patterns made ready to run

A plan is a vertex filter, for a pattern of one node, or a walk: one triple for
each hop, whose target is the source of the next. Compiling a chain keeps its
nodes and links in order and turns each into what a lookup needs. A rule's
antecedent is a plan of two triples, and a rule pairs it with a production.
-/
import Trellis.Filter
import Trellis.Pattern.Rule

namespace Trellis

set_option autoImplicit false

open Pattern (Role Direction Chain Hop)

namespace Plan

structure Node where
  types : List String
  term : Option String
  ids : List String
  role : Role
  deriving DecidableEq

namespace Node

def ofPattern (n : Pattern.Node) : Node := ⟨n.types, n.term, [], n.role⟩

def filter (n : Node) : VertexFilter := ⟨n.ids, n.types, n.term⟩

def isShown (n : Node) : Bool := n.role.isShown

end Node

structure Link where
  types : List String
  /-- For callers that rank walks; a run pays no heed to it. -/
  hopWeight : Nat
  /-- Every type is needed, not one of them. -/
  inclusive : Bool
  isPath : Bool
  direction : Direction
  deriving DecidableEq

namespace Link

def ofPattern (l : Pattern.Link) : Link :=
  ⟨l.types, 1, l.multiplicity = .allOf, l.isPath, l.direction⟩

/-- Only paths see derived edges. -/
def scope (l : Link) : Scope := if l.isPath then .all else .asserted

def edgeFilter (l : Link) : EdgeFilter :=
  ((EdgeFilter.ofScope l.scope).withTypes l.types).withInclusive l.inclusive

end Link

/-- One hop of a walk. -/
structure Triple where
  source : Node
  link : Link
  target : Node
  deriving DecidableEq

end Plan

inductive Plan where
  | vertices (filter : VertexFilter)
  | walk (triples : List Plan.Triple)
  deriving DecidableEq

namespace Plan

def isWalk : Plan → Bool
  | .vertices _ => false
  | .walk _ => true

def filter? : Plan → Option VertexFilter
  | .vertices filter => some filter
  | .walk _ => none

/-- None for a plan of one node. -/
def triples : Plan → List Triple
  | .vertices _ => []
  | .walk triples => triples

/-- The triples of hops that start at a given node. -/
def triplesFrom (source : Node) : List Hop → List Triple
  | [] => []
  | hop :: rest =>
    ⟨source, .ofPattern hop.link, .ofPattern hop.node⟩ :: triplesFrom (.ofPattern hop.node) rest

def ofChain (c : Chain) : Plan :=
  if c.isSingleNode then .vertices (Node.ofPattern c.head).filter
  else .walk (triplesFrom (.ofPattern c.head) c.hops)

end Plan

/-- The plan of a rule's antecedent. -/
structure Antecedent where
  plan : Plan
  deriving DecidableEq

def Antecedent.ofChain (c : Chain) : Except PatternError Antecedent := do
  c.checkAntecedent
  return ⟨.ofChain c⟩

structure Rule where
  name : String
  antecedent : Antecedent
  production : Pattern.Production
  deriving DecidableEq

namespace Rule

/-- Compiles the two halves of a rule and names it after them. -/
def parse (antecedent production : String) : Except PatternError Rule := do
  let chain ← Pattern.parseAntecedent antecedent
  let compiled ← Antecedent.ofChain chain
  let made ← Pattern.parseProduction production
  return ⟨Text.trimmed antecedent ++ " => " ++ Text.trimmed production, compiled, made⟩

def named (r : Rule) (name : String) : Rule := { r with name }

end Rule

/-- A rule as it is written down, with a name or without. -/
structure RuleSpec where
  name : Option String
  antecedent : String
  production : String
  deriving DecidableEq

namespace RuleSpec

def compile (s : RuleSpec) : Except PatternError Rule := do
  let rule ← Rule.parse s.antecedent s.production
  return match s.name with
    | some name => rule.named name
    | none => rule

/-- Compiles rules in order, up to the first that fails. -/
def compileAll (specs : List RuleSpec) : Except PatternError (List Rule) := specs.mapM compile

end RuleSpec

end Trellis
