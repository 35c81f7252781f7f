/-
# Trellis.Pattern.Chain — what a pattern says

A chain is a head node followed by hops, each a link and a node. A node says
what its vertex is like, a link which edges may be followed and in which
directions. Queries and rule antecedents are chains alike; they differ in the
spelling of their links and in the shape that `checkQuery` and
`checkAntecedent` demand.
-/
import Trellis.Error

namespace Trellis.Pattern

set_option autoImplicit false

inductive Node where
  /-- `()`: any vertex, left out of what is shown. -/
  | hidden
  /-- `(*)`: any vertex. -/
  | any
  | typed (types : List String)
  | described (term : String)
  | describedTyped (term : String) (types : List String)
  deriving DecidableEq

inductive Role where
  | hidden
  | any
  | typed
  | described
  | describedTyped
  deriving DecidableEq

/-- Every vertex but that of a hidden node is shown. -/
def Role.isShown (r : Role) : Bool := r ≠ .hidden

namespace Node

def role : Node → Role
  | .hidden => .hidden
  | .any => .any
  | .typed _ => .typed
  | .described _ => .described
  | .describedTyped _ _ => .describedTyped

def types : Node → List String
  | .typed types | .describedTyped _ types => types
  | _ => []

def term : Node → Option String
  | .described term | .describedTyped term _ => some term
  | _ => none

/-- A query may start only at a node that selects by type or by name. -/
def isAnchor : Node → Bool
  | .hidden | .any => false
  | _ => true

end Node

/-- Whether a link was written with a list of types. -/
inductive LinkKind where
  | short
  | typed
  deriving DecidableEq

/-- Bonded links follow asserted edges only, path links derived ones too. -/
inductive LinkStyle where
  | bonded
  | path
  deriving DecidableEq

/-- How many of a link's types an edge needs. -/
inductive Multiplicity where
  | anyOf
  | allOf
  deriving DecidableEq

/-- Which way the edges of a hop run, seen from its first node. -/
inductive Direction where
  | outbound
  | inbound
  | both
  deriving DecidableEq

namespace Direction

/-- A bond on one side only points that way; on both or neither, both ways. -/
def ofBonds : (left right : Bool) → Direction
  | false, true => .outbound
  | true, false => .inbound
  | _, _ => .both

def includesOutbound (d : Direction) : Bool := d ≠ .inbound

def includesInbound (d : Direction) : Bool := d ≠ .outbound

end Direction

structure Link where
  kind : LinkKind
  style : LinkStyle
  leftBond : Bool
  rightBond : Bool
  types : List String
  multiplicity : Multiplicity
  deriving DecidableEq

namespace Link

def direction (l : Link) : Direction := .ofBonds l.leftBond l.rightBond

def isPath (l : Link) : Bool := l.style = .path

end Link

structure Hop where
  link : Link
  node : Node
  deriving DecidableEq

structure Chain where
  head : Node
  hops : List Hop
  deriving DecidableEq

namespace Chain

def nodes (c : Chain) : List Node := c.head :: c.hops.map (·.node)

def links (c : Chain) : List Link := c.hops.map (·.link)

def nodeCount (c : Chain) : Nat := c.hops.length + 1

def isSingleNode (c : Chain) : Bool := c.hops.isEmpty

/-- A query starts at a node that selects something. -/
def checkQuery (c : Chain) : Except PatternError Unit :=
  if c.head.isAnchor then .ok ()
  else if c.isSingleNode then .error .unanchoredNode
  else .error .unanchoredChain

/-- The antecedent of a rule is two hops over three nodes, each in one direction. -/
def checkAntecedent (c : Chain) : Except PatternError Unit :=
  if c.hops.length ≠ 2 then .error (.slotCount c.nodeCount)
  else if c.links.any (·.direction = .both) then .error .undirectedHop
  else .ok ()

end Chain

end Trellis.Pattern
