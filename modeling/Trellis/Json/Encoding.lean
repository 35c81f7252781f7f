/-
# Trellis.Json.Encoding — the JSON form of the library's values

Elements, filters, patterns, plans and results each have one JSON form. A
choice between cases is written as an object whose first member names the case,
or as the name alone where the cases hold nothing; what is absent is null.
-/
import Trellis.Graph.Stats
import Trellis.Json.Value
import Trellis.Resolve
import Trellis.Shared

namespace Trellis

set_option autoImplicit false

open Json (record ofString ofStrings ofNat ofOption)

/-! ## Elements and filters -/

def Vertex.toJson (v : Vertex) : Json :=
  record [("id", ofString v.id), ("types", ofStrings v.types), ("name", ofString v.name)]

def Derivation.toJson (d : Derivation) : Json :=
  record [("rule", ofString d.rule), ("generation", ofNat d.generation)]

def Edge.toJson (e : Edge) : Json :=
  record [("source_id", ofString e.source), ("target_id", ofString e.target),
    ("types", ofStrings e.types), ("derivation_path", .array (e.derivationPath.map (·.toJson)))]

def EdgeId.toJson (id : EdgeId) : Json := ofString id.text

def Scope.toJson : Scope → Json
  | .all => ofString "all"
  | .asserted => ofString "non_derived_only"
  | .derived => ofString "derived_only"

def VertexFilter.toJson (f : VertexFilter) : Json :=
  record [("ids", ofStrings f.ids), ("types", ofStrings f.types),
    ("search_term", ofOption ofString f.term)]

def EdgeFilter.toJson (f : EdgeFilter) : Json :=
  record [("types", ofStrings f.types), ("inclusive_types", .bool f.inclusive),
    ("scope", f.scope.toJson), ("generation_limit", ofOption ofNat f.generationLimit)]

/-! ## Patterns -/

namespace Pattern

def Role.name : Role → String
  | .hidden => "not_described"
  | .any => "group"
  | .typed => "typed"
  | .described => "described"
  | .describedTyped => "described_typed"

def Role.toJson (r : Role) : Json := ofString r.name

def Node.toJson (n : Node) : Json :=
  let role := ("role", n.role.toJson)
  match n with
  | .hidden | .any => record [role]
  | .typed types => record [role, ("types", ofStrings types)]
  | .described term => record [role, ("search_term", ofString term)]
  | .describedTyped term types =>
    record [role, ("search_term", ofString term), ("types", ofStrings types)]

def LinkKind.toJson : LinkKind → Json
  | .short => ofString "short"
  | .typed => ofString "typed"

def LinkStyle.toJson : LinkStyle → Json
  | .bonded => ofString "bonded"
  | .path => ofString "path"

def Multiplicity.toJson : Multiplicity → Json
  | .anyOf => ofString "disjunctive"
  | .allOf => ofString "conjunctive"

def Direction.toJson : Direction → Json
  | .outbound => ofString "outbound"
  | .inbound => ofString "inbound"
  | .both => ofString "both"

def Link.toJson (l : Link) : Json :=
  record [("kind", l.kind.toJson), ("style", l.style.toJson), ("left_bond", .bool l.leftBond),
    ("right_bond", .bool l.rightBond), ("types", ofStrings l.types),
    ("multiplicity", l.multiplicity.toJson)]

def Hop.toJson (h : Hop) : Json :=
  record [("relationship", h.link.toJson), ("node", h.node.toJson)]

def Chain.toJson (c : Chain) : Json :=
  record [("head", c.head.toJson), ("hops", .array (c.hops.map (·.toJson)))]

def Slot.toJson (s : Slot) : Json := Json.ofNat s.position

def Production.toJson (p : Production) : Json :=
  record [("source", p.source.toJson), ("target", p.target.toJson), ("types", ofStrings p.types)]

end Pattern

/-! ## Plans -/

namespace Plan

def Node.toJson (n : Node) : Json :=
  record [("types", ofStrings n.types), ("search_term", ofOption ofString n.term),
    ("ids", ofStrings n.ids), ("role", n.role.toJson)]

def Link.toJson (l : Link) : Json :=
  record [("types", ofStrings l.types), ("hop_weight", ofNat l.hopWeight),
    ("inclusive_types", .bool l.inclusive), ("is_path", .bool l.isPath),
    ("direction", l.direction.toJson)]

def Triple.toJson (t : Triple) : Json :=
  record [("source", t.source.toJson), ("relationship", t.link.toJson),
    ("target", t.target.toJson)]

def toJson : Plan → Json
  | .vertices filter => record [("kind", ofString "simple"), ("query", filter.toJson)]
  | .walk triples =>
    record [("kind", ofString "complex"), ("query", .array (triples.map (·.toJson)))]

end Plan

/-! ## Results -/

def Row.Element.toJson : Row.Element → Json
  | .vertex id shown =>
    record [("element", ofString "vertex"), ("id", ofString id),
      ("should_be_returned", .bool shown)]
  | .edge id shown =>
    record [("element", ofString "edge"), ("id", id.toJson), ("should_be_returned", .bool shown)]

def Row.toJson (r : Row) : Json := .array (r.elements.map (·.toJson))

def Resolved.toJson : Resolved → Json
  | .vertex v => record [("element", ofString "vertex"), ("value", v.toJson)]
  | .edge e => record [("element", ofString "edge"), ("value", e.toJson)]

def Graph.Stats.toJson (s : Graph.Stats) : Json :=
  record [("vertices", ofNat s.vertices), ("edges", ofNat s.edges),
    ("pending_edges", ofNat s.pendingEdges), ("buckets", ofNat s.buckets),
    ("bucket_entries", ofNat s.bucketEntries), ("vertex_tombstones", ofNat s.vertexTombstones),
    ("edge_tombstones", ofNat s.edgeTombstones)]

def Report.toJson (r : Report) : Json :=
  Json.record [("generations", ofNat r.generations), ("edges_created", ofNat r.edgesCreated),
    ("created_per_generation", .array (r.createdPerGeneration.map ofNat))]

end Trellis
