/-
# Trellis.Document — graph documents

A document holds the vertices, edges and rules of one graph and how many
generations its rules are to run. It is written in JSON, as one object whose
members may all be left out. Reading takes the elements as they stand; they are
put into their normal form and checked when the graph is built.
-/
import Trellis.Json.Encoding
import Trellis.Json.Reader
import Trellis.Json.Record

namespace Trellis

set_option autoImplicit false

structure Document where
  vertices : List Vertex := []
  edges : List Edge := []
  rules : List RuleSpec := []
  maxGenerations : Nat := 1
  deriving DecidableEq

/-! ## Reading -/

open Json (fields? string? list? nat? nullable?)

def Vertex.ofJson? (value : Json) : Option Vertex := do
  let fields ← fields? ["id", "types", "name"] value
  return {
    id := ← fields.required? "id" string?
    types := ← fields.required? "types" (list? string?)
    name := ← fields.orDefault? "name" "" string? }

def Derivation.ofJson? (value : Json) : Option Derivation := do
  let fields ← fields? ["rule", "generation"] value
  return {
    rule := ← fields.required? "rule" string?
    generation := ← fields.required? "generation" (nat? lastGeneration) }

def Edge.ofJson? (value : Json) : Option Edge := do
  let fields ← fields? ["source_id", "target_id", "types", "derivation_path"] value
  return {
    source := ← fields.required? "source_id" string?
    target := ← fields.required? "target_id" string?
    types := ← fields.required? "types" (list? string?)
    derivationPath := ← fields.orDefault? "derivation_path" [] (list? Derivation.ofJson?) }

def RuleSpec.ofJson? (value : Json) : Option RuleSpec := do
  let fields ← fields? ["name", "antecedent", "production"] value
  return {
    name := ← fields.orDefault? "name" none (nullable? string?)
    antecedent := ← fields.required? "antecedent" string?
    production := ← fields.required? "production" string? }

namespace Document

/-- The number of generations in the settings for derivation. -/
def maxGenerations? (value : Json) : Option Nat := do
  (← fields? ["max_generations"] value).orDefault? "max_generations" 1 (nat? lastGeneration)

def ofJson? (value : Json) : Option Document := do
  let fields ← fields? ["vertices", "edges", "rules", "derivation"] value
  return {
    vertices := ← fields.orDefault? "vertices" [] (list? Vertex.ofJson?)
    edges := ← fields.orDefault? "edges" [] (list? Edge.ofJson?)
    rules := ← fields.orDefault? "rules" [] (list? RuleSpec.ofJson?)
    maxGenerations := ← fields.orDefault? "derivation" 1 maxGenerations? }

def parse (text : String) : Except Error Document :=
  match (Json.parse? text).bind ofJson? with
  | some document => .ok document
  | none => .error .document

end Document

/-! ## Writing -/

open Json (record ofString ofNat ofOption)

def RuleSpec.toJson (s : RuleSpec) : Json :=
  record [("name", ofOption ofString s.name), ("antecedent", ofString s.antecedent),
    ("production", ofString s.production)]

namespace Document

def toJson (d : Document) : Json :=
  record [("vertices", .array (d.vertices.map (·.toJson))),
    ("edges", .array (d.edges.map (·.toJson))), ("rules", .array (d.rules.map (·.toJson))),
    ("derivation", record [("max_generations", ofNat d.maxGenerations)])]

/-! ## Use -/

def buildGraph (d : Document) : Except InputError Graph :=
  Graph.build d.vertices d.edges

def buildRules (d : Document) : Except PatternError (List Rule) := RuleSpec.compileAll d.rules

end Document

end Trellis
