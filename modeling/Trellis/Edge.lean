/-
# Trellis.Edge — edges, their provenance and their identity

An edge joins two vertices, named by their ids, and carries type tags. It is
derived when it has a derivation record and asserted otherwise. An edge is
identified by its source, its set of types and its target, written
`source>types>target`; `EdgeId.parse` reads such a text and gives the spelling
that `EdgeId.of` would have given it.
-/
import Trellis.Vertex

namespace Trellis

set_option autoImplicit false

open Text

/-- One step of provenance: a rule fired in a generation. -/
structure Derivation where
  rule : String
  generation : Nat
  deriving DecidableEq

/-- Generations are numbered from 1 to this one. -/
def lastGeneration : Nat := 0xFFFFFFFF

structure Edge where
  source : String
  target : String
  types : List String
  derivationPath : List Derivation
  deriving DecidableEq

/-- The identity of an edge as text. -/
structure EdgeId where
  text : String
  deriving DecidableEq

namespace EdgeId

instance : Ord EdgeId := ⟨compareOn text⟩

instance : Std.TransOrd EdgeId := inferInstanceAs (Std.TransCmp (compareOn text))

instance : Std.LawfulEqOrd EdgeId where
  eq_of_compare {a b} h := by
    cases a; cases b
    exact congrArg EdgeId.mk (Std.LawfulEqOrd.eq_of_compare h)

/-- The types are set in ascending order, each once, as they are spelled. -/
def of (source : String) (types : List String) (target : String) : EdgeId :=
  ⟨source ++ ">" ++ ",".intercalate (Ascending.ofList types) ++ ">" ++ target⟩

/-- Reads three parts that are not blank; the types of the middle part are
spelled canonically and none may be empty. -/
def parse (raw : String) : Except EdgeIdError EdgeId :=
  match raw.toList.splitOn '>' with
  | [source, types, target] =>
    if allBlank source || allBlank types || allBlank target then .error (.wrongParts raw)
    else
      let tags := (types.splitOn ',').map fun tag => String.ofList (lower (trim tag))
      if tags.contains "" then .error (.emptyType raw)
      else .ok (of (String.ofList source) tags (String.ofList target))
  | _ => .error (.wrongParts raw)

end EdgeId

/-- Where an edge comes from. -/
inductive Provenance where
  | asserted
  | derived
  deriving DecidableEq

namespace Provenance

def isDerived : Provenance → Bool
  | .asserted => false
  | .derived => true

instance : Ord Provenance := ⟨compareOn isDerived⟩

instance : Std.TransOrd Provenance := inferInstanceAs (Std.TransCmp (compareOn isDerived))

instance : Std.LawfulEqOrd Provenance where
  eq_of_compare {a b} h := by
    have same : a.isDerived = b.isDerived := Std.LawfulEqOrd.eq_of_compare h
    cases a <;> cases b <;> simp_all [isDerived]

end Provenance

namespace Edge

/-- An asserted edge. -/
def asserted (source : String) (types : List String) (target : String) : Edge :=
  ⟨source, target, Tag.normalize types, []⟩

/-- An edge with one derivation record. -/
def derived (source : String) (types : List String) (target : String)
    (derivation : Derivation) : Edge :=
  ⟨source, target, Tag.normalize types, [derivation]⟩

def normalized (e : Edge) : Edge := { e with types := Tag.normalize e.types }

def id (e : Edge) : EdgeId := .of e.source e.types e.target

def isDerived (e : Edge) : Bool := !e.derivationPath.isEmpty

def provenance (e : Edge) : Provenance := if e.isDerived then .derived else .asserted

/-- The earliest generation on record; none for an asserted edge. -/
def generation (e : Edge) : Option Nat := (e.derivationPath.map (·.generation)).min?

def hasAnyType (e : Edge) (types : List String) : Bool := Tag.meets e.types types

def hasAllTypes (e : Edge) (types : List String) : Bool := Tag.includes e.types types

def check (e : Edge) : Except InputError Unit := do
  Vertex.checkId e.source
  Vertex.checkId e.target
  Tag.check .edge e.types

end Edge

end Trellis
