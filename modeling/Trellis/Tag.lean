/-
# Trellis.Tag — the type tags of vertices and edges

A tag is compared in its canonical spelling, trimmed and in lower case, and a
list of tags is kept in ascending order without repetitions. A list shares a
tag with another or includes it whole as the lists stand: nothing is spelled
anew by a comparison.
-/
import Trellis.Ascending
import Trellis.Error
import Trellis.Text.Blank
import Trellis.Text.Lowercase

namespace Trellis.Tag

set_option autoImplicit false

open Text

def canonical (tag : String) : String := lowercase (trimmed tag)

/-- Canonical spellings in ascending order, each once. -/
def normalize (tags : List String) : List String := Ascending.ofList (tags.map canonical)

/-- One of the wanted tags is owned. -/
def meets (own wanted : List String) : Bool := wanted.any own.contains

/-- Every wanted tag is owned. -/
def includes (own wanted : List String) : Bool := wanted.all own.contains

/-- A stored tag is not empty and holds no white space and neither of the marks
that edge identifiers use. -/
def isStorable (tag : String) : Bool :=
  tag ≠ "" && tag.toList.all fun c => c ≠ '>' && c ≠ ',' && !isBlank c

/-- Accepts the tags of an element, or names the first fault. -/
def check (owner : Owner) (tags : List String) : Except InputError Unit :=
  if tags = [] then .error (.untyped owner)
  else match tags.find? (!isStorable ·) with
    | some tag => .error (.invalidTag owner tag)
    | none => .ok ()

end Trellis.Tag
