/-
# Trellis.Json.Value — values of the JSON format

A number keeps the digits it was written with, so that no size is too large and
no two spellings are confused. The text of a string may hold half of a
surrogate pair, which stands for no character; `Text.toString?` gives the
string that a text spells, if it spells one. An object keeps its members in the
order of the text, repetitions included.
-/
namespace Trellis

set_option autoImplicit false

namespace Json

/-- A character, or half of a surrogate pair on its own. -/
inductive Piece where
  | char (c : Char)
  | surrogate (code : Nat)
  deriving DecidableEq

def Piece.char? : Piece → Option Char
  | .char c => some c
  | .surrogate _ => none

/-- The text of a string or of a key. -/
abbrev Text := List Piece

namespace Text

def ofString (s : String) : Text := s.toList.map .char

/-- The string that a text spells; none if it has half of a pair. -/
def toString? (t : Text) : Option String := String.ofList <$> t.mapM Piece.char?

end Text

end Json

inductive Json where
  | null
  | bool (b : Bool)
  /-- A number as it is written. -/
  | number (lexeme : String)
  | text (t : Json.Text)
  | array (items : List Json)
  /-- Keys and values in the order of the text. -/
  | object (members : List (Json.Text × Json))

namespace Json

def ofString (s : String) : Json := .text (.ofString s)

def ofNat (n : Nat) : Json := .number (toString n)

/-- A list of strings. -/
def ofStrings (ss : List String) : Json := .array (ss.map ofString)

def ofOption {α : Type} (encode : α → Json) : Option α → Json
  | none => .null
  | some x => encode x

/-- An object with the given members. -/
def record (members : List (String × Json)) : Json :=
  .object (members.map fun (key, value) => (.ofString key, value))

end Json

end Trellis
