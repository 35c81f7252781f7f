/-
# Trellis.Json.Record — reading JSON values as data

A record with named fields is read from an object, whose other members are
passed over, or from an array that lists the fields in their order and may stop
early. A field that comes twice is refused, and so is a key that spells no
string. A count is a number written with digits alone.
-/
import Trellis.Json.Value
import Trellis.Text.Numeral

namespace Trellis.Json

set_option autoImplicit false

def string? : Json → Option String
  | .text t => t.toString?
  | _ => none

/-- A whole number up to a bound, written without sign, fraction or exponent. -/
def nat? (bound : Nat) : Json → Option Nat
  | .number lexeme =>
    if lexeme.toList.all Char.isDigit then Trellis.Text.Numeral.readUpTo? bound lexeme.toList
    else none
  | _ => none

def list? {α : Type} (read? : Json → Option α) : Json → Option (List α)
  | .array items => items.mapM read?
  | _ => none

/-- Null, or a value. -/
def nullable? {α : Type} (read? : Json → Option α) : Json → Option (Option α)
  | .null => some none
  | value => some <$> read? value

/-- The fields of a record, by name. -/
abbrev Fields := List (String × Json)

/-- The members of an object that are fields of the record. -/
def memberFields? (names : List String) : List (Text × Json) → Option Fields
  | [] => some []
  | (key, value) :: rest => do
    let name ← key.toString?
    let fields ← memberFields? names rest
    if !names.contains name then return fields
    else if (fields.lookup name).isSome then none
    else return (name, value) :: fields

/-- The fields of a record with the given names, in their order. -/
def fields? (names : List String) : Json → Option Fields
  | .array items => if items.length ≤ names.length then some (names.zip items) else none
  | .object members => memberFields? names members
  | _ => none

namespace Fields

def required? {α : Type} (fields : Fields) (name : String) (read? : Json → Option α) :
    Option α := do
  read? (← fields.lookup name)

def orDefault? {α : Type} (fields : Fields) (name : String) (default : α)
    (read? : Json → Option α) : Option α :=
  match fields.lookup name with
  | none => some default
  | some value => read? value

end Fields

end Trellis.Json
