/-
# Trellis.Pattern.Rule — reading the two halves of a rule

The antecedent of a rule is a chain of three nodes, its slots, joined by
`[types]>` or `<[types]`; an empty list of types stands for any. The production
`(n)[types](m)` names two of the slots by number and the types of the edge to
make between them.
-/
import Trellis.Pattern.Query
import Trellis.Text.Numeral

namespace Trellis.Pattern

set_option autoImplicit false

open Text

/-- One of the three nodes of an antecedent. -/
inductive Slot where
  | first
  | second
  | third
  deriving DecidableEq

namespace Slot

/-- Slots are numbered from 1. -/
def position : Slot → Nat
  | .first => 1
  | .second => 2
  | .third => 3

/-- The place of the slot's vertex in a row of three vertices and two edges. -/
def rowIndex : Slot → Nat
  | .first => 0
  | .second => 2
  | .third => 4

def ofPosition : Nat → Except PatternError Slot
  | 1 => .ok .first
  | 2 => .ok .second
  | 3 => .ok .third
  | position => .error (.slotOutOfRange position)

theorem ofPosition_position (s : Slot) : ofPosition s.position = .ok s := by
  cases s <;> rfl

theorem rowIndex_eq (s : Slot) : s.rowIndex = 2 * (s.position - 1) := by
  cases s <;> rfl

end Slot

/-- What a rule makes of each match of its antecedent. -/
structure Production where
  source : Slot
  target : Slot
  types : List String
  deriving DecidableEq

/-- The list of an antecedent's link, and the bonds on its left and right. -/
def ruleHop? (link : List Char) : Option (List Char × Bool × Bool) :=
  match ['<', '['].isPrefixOf? link with
  | some rest => (·, true, false) <$> [']'].isSuffixOf? rest
  | none => do
    let rest ← [']', '>'].isSuffixOf? link
    (·, false, true) <$> ['['].isPrefixOf? rest

/-- The links of an antecedent follow derived edges too. -/
def readRuleLink (link : List Char) : Except PatternError Link :=
  match ruleHop? link with
  | none => .error (.invalidRuleHop (String.ofList link))
  | some (inner, left, right) => do
    let types ← readCommaList inner
    return ⟨if types.isEmpty then .short else .typed, .path, left, right, types, .anyOf⟩

def parseAntecedent (text : String) : Except PatternError Chain := do
  let chain ← readChain readRuleLink (trim text.toList)
  chain.checkAntecedent
  return chain

/-- A slot's number is a numeral below 256. -/
def readSlot (body : List Char) : Except PatternError Slot :=
  match Numeral.readUpTo? 255 (trim body) with
  | some position => Slot.ofPosition position
  | none => .error (.invalidSlot (String.ofList body))

/-- The inside of a text in square brackets. -/
def bracketed? (link : List Char) : Option (List Char) := do
  [']'].isSuffixOf? (← ['['].isPrefixOf? link)

def parseProduction (text : String) : Except PatternError Production := do
  let body := trim text.toList
  let skeleton ← Skeleton.ofText body
  let [(link, target)] := skeleton.hops
    | .error (.invalidProduction (String.ofList body))
  let some inner := bracketed? link
    | .error (.unbracketedProduction (String.ofList link))
  let types ← readCommaList inner
  if types.isEmpty then .error .untypedProduction
  let source ← readSlot skeleton.head
  let target ← readSlot target
  return ⟨source, target, types⟩

end Trellis.Pattern
