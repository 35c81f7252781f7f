/-
# Trellis.Pattern.Query — reading queries

A query is a question mark and a chain that starts at an anchor. A link is one
of eight short spellings, or one of eight that hold a bracketed list of
alternatives. Single strokes are bonded and double strokes are paths; an
arrowhead is a bond on its side, and a link without one has both bonds.
-/
import Trellis.Pattern.Node
import Trellis.Pattern.Token

namespace Trellis.Pattern

set_option autoImplicit false

open Text

/-- The style of a link, and its bonds on the left and on the right. -/
abbrev Bonds := LinkStyle × Bool × Bool

/-- The bonds of a link without brackets. -/
def shortBonds? : List Char → Option Bonds
  | ['-'] | ['<', '-', '>'] => some (.bonded, true, true)
  | ['-', '>'] => some (.bonded, false, true)
  | ['<', '-'] => some (.bonded, true, false)
  | ['='] | ['<', '=', '>'] => some (.path, true, true)
  | ['=', '>'] => some (.path, false, true)
  | ['<', '='] => some (.path, true, false)
  | _ => none

/-- The bonds of a link from what stands before and after its brackets. -/
def typedBonds? : List Char → List Char → Option Bonds
  | ['-'], ['-'] | ['<', '-'], ['-', '>'] => some (.bonded, true, true)
  | ['-'], ['-', '>'] => some (.bonded, false, true)
  | ['<', '-'], ['-'] => some (.bonded, true, false)
  | ['='], ['='] | ['<', '='], ['=', '>'] => some (.path, true, true)
  | ['='], ['=', '>'] => some (.path, false, true)
  | ['<', '='], ['='] => some (.path, true, false)
  | _, _ => none

/-- What stands before, inside and after the brackets of a link, if it has one
pair of brackets in the right order up to there. -/
def brackets? (link : List Char) : Option (List Char × List Char × List Char) :=
  match link.span (· ≠ '[') with
  | (_, []) => none
  | (before, _ :: rest) =>
    match rest.span (· ≠ ']') with
    | (_, []) => none
    | (inner, _ :: after) => if inner.contains '[' then none else some (before, inner, after)

def readShortLink (link : List Char) : Except PatternError Link :=
  match shortBonds? link with
  | some (style, left, right) => .ok ⟨.short, style, left, right, [], .anyOf⟩
  | none => .error (.unknownLink (String.ofList link))

def readTypedLink (link : List Char) : Except PatternError Link :=
  match brackets? link with
  | none => .error (.unknownLink (String.ofList link))
  | some (before, inner, after) =>
    match typedBonds? (trim before) (trim after) with
    | none => .error (.unknownLink (String.ofList link))
    | some (style, left, right) =>
      if allBlank inner then .error (.untypedLink (String.ofList link))
      else (⟨.typed, style, left, right, ·, .anyOf⟩) <$> readOrList inner

def readQueryLink (link : List Char) : Except PatternError Link :=
  if link.contains '[' then readTypedLink link else readShortLink link

/-- Reads a chain with a given dialect of links. The hops are read in order,
and the head after them. -/
def readChain (readLink : List Char → Except PatternError Link) (text : List Char) :
    Except PatternError Chain := do
  let skeleton ← Skeleton.ofText text
  let hops ← skeleton.hops.mapM fun (link, body) => do
    return (⟨← readLink link, ← readNode body⟩ : Hop)
  let head ← readNode skeleton.head
  return ⟨head, hops⟩

/-- Reads a query. -/
def parseQuery (text : String) : Except PatternError Chain :=
  match trim text.toList with
  | '?' :: body => do
    let chain ← readChain readQueryLink body
    chain.checkQuery
    return chain
  | _ => .error .missingSigil

/-- The question mark in front of a text that does not begin with one. -/
def withSigil (text : List Char) : List Char :=
  if text.head? = some '?' then text else '?' :: text

/-- Reads a query whose question mark may be left out. -/
def parseSearch (text : String) : Except PatternError Chain :=
  parseQuery (String.ofList (withSigil (trim text.toList)))

end Trellis.Pattern
