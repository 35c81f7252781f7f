/-
# Trellis.Text.Lowercase — lower case in every script

A letter has one lower-case image of its own, but for two: the capital I with a
dot becomes an i followed by a combining dot, and a capital sigma becomes the
final form at the end of a word. A sigma ends a word when the nearest character
before it has a case and the nearest one after it has none, where both searches
pass over the characters that are case-ignorable.
-/
import Trellis.Text.Case.Table

namespace Trellis.Text

set_option autoImplicit false

def isCased (c : Char) : Bool := casedRanges.covers c.toNat

def isCaseIgnorable (c : Char) : Bool := caseIgnorableRanges.covers c.toNat

/-- The image of a code point under ascending runs; itself when no run has it. -/
def lowerImage : List LowerRun → Nat → Nat
  | [], n => n
  | run :: rest, n =>
    if n < run.first then n
    else if n ≤ run.last then
      if (n - run.first) % run.step = 0 then run.image + (n - run.first) else n
    else lowerImage rest n

/-- The lower-case form of one character, away from the end of a word. -/
def lowerChar (c : Char) : List Char :=
  if c = '\u0130' then ['i', '\u0307'] else [Char.ofNat (lowerImage lowerRuns c.toNat)]

/-- The next character that is not case-ignorable has a case. -/
def resumesWord (cs : List Char) : Bool := (cs.dropWhile isCaseIgnorable).head?.any isCased

/-- Lower case of a text that stands after other text; `inWord` says that the
nearest character before it that is not case-ignorable has a case. -/
def lowerFrom (inWord : Bool) : List Char → List Char
  | [] => []
  | c :: cs =>
    (if c = '\u03A3' then [if inWord && !resumesWord cs then '\u03C2' else '\u03C3']
     else lowerChar c)
      ++ lowerFrom (if isCaseIgnorable c then inWord else isCased c) cs

def lower (cs : List Char) : List Char := lowerFrom false cs

def lowercase (s : String) : String := String.ofList (lower s.toList)

end Trellis.Text
