/-
# Trellis.Pattern.Token — groups and links of a pattern

A pattern is read as groups in parentheses, the nodes, with text between them,
the links. Inside a group a single quote opens or closes a search term, and
within a search term parentheses are text. `Token.split` gives the insides of
the groups as they stand and the links trimmed, and leaves out blank links.
-/
import Trellis.Error
import Trellis.Text.Blank

namespace Trellis.Pattern

set_option autoImplicit false

open Text

inductive Token where
  /-- What stands between the parentheses of a group. -/
  | node (body : List Char)
  /-- What stands between two groups, or at an end. -/
  | link (text : List Char)
  deriving DecidableEq

namespace Token

/-- The token of the text between two groups; none if it is blank. -/
def ofLink (text : List Char) : List Token :=
  if allBlank text then [] else [.link (trim text)]

/-- Where a reader of the text stands: between groups, or in a group with the
search term open or not. -/
inductive Region where
  | between
  | inside (quoted : Bool)

/-- Reads on from a region in which `read` has been passed, newest first. -/
def scan : Region → List Char → List Char → Except PatternError (List Token)
  | .between, read, [] => .ok (ofLink read.reverse)
  | .inside _, _, [] => .error .unclosedGroup
  | .between, read, c :: cs =>
    if c = '(' then (ofLink read.reverse ++ ·) <$> scan (.inside false) [] cs
    else if c = ')' then .error .strayClose
    else scan .between (c :: read) cs
  | .inside quoted, read, c :: cs =>
    if c = '\'' then scan (.inside !quoted) (c :: read) cs
    else if c = '(' ∧ !quoted then .error .nestedGroup
    else if c = ')' ∧ !quoted then (.node read.reverse :: ·) <$> scan .between [] cs
    else scan (.inside quoted) (c :: read) cs

/-- The groups and links of a text, in order. -/
def split (text : List Char) : Except PatternError (List Token) := scan .between [] text

end Token

/-- Nodes and links in strict alternation: a node, then a link and a node for
each hop. -/
structure Skeleton where
  head : List Char
  hops : List (List Char × List Char)

namespace Skeleton

/-- Pairs each link with the node after it. -/
def pairs : List Token → Except PatternError (List (List Char × List Char))
  | [] => .ok []
  | .node _ :: _ => .error .adjacentNodes
  | .link link :: .node body :: rest => ((link, body) :: ·) <$> pairs rest
  | .link link :: _ => .error (.danglingLink (String.ofList link))

def ofTokens : List Token → Except PatternError Skeleton
  | [] => .error .noNode
  | .link link :: _ => .error (.leadingLink (String.ofList link))
  | .node head :: rest => (⟨head, ·⟩) <$> pairs rest

def ofText (text : List Char) : Except PatternError Skeleton := do
  ofTokens (← Token.split text)

end Skeleton

end Trellis.Pattern
