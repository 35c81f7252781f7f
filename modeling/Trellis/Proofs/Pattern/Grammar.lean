/-
# Trellis.Proofs.Pattern.Grammar — the texts that denote nodes, links, queries and rules

The grammar of queries as relations between a text and what it denotes, apart from the
readers. A list of tags is words that take turns with `or`, and denotes the tags in
lower case as an ascending list. A node is said of its trimmed inside. A link is one of
eight short spellings, or one of eight pairs of spellings around a bracketed list of
tags. A chain is a group and then hops, each a link between white space and a group.

The two halves of a rule share nodes, groups and white space around links with queries,
and differ in their links. A list of tags has commas there, and may be blank in an
antecedent, where the arrow stands right behind or before the brackets. In a production the
nodes are numbers of slots: `1`, `2` or `3` behind any number of zeros, and behind a plus
sign if need be.
-/
import Trellis.Pattern.Rule
import Trellis.Proofs.Text.Blank

namespace Trellis.Pattern.Grammar

set_option autoImplicit false

open Text

/-! ## Lists of tags -/

/-- A tag as it is written. -/
structure TagWord (word : List Char) : Prop where
  ne_nil : word ≠ []
  chars : ∀ c ∈ word, isAlphanumeric c = true ∨ c = '_' ∨ c = '-' ∨ c = '.'

/-- The keyword in any case. -/
def orSpellings : List (List Char) := [['o', 'r'], ['o', 'R'], ['O', 'r'], ['O', 'R']]

/-- An odd number of words, the odd ones tags and the even ones the keyword, and the
tags among them. -/
inductive Alternatives : List (List Char) → List (List Char) → Prop
  | last {tag : List Char} : TagWord tag → Alternatives [tag] [tag]
  | more {tag keyword : List Char} {words tags : List (List Char)} :
      TagWord tag → keyword ∈ orSpellings → Alternatives words tags →
      Alternatives (tag :: keyword :: words) (tag :: tags)

/-- The types that written tags stand for: the tags in lower case, in ascending order
and each once. -/
structure LowerTags (tags : List (List Char)) (types : List String) : Prop where
  ascending : types.Pairwise (· < ·)
  mem_iff : ∀ type, type ∈ types ↔ ∃ tag ∈ tags, String.ofList (lower tag) = type

def OrList (text : List Char) (types : List String) : Prop :=
  ∃ words tags, Spaced text words ∧ Alternatives words tags ∧ LowerTags tags types

/-- Tags with a comma between each two, and white space around any of them. -/
inductive CommaTags : List Char → List (List Char) → Prop
  | last {before tag after : List Char} :
      allBlank before = true → TagWord tag → allBlank after = true →
      CommaTags (before ++ tag ++ after) [tag]
  | more {before tag after rest : List Char} {tags : List (List Char)} :
      allBlank before = true → TagWord tag → allBlank after = true → CommaTags rest tags →
      CommaTags (before ++ tag ++ after ++ ',' :: rest) (tag :: tags)

/-- A list of a rule, and the types that it stands for: none if it is blank. -/
inductive CommaList (list : List Char) : List String → Prop
  | blank : allBlank list = true → CommaList list []
  | tags {tags : List (List Char)} {types : List String} :
      CommaTags list tags → LowerTags tags types → CommaList list types

/-! ## Nodes -/

/-- What a search term may be: no quote and not only white space, but parentheses if
need be. -/
structure SearchTerm (term : List Char) : Prop where
  whole : '\'' ∉ term
  solid : allBlank term = false

/-- The trimmed inside of a group, and the node that it denotes. -/
inductive NodeText : List Char → Node → Prop
  | hidden : NodeText [] .hidden
  | any : NodeText ['*'] .any
  | typed {list : List Char} {types : List String} :
      OrList list types → NodeText list (.typed types)
  | described {term : List Char} :
      SearchTerm term → NodeText ('\'' :: term ++ ['\'']) (.described (String.ofList term))
  | describedTyped {term gap list : List Char} {types : List String} :
      SearchTerm term → allBlank gap = true → OrList list types →
      NodeText ('\'' :: term ++ '\'' :: gap ++ ':' :: list)
        (.describedTyped (String.ofList term) types)

/-! ## Links -/

/-- The short spellings: the style, and whether there is a bond on the left and on the
right. -/
def shortSpellings : List (String × LinkStyle × Bool × Bool) :=
  [("-", .bonded, true, true), ("->", .bonded, false, true),
   ("<-", .bonded, true, false), ("<->", .bonded, true, true),
   ("=", .path, true, true), ("=>", .path, false, true),
   ("<=", .path, true, false), ("<=>", .path, true, true)]

/-- The spellings before and after the brackets of a typed link. -/
def typedSpellings : List ((String × String) × LinkStyle × Bool × Bool) :=
  [(("-", "-"), .bonded, true, true), (("-", "->"), .bonded, false, true),
   (("<-", "-"), .bonded, true, false), (("<-", "->"), .bonded, true, true),
   (("=", "="), .path, true, true), (("=", "=>"), .path, false, true),
   (("<=", "="), .path, true, false), (("<=", "=>"), .path, true, true)]

/-- A link without the white space around it, and what it denotes. -/
inductive LinkText : List Char → Link → Prop
  | short {spelling : String} {style : LinkStyle} {left right : Bool} :
      (spelling, style, left, right) ∈ shortSpellings →
      LinkText spelling.toList ⟨.short, style, left, right, [], .anyOf⟩
  | typed {opening closing : String} {style : LinkStyle} {left right : Bool}
      {before list after : List Char} {types : List String} :
      ((opening, closing), style, left, right) ∈ typedSpellings →
      allBlank before = true → OrList list types → allBlank after = true →
      LinkText (opening.toList ++ before ++ '[' :: list ++ ']' :: after ++ closing.toList)
        ⟨.typed, style, left, right, types, .anyOf⟩

/-! ## Chains -/

/-- The hops after a node, in a dialect of links. -/
inductive HopsText (Spells : List Char → Link → Prop) : List Char → List Hop → Prop
  | done : HopsText Spells [] []
  | hop {before link after body rest : List Char} {l : Link} {n : Node} {hops : List Hop} :
      allBlank before = true → Spells link l → allBlank after = true →
      NodeText (trim body) n → HopsText Spells rest hops →
      HopsText Spells (before ++ link ++ after ++ '(' :: body ++ ')' :: rest) (⟨l, n⟩ :: hops)

/-- A node and its hops, in a dialect of links. -/
inductive ChainText (Spells : List Char → Link → Prop) : List Char → Chain → Prop
  | chain {body rest : List Char} {head : Node} {hops : List Hop} :
      NodeText (trim body) head → HopsText Spells rest hops →
      ChainText Spells ('(' :: body ++ ')' :: rest) ⟨head, hops⟩

/-! ## Rules -/

/-- The list of an antecedent's link: the kind that it gives the link, which is a short one
if there is nothing in the list, and the types. -/
inductive RuleList (list : List Char) : LinkKind → List String → Prop
  | short : allBlank list = true → RuleList list .short []
  | typed {tags : List (List Char)} {types : List String} :
      CommaTags list tags → LowerTags tags types → RuleList list .typed types

/-- A link of an antecedent without the white space around it, and what it denotes: a path
along edges with any of the types, with a bond where the arrow is. -/
inductive RuleLinkText : List Char → Link → Prop
  | outbound {list : List Char} {kind : LinkKind} {types : List String} :
      RuleList list kind types →
      RuleLinkText ('[' :: list ++ [']', '>']) ⟨kind, .path, false, true, types, .anyOf⟩
  | inbound {list : List Char} {kind : LinkKind} {types : List String} :
      RuleList list kind types →
      RuleLinkText ('<' :: '[' :: list ++ [']']) ⟨kind, .path, true, false, types, .anyOf⟩

/-- Three nodes joined by two links. The nodes are those of queries, and any of them may
come first. -/
def AntecedentText (text : List Char) (c : Chain) : Prop :=
  ChainText RuleLinkText text c ∧ c.hops.length = 2

def slotDigit : Slot → Char
  | .first => '1'
  | .second => '2'
  | .third => '3'

/-- The number of a slot. -/
inductive SlotText : List Char → Slot → Prop
  | plain (zeros : Nat) (s : Slot) : SlotText (List.replicate zeros '0' ++ [slotDigit s]) s
  | signed (zeros : Nat) (s : Slot) : SlotText ('+' :: List.replicate zeros '0' ++ [slotDigit s]) s

/-- Two numbers in groups, joined by a list in brackets that is not blank. -/
inductive ProductionText : List Char → Production → Prop
  | production {source before list after target : List Char} {p : Production} :
      SlotText (trim source) p.source → allBlank before = true → CommaList list p.types →
      allBlank list = false → allBlank after = true → SlotText (trim target) p.target →
      ProductionText ('(' :: source ++ ')' :: before ++ '[' :: list ++ ']' :: after ++
        '(' :: target ++ [')']) p

end Trellis.Pattern.Grammar
