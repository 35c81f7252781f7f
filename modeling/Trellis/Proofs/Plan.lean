/-
# Trellis.Proofs.Plan — what a query compiles to

A run relies on the form of its plan: it starts from the first filter, passes over the
source of every later triple, and compares types as they stand. Every query that is read
has a plan of that form (`wellFormed_ofChain`). Its first filter narrows, since a query
starts at an anchor, and an anchor has types or a term. Its triples are the relationships
in the order of the text, each joined to the next. Its types are in the spelling that
normalizing keeps (`Tag.Normal.normalize_eq`), and a list of them is empty only where a
relationship was written without brackets, since brackets around nothing are refused. Its
terms are neither blank nor quoted.

A type is a tag in lower case, and that need not be a tag: lower case may bring in a
character that no tag is written with, such as the dot over an `i`. What is said of types is
therefore drawn from what holds of both, that nothing in them is white space and all of it
in lower case (`Tag.Clean`).
-/
import Trellis.Plan
import Trellis.Proofs.Pattern.Query

namespace Trellis

set_option autoImplicit false

open Text

/-! ## Types in their normal spelling -/

namespace Tag

/-- Types in ascending order, each once, and each with nothing to trim or to put in lower
case. -/
structure Normal (types : List String) : Prop where
  ascending : types.Pairwise (· < ·)
  some_ : ∀ type ∈ types, type ≠ ""
  low : ∀ type ∈ types, lowercase type = type
  trim : ∀ type ∈ types, trimmed type = type

theorem normal_nil : Normal [] := ⟨.nil, nofun, nofun, nofun⟩

/-- To normalize such types again changes nothing. -/
theorem Normal.normalize_eq {types : List String} (normal : Normal types) :
    normalize types = types := by
  refine normalize_of_canonical (fun type here => ?_) normal.ascending
  rw [canonical, normal.trim type here, normal.low type here]

/-- Clean tags in order are such types. -/
theorem normal_of_clean {types : List String} (ascending : types.Pairwise (· < ·))
    (clean : ∀ type ∈ types, Clean type) : Normal types := by
  refine ⟨ascending, fun type here => ?_, fun type here => ?_, fun type here => ?_⟩
  · exact (isStorable_iff.mp (clean type here).storable).1
  · rw [lowercase, lower_eq_self (clean type here).low, String.ofList_toList]
  · rw [trimmed, trim_eq_self (solid_of_isStorable (clean type here).storable),
      String.ofList_toList]

end Tag

namespace Pattern

open Grammar

variable {text link : List Char} {types : List String} {n : Node} {l : Link}

/-! ## What the grammar gives a node and a link -/

namespace Grammar

theorem OrList.normal (list : OrList text types) : Tag.Normal types := by
  obtain ⟨words, tags, -, alternate, denoted⟩ := list
  refine Tag.normal_of_clean denoted.ascending fun type here => ?_
  obtain ⟨tag, member, rfl⟩ := (denoted.mem_iff type).mp here
  exact clean_of_tagWord (tagWord_of_alternatives alternate tag member)

theorem OrList.ne_nil (list : OrList text types) : types ≠ [] := by
  obtain ⟨words, tags, -, alternate, denoted⟩ := list
  rintro rfl
  have inside (tag : List Char) (member : tag ∈ tags) : False :=
    List.not_mem_nil ((denoted.mem_iff _).mpr ⟨tag, member, rfl⟩)
  cases alternate with
  | last => exact inside _ List.mem_cons_self
  | more => exact inside _ List.mem_cons_self

theorem NodeText.normal (node : NodeText text n) : Tag.Normal n.types := by
  cases node with
  | hidden | any | described => exact Tag.normal_nil
  | typed list | describedTyped _ _ list => exact list.normal

theorem NodeText.searchTerm (node : NodeText text n) :
    ∀ term ∈ n.term, SearchTerm term.toList := by
  cases node with
  | hidden | any | typed => nofun
  | described isTerm | describedTyped isTerm =>
      rintro _ ⟨⟩
      rwa [String.toList_ofList]

/-- An anchor has types or a term, and neither is empty. -/
theorem NodeText.isEmpty_eq_false (node : NodeText text n) (visible : n ≠ .hidden ∧ n ≠ .any) :
    (Plan.Node.ofPattern n).filter.isEmpty = false := by
  have active {term : List Char} (isTerm : SearchTerm term) : String.ofList term ≠ "" := by
    intro none_
    have noText : term = [] := by simpa using congrArg String.toList none_
    have solid := isTerm.solid
    rw [noText] at solid
    cases solid
  cases node with
  | hidden => exact absurd rfl visible.1
  | any => exact absurd rfl visible.2
  | typed list =>
      simp [Plan.Node.ofPattern, Plan.Node.filter, VertexFilter.isEmpty, Node.types, list.ne_nil]
  | described isTerm | describedTyped isTerm =>
      simp [Plan.Node.ofPattern, Plan.Node.filter, VertexFilter.isEmpty, VertexFilter.activeTerm,
        Node.term, active isTerm]

theorem LinkText.normal (denoted : LinkText link l) : Tag.Normal l.types := by
  cases denoted with
  | short => exact Tag.normal_nil
  | typed _ _ list => exact list.normal

/-- A link has types exactly when it is written with brackets. -/
theorem LinkText.types_eq_nil_iff (denoted : LinkText link l) :
    l.types = [] ↔ '[' ∉ link ∧ ']' ∉ link := by
  cases denoted with
  | short here =>
      have plain := isSpelling_of_short _ here
      simp [plain.free '[' (by decide), plain.free ']' (by decide)]
  | typed _ _ list => simp [list.ne_nil]

end Grammar

/-! ## The relationships of a text -/

/-- The text of a link. -/
def Token.link? : Token → Option (List Char)
  | .node _ => none
  | .link text => some text

theorem filterMap_link_hopTokens (hops : List (List Char × List Char)) :
    (Skeleton.hopTokens hops).filterMap Token.link? = hops.map (·.1) := by
  induction hops with
  | nil => rfl
  | cons hop hops ih => exact congrArg (hop.1 :: ·) ih

end Pattern

/-! ## Well-formed plans -/

namespace Plan

open Pattern (Token Chain Hop)
open Pattern.Grammar (NodeText LinkText SearchTerm)

/-- The filter that a run starts from. -/
def first? : Plan → Option VertexFilter
  | .vertices filter => some filter
  | .walk [] => none
  | .walk (t :: _) => some t.source.filter

/-- The filters of all nodes; those between two triples come twice. -/
def filters : Plan → List VertexFilter
  | .vertices filter => [filter]
  | .walk triples => triples.flatMap fun t => [t.source.filter, t.target.filter]

/-- The types of all nodes and links. -/
def typeLists (p : Plan) : List (List String) :=
  p.filters.map (·.types) ++ p.triples.map (·.link.types)

/-- The link of a triple is what a relationship's text denotes. -/
structure Link.Renders (text : List Char) (l : Link) : Prop where
  denoted : ∃ spelled, LinkText text spelled ∧ l = .ofPattern spelled
  types_eq_nil_iff : l.types = [] ↔ '[' ∉ text ∧ ']' ∉ text

/-- What a run relies on in the plan of a query with the given relationships. -/
structure WellFormed (relationships : List (List Char)) (p : Plan) : Prop where
  /-- The start is narrowed. -/
  anchored : ∃ filter, p.first? = some filter ∧ filter.isEmpty = false
  /-- One triple for each relationship, in order. -/
  rendered : List.Forall₂ Link.Renders relationships (p.triples.map (·.link))
  joined : p.triples.IsChain fun t t' => t.target = t'.source
  normal : ∀ types ∈ p.typeLists, Tag.Normal types
  /-- An edge filter has the types of its relationship as they stand. -/
  edgeFilter : ∀ t ∈ p.triples,
    t.link.edgeFilter = ⟨t.link.types, t.link.inclusive, t.link.scope, none⟩
  searchTerm : ∀ filter ∈ p.filters, ∀ term ∈ filter.term, SearchTerm term.toList

/-! ## The plan of a chain -/

theorem map_link_triplesFrom (source : Node) (hops : List Hop) :
    (triplesFrom source hops).map (·.link) = hops.map fun hop => .ofPattern hop.link := by
  induction hops generalizing source with
  | nil => rfl
  | cons hop hops ih => simp [triplesFrom, ih]

theorem isChain_triplesFrom (source : Node) (hops : List Hop) :
    (triplesFrom source hops).IsChain fun t t' => t.target = t'.source := by
  induction hops generalizing source with
  | nil => exact .nil
  | cons hop hops ih =>
      have later := ih (.ofPattern hop.node)
      cases hops with
      | nil => exact .singleton _
      | cons next hops => exact .cons_cons rfl later

/-- The ends of a triple are among its chain's nodes. -/
theorem ends_of_mem_triplesFrom {source : Pattern.Node} {hops : List Hop} {t : Triple}
    (here : t ∈ triplesFrom (.ofPattern source) hops) :
    (∃ n ∈ source :: hops.map (·.node), t.source = .ofPattern n) ∧
      ∃ n ∈ source :: hops.map (·.node), t.target = .ofPattern n := by
  induction hops generalizing source with
  | nil => cases here
  | cons hop hops ih =>
      rcases List.mem_cons.mp here with rfl | later
      · exact ⟨⟨source, by simp, rfl⟩, hop.node, by simp, rfl⟩
      · obtain ⟨⟨n, member, source⟩, n', member', target⟩ := ih later
        exact ⟨⟨n, List.mem_cons_of_mem _ member, source⟩,
          n', List.mem_cons_of_mem _ member', target⟩

theorem triples_ofChain (c : Chain) :
    (ofChain c).triples = triplesFrom (.ofPattern c.head) c.hops := by
  obtain ⟨head, hops⟩ := c
  cases hops <;> rfl

theorem first_ofChain (c : Chain) : (ofChain c).first? = some (Node.ofPattern c.head).filter := by
  obtain ⟨head, hops⟩ := c
  cases hops <;> rfl

/-- The filters of a plan are those of its chain's nodes. -/
theorem exists_of_mem_filters {c : Chain} {filter : VertexFilter}
    (here : filter ∈ (ofChain c).filters) :
    ∃ n ∈ c.nodes, filter = (Node.ofPattern n).filter := by
  obtain ⟨head, hops⟩ := c
  cases hops with
  | nil => exact ⟨head, by simp [Chain.nodes], List.mem_singleton.mp here⟩
  | cons hop hops =>
      obtain ⟨t, member, isEnd⟩ := List.mem_flatMap.mp here
      obtain ⟨⟨n, inside, source⟩, n', inside', target⟩ := ends_of_mem_triplesFrom member
      rcases List.mem_cons.mp isEnd with rfl | isEnd
      · exact ⟨n, inside, congrArg _ source⟩
      · obtain rfl := List.mem_singleton.mp isEnd
        exact ⟨n', inside', congrArg _ target⟩

/-- A chain whose nodes and links have texts, the head an anchor, has a well-formed plan. -/
theorem wellFormed_of_texts {c : Chain} {relationships : List (List Char)}
    (nodes : ∀ n ∈ c.nodes, ∃ text, NodeText text n) (anchor : c.head ≠ .hidden ∧ c.head ≠ .any)
    (links : List.Forall₂ (fun text hop => LinkText text hop.link) relationships c.hops) :
    (ofChain c).WellFormed relationships := by
  have triples := triples_ofChain c
  have linked : (ofChain c).triples.map (·.link) = c.hops.map fun hop => .ofPattern hop.link := by
    rw [triples, map_link_triplesFrom]
  have normalLink : ∀ t ∈ (ofChain c).triples, Tag.Normal t.link.types := by
    intro t here
    have member := List.mem_map_of_mem (f := (·.link)) here
    rw [linked] at member
    obtain ⟨hop, isHop, same⟩ := List.mem_map.mp member
    obtain ⟨text, -, denoted⟩ := exists_of_mem_forall₂ links.flip isHop
    rw [← same]
    exact denoted.normal
  constructor
  case anchored =>
    obtain ⟨text, node⟩ := nodes c.head List.mem_cons_self
    exact ⟨_, first_ofChain c, node.isEmpty_eq_false anchor⟩
  case rendered =>
    rw [linked, List.forall₂_map_right_iff]
    exact links.imp fun text hop denoted => ⟨⟨hop.link, denoted, rfl⟩, denoted.types_eq_nil_iff⟩
  case joined =>
    rw [triples]
    exact isChain_triplesFrom _ _
  case normal =>
    intro types here
    rcases List.mem_append.mp here with inFilter | inLink
    · obtain ⟨filter, member, rfl⟩ := List.mem_map.mp inFilter
      obtain ⟨n, inside, rfl⟩ := exists_of_mem_filters member
      obtain ⟨text, node⟩ := nodes n inside
      exact node.normal
    · obtain ⟨t, member, rfl⟩ := List.mem_map.mp inLink
      exact normalLink t member
  case edgeFilter =>
    intro t here
    rw [Link.edgeFilter, EdgeFilter.withTypes, (normalLink t here).normalize_eq]
    rfl
  case searchTerm =>
    intro filter here
    obtain ⟨n, inside, rfl⟩ := exists_of_mem_filters here
    obtain ⟨text, node⟩ := nodes n inside
    exact node.searchTerm

end Plan

/-! ## The plan of a query -/

namespace Pattern

open Grammar

/-- A query is read off a skeleton whose nodes and links it has. -/
theorem exists_skeleton_of_parseQuery {text : String} {c : Chain} (read : parseQuery text = .ok c) :
    ∃ body s, trim text.toList = '?' :: body ∧ Skeleton.ofText body = .ok s ∧
      readNode s.head = .ok c.head ∧ (c.head ≠ .hidden ∧ c.head ≠ .any) ∧
      List.Forall₂ (fun raw hop => readQueryLink raw.1 = .ok hop.link ∧
        readNode raw.2 = .ok hop.node) s.hops c.hops := by
  unfold parseQuery at read
  split at read
  · next body sigil =>
      obtain ⟨c', readBody, rest⟩ := bind_eq_ok_iff.mp read
      obtain ⟨⟨⟩, checked, done⟩ := bind_eq_ok_iff.mp rest
      obtain rfl := Except.ok.inj done
      simp only [readChain, bind_eq_ok_iff, readHops_eq_ok_iff] at readBody
      obtain ⟨s, skeleton, hops, readHops, head, readHead, made⟩ := readBody
      obtain rfl := Except.ok.inj made
      exact ⟨body, s, sigil, skeleton, readHead, checkQuery_eq_ok_iff.mp checked, readHops⟩
  · cases read

/-- The links of a skeleton are read from trimmed texts. -/
theorem linkTexts_of_laid {text : List Char} {raw : List (List Char × List Char)}
    {hops : List Hop} (laid : Skeleton.Laid text raw)
    (readAll : List.Forall₂ (fun r hop => readQueryLink r.1 = .ok hop.link ∧
      readNode r.2 = .ok hop.node) raw hops) :
    List.Forall₂ (fun link hop => LinkText link hop.link) (raw.map (·.1)) hops := by
  induction laid generalizing hops with
  | done =>
      cases readAll
      exact .nil
  | hop _ isLink _ _ _ ih =>
      cases readAll with
      | cons this later =>
          exact .cons ((readQueryLink_eq_ok_iff isLink.trimmed).mp this.1) (ih later)

end Pattern

namespace Plan

open Pattern (Token Chain Skeleton)
open Pattern.Grammar (NodeText)

/-- **Every query that is read has a well-formed plan**, for the relationships that stand
between its groups. -/
theorem wellFormed_ofChain (text : String) (c : Chain) (read : Pattern.parseQuery text = .ok c) :
    ∃ body tokens, trim text.toList = '?' :: body ∧ Token.split body = .ok tokens ∧
      (ofChain c).WellFormed (tokens.filterMap Token.link?) := by
  obtain ⟨body, s, sigil, skeleton, readHead, anchor, readHops⟩ :=
    Pattern.exists_skeleton_of_parseQuery read
  obtain ⟨tokens, split, alternate⟩ := bind_eq_ok_iff.mp skeleton
  refine ⟨body, tokens, sigil, split, ?_⟩
  have relationships : tokens.filterMap Token.link? = s.hops.map (·.1) := by
    rw [Skeleton.ofTokens_eq_ok_iff.mp alternate]
    exact Pattern.filterMap_link_hopTokens s.hops
  obtain ⟨_, _, _, _, _, _, laid, _⟩ := Skeleton.ofText_eq_ok_iff.mp skeleton
  have nodes : ∀ n ∈ c.nodes, ∃ text, NodeText text n := by
    intro n here
    rcases List.mem_cons.mp here with rfl | later
    · exact ⟨_, Pattern.readNode_eq_ok_iff.mp readHead⟩
    · obtain ⟨hop, isHop, rfl⟩ := List.mem_map.mp later
      obtain ⟨raw, -, _, readNode⟩ := exists_of_mem_forall₂ readHops.flip isHop
      exact ⟨_, Pattern.readNode_eq_ok_iff.mp readNode⟩
  rw [relationships]
  exact wellFormed_of_texts nodes anchor (Pattern.linkTexts_of_laid laid readHops)

/-- A search term with a parenthesis, tags in capitals and one that is no tag in lower case,
a link with a list and one without. -/
def dottedQuery : String := "?('a(' : \u0130X or B) <=[Y or x]= () - (*)"

def dottedChain : Chain where
  head := .describedTyped "a(" ["b", "i\u0307x"]
  hops :=
    [⟨⟨.typed, .path, true, false, ["x", "y"], .anyOf⟩, .hidden⟩,
      ⟨⟨.short, .bonded, true, true, [], .anyOf⟩, .any⟩]

theorem wellFormed_ofChain_dotted :
    Pattern.parseQuery dottedQuery = .ok dottedChain ∧
      ∃ body tokens, trim dottedQuery.toList = '?' :: body ∧ Token.split body = .ok tokens ∧
        (ofChain dottedChain).WellFormed (tokens.filterMap Token.link?) := by
  have read : Pattern.parseQuery dottedQuery = .ok dottedChain := by rfl
  exact ⟨read, wellFormed_ofChain dottedQuery dottedChain read⟩

end Plan

end Trellis
