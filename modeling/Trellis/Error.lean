/-
# Trellis.Error — what can go wrong, and how it is said

An error is its cause with the pieces of input that the message shows. Causes
come in families, one to each part of the library that can refuse something:
pattern text, edge identifiers, elements offered to the graph, rows that
outlived what they point at, and graph documents. `Error` joins the families
for the callers that meet several, and `Error.message` is the one place where
the wording is fixed.
-/
import Trellis.Text.Quoted

namespace Trellis

set_option autoImplicit false

open Text (quoted)

/-- Why a query, a rule or a chain is refused. -/
inductive PatternError where
  /-- A query does not begin with the question mark. -/
  | missingSigil
  /-- A parenthesis opens inside a group, outside a search term. -/
  | nestedGroup
  /-- The text ends inside a group. -/
  | unclosedGroup
  /-- A parenthesis closes outside any group. -/
  | strayClose
  /-- The first thing in the pattern is a link. -/
  | leadingLink (link : String)
  /-- The pattern is empty. -/
  | noNode
  /-- Two groups stand side by side. -/
  | adjacentNodes
  /-- Nothing, or another link, stands after a link. -/
  | danglingLink (link : String)
  /-- A search term has no closing quote. -/
  | unterminatedTerm (body : String)
  /-- A search term is blank. -/
  | blankTerm
  /-- Something other than a colon stands after a search term. -/
  | missingColon (found : String)
  /-- Something other than the keyword stands between two tags. -/
  | missingOr (found : String)
  /-- A list of alternatives is empty or ends with the keyword. -/
  | incompleteTypes (text : String)
  /-- A word is not a type tag. -/
  | invalidTag (word : String)
  /-- A link of a query has none of the known spellings. -/
  | unknownLink (link : String)
  /-- The brackets of a link hold nothing. -/
  | untypedLink (link : String)
  /-- A link of a rule has neither of its two spellings. -/
  | invalidRuleHop (link : String)
  /-- A production is not one hop. -/
  | invalidProduction (text : String)
  /-- The link of a production is not a bracketed list. -/
  | unbracketedProduction (link : String)
  /-- The link of a production names no type. -/
  | untypedProduction
  /-- A node of a production is not a small number. -/
  | invalidSlot (body : String)
  /-- A node of a production is a number that names no slot. -/
  | slotOutOfRange (position : Nat)
  /-- A single node selects everything. -/
  | unanchoredNode
  /-- The first of several nodes selects everything. -/
  | unanchoredChain
  /-- The antecedent of a rule does not have three nodes. -/
  | slotCount (found : Nat)
  /-- A hop of an antecedent points both ways. -/
  | undirectedHop
  deriving DecidableEq

def PatternError.message : PatternError → String
  | .missingSigil => "query must start with '?'"
  | .nestedGroup => "node groups cannot be nested"
  | .unclosedGroup => "node group is missing its ')'"
  | .strayClose => "unbalanced ')'"
  | .leadingLink link => "pattern must start with a node, found " ++ quoted link
  | .noNode => "pattern must contain at least one node"
  | .adjacentNodes => "adjacent nodes need a relationship between them"
  | .danglingLink link => "relationship " ++ quoted link ++ " must be followed by a node"
  | .unterminatedTerm body => "unterminated search term in (" ++ body ++ ")"
  | .blankTerm => "search term must not be empty"
  | .missingColon found => "expected ':' after search term, found " ++ quoted found
  | .missingOr found => "expected 'or' between types, found " ++ quoted found
  | .incompleteTypes text => "type list " ++ quoted text ++ " is empty or ends with 'or'"
  | .invalidTag word => quoted word ++ " is not a valid type name"
  | .unknownLink link => "unknown relationship spelling " ++ quoted link
  | .untypedLink link => "relationship " ++ quoted link ++ " has an empty type list"
  | .invalidRuleHop link =>
    "rule hop " ++ quoted link ++ " must be written [types]> or <[types]"
  | .invalidProduction text =>
    "production " ++ quoted text ++ " must have the form (n)[types](m)"
  | .unbracketedProduction link =>
    "production link " ++ quoted link ++ " must be a bracketed type list"
  | .untypedProduction => "production must name at least one edge type"
  | .invalidSlot body => "production slot (" ++ body ++ ") must be 1, 2 or 3"
  | .slotOutOfRange position => "slot " ++ toString position ++ " is outside 1..=3"
  | .unanchoredNode => "a lone (*) or () node does not select anything"
  | .unanchoredChain => "a query must start with a typed or described node"
  | .slotCount found =>
    "a rule antecedent needs exactly three slots, found " ++ toString found
  | .undirectedHop => "rule antecedent hops must point in one direction"

/-- Why a text is not the identifier of an edge. -/
inductive EdgeIdError where
  /-- The text does not have three parts with something in each. -/
  | wrongParts (raw : String)
  /-- One of the types in the middle part is empty. -/
  | emptyType (raw : String)
  deriving DecidableEq

def EdgeIdError.message : EdgeIdError → String
  | .wrongParts raw => "edge id " ++ quoted raw ++ " is not of the form source>types>target"
  | .emptyType raw => "edge id " ++ quoted raw ++ " contains an empty type"

/-- The two kinds of element that carry type tags. -/
inductive Owner where
  | vertex
  | edge
  deriving DecidableEq

def Owner.noun : Owner → String
  | .vertex => "vertex"
  | .edge => "edge"

/-- Why the graph refuses an element. -/
inductive InputError where
  /-- A vertex id is blank. -/
  | blankVertexId
  /-- A vertex id holds the mark that separates the parts of an edge id. -/
  | separatorInVertexId (id : String)
  /-- An element has no type. -/
  | untyped (owner : Owner)
  /-- A type is empty, or holds white space or a mark of edge ids. -/
  | invalidTag (owner : Owner) (tag : String)
  /-- Another vertex has the id. -/
  | duplicateVertex (id : String)
  deriving DecidableEq

def InputError.message : InputError → String
  | .blankVertexId => "vertex id must be set"
  | .separatorInVertexId id => "vertex id " ++ quoted id ++ " must not contain '>'"
  | .untyped owner => owner.noun ++ " must have at least one type"
  | .invalidTag owner tag => owner.noun ++ " type " ++ quoted tag ++ " is not a valid type tag"
  | .duplicateVertex id => "vertex " ++ id ++ " already exists"

/-- Any refusal of the library. -/
inductive Error where
  | pattern (cause : PatternError)
  | edgeId (cause : EdgeIdError)
  | input (cause : InputError)
  /-- A row points at an element that is no longer stored. -/
  | missing (owner : Owner) (id : String)
  /-- A graph document cannot be read. -/
  | document
  deriving DecidableEq

def Error.message : Error → String
  | .pattern cause => "invalid query: " ++ cause.message
  | .edgeId cause => "malformed identifier: " ++ cause.message
  | .input cause => "invalid input: " ++ cause.message
  | .missing owner id => "entity not found: " ++ owner.noun ++ " " ++ id
  | .document => "document error: not a graph document"

end Trellis
