/-
# Trellis.Pattern.Node — reading nodes and lists of tags

The inside of a group is empty, a star, a list of alternatives, or a search
term between single quotes that a colon and a list of alternatives may follow.
Alternatives are words with `or`, in any case, between each two; a rule lists
its tags with commas instead. A tag is a word of letters, digits, `_`, `-` and
`.`, and a list of tags is read in its normal form.
-/
import Trellis.Pattern.Chain
import Trellis.Tag
import Trellis.Text.Alphanumeric

namespace Trellis.Pattern

set_option autoImplicit false

open Text

def isTagChar (c : Char) : Bool := isAlphanumeric c || c = '_' || c = '-' || c = '.'

def isTagWord (word : List Char) : Bool := word ≠ [] && word.all isTagChar

/-- A tag in lower case. -/
def readTag (word : List Char) : Except PatternError String :=
  if isTagWord word then .ok (String.ofList (lower word))
  else .error (.invalidTag (String.ofList word))

/-- The keyword between alternatives, in any case. -/
def isOr (word : List Char) : Bool := word.map Char.toLower = ['o', 'r']

/-- Where a reader of alternatives stands: before a tag, or before the keyword. -/
inductive Turn where
  | tag
  | keyword
  deriving DecidableEq

/-- The tags among words that take turns with the keyword, and the turn that
would come next. -/
def readAlternatives : Turn → List (List Char) → Except PatternError (List String × Turn)
  | turn, [] => .ok ([], turn)
  | .tag, word :: rest => do
    let tag ← readTag word
    let (tags, turn) ← readAlternatives .keyword rest
    .ok (tag :: tags, turn)
  | .keyword, word :: rest =>
    if isOr word then readAlternatives .tag rest
    else .error (.missingOr (String.ofList word))

/-- `a or B or c`: at least one tag, and a tag last. -/
def readOrList (text : List Char) : Except PatternError (List String) := do
  let (tags, turn) ← readAlternatives .tag (words text)
  if turn = .tag then .error (.incompleteTypes (String.ofList text))
  else .ok (Tag.normalize tags)

/-- `a, B, c`; a blank text is the empty list. -/
def readCommaList (text : List Char) : Except PatternError (List String) :=
  if allBlank text then .ok []
  else Tag.normalize <$> (text.splitOn ',').mapM fun word => readTag (trim word)

/-- A search term has been opened: the term up to the closing quote, then
nothing, or a colon and alternatives. -/
def readDescribed (body rest : List Char) : Except PatternError Node :=
  match rest.span (· ≠ '\'') with
  | (_, []) => .error (.unterminatedTerm (String.ofList body))
  | (term, _ :: after) =>
    if allBlank term then .error .blankTerm
    else match trim after with
      | [] => .ok (.described (String.ofList term))
      | ':' :: types => .describedTyped (String.ofList term) <$> readOrList types
      | found => .error (.missingColon (String.ofList found))

/-- The inside of a group. -/
def readNode (text : List Char) : Except PatternError Node :=
  match trim text with
  | [] => .ok .hidden
  | ['*'] => .ok .any
  | '\'' :: rest => readDescribed (trim text) rest
  | body => .typed <$> readOrList body

end Trellis.Pattern
