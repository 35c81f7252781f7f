/-
# Trellis.Json.Reader — reading a JSON text

The reader takes one token at a time. It keeps the arrays and objects that are
open, innermost first, with what they hold so far, and what may come next. A
text is read when one value has been completed and nothing follows it. Nesting
costs no recursion, so any depth is read.
-/
import Trellis.Json.Token

namespace Trellis.Json

set_option autoImplicit false

/-- An open array or object; what it holds so far is newest first. -/
inductive Frame where
  | items (done : List Json)
  | members (done : List (Text × Json))
  /-- An object whose next member has its key. -/
  | member (done : List (Text × Json)) (key : Text)

/-- What may come next. -/
inductive Stage where
  | value
  /-- The first item of an array, or its end. -/
  | firstItem
  | key
  /-- The first key of an object, or its end. -/
  | firstKey
  | colon
  /-- A comma, or the end of what is open. -/
  | afterValue

inductive Reader where
  | reading (stage : Stage) (frames : List Frame)
  | finished (value : Json)

namespace Reader

/-- A value is complete: it goes into what is open around it. -/
def supply? (value : Json) : List Frame → Option Reader
  | [] => some (.finished value)
  | .items done :: frames => some (.reading .afterValue (.items (value :: done) :: frames))
  | .member done key :: frames =>
    some (.reading .afterValue (.members ((key, value) :: done) :: frames))
  | .members _ :: _ => none

/-- A token where a value may begin. -/
def value? (frames : List Frame) : Token → Option Reader
  | .null => supply? .null frames
  | .bool b => supply? (.bool b) frames
  | .number lexeme => supply? (.number lexeme) frames
  | .text t => supply? (.text t) frames
  | .arrayOpen => some (.reading .firstItem (.items [] :: frames))
  | .objectOpen => some (.reading .firstKey (.members [] :: frames))
  | _ => none

/-- The innermost open array or object ends. -/
def close? (frames : List Frame) : Token → Option Reader
  | .arrayClose =>
    match frames with
    | .items done :: frames => supply? (.array done.reverse) frames
    | _ => none
  | .objectClose =>
    match frames with
    | .members done :: frames => supply? (.object done.reverse) frames
    | _ => none
  | _ => none

def key? (frames : List Frame) : Token → Option Reader
  | .text key =>
    match frames with
    | .members done :: frames => some (.reading .colon (.member done key :: frames))
    | _ => none
  | _ => none

/-- What a comma calls for. -/
def comma? : List Frame → Option Reader
  | .items done :: frames => some (.reading .value (.items done :: frames))
  | .members done :: frames => some (.reading .key (.members done :: frames))
  | _ => none

def step? : Reader → Token → Option Reader
  | .finished _, _ => none
  | .reading .value frames, token => value? frames token
  | .reading .firstItem frames, .arrayClose => close? frames .arrayClose
  | .reading .firstItem frames, token => value? frames token
  | .reading .key frames, token => key? frames token
  | .reading .firstKey frames, .objectClose => close? frames .objectClose
  | .reading .firstKey frames, token => key? frames token
  | .reading .colon frames, .colon => some (.reading .value frames)
  | .reading .colon _, _ => none
  | .reading .afterValue frames, .comma => comma? frames
  | .reading .afterValue frames, token => close? frames token

end Reader

/-- The value that a text spells. -/
def parse? (text : String) : Option Json := do
  match ← (← Token.scan? text).foldlM Reader.step? (.reading .value []) with
  | .finished value => some value
  | .reading _ _ => none

end Trellis.Json
