/-
# Trellis.Json.Printer — writing JSON without white space

Strings escape the quote, the backslash and the control characters and are
otherwise written as they are. The members of an object are written in
ascending order of their keys.
-/
import Trellis.Json.Value

namespace Trellis.Json

set_option autoImplicit false

/-- A code of four hexadecimal digits. -/
def codeEscape (code : Nat) : String :=
  let digits := Nat.toDigits 16 code
  String.ofList (['\\', 'u'] ++ List.replicate (4 - digits.length) '0' ++ digits)

def writeChar (c : Char) : String :=
  if c = '"' then "\\\""
  else if c = '\\' then "\\\\"
  else if c = '\n' then "\\n"
  else if c = '\r' then "\\r"
  else if c = '\t' then "\\t"
  else if c = '\x08' then "\\b"
  else if c = '\x0c' then "\\f"
  else if c.toNat < 0x20 then codeEscape c.toNat
  else c.toString

def writePiece : Piece → String
  | .char c => writeChar c
  | .surrogate code => codeEscape code

def writeText (t : Text) : String := "\"" ++ String.join (t.map writePiece) ++ "\""

/-- Members in ascending order of their written keys, joined and put in braces. -/
def writeMembers (members : List (String × String)) : String :=
  let sorted := members.mergeSort fun a b => a.1 ≤ b.1
  "\x7b" ++ ",".intercalate (sorted.map fun (key, value) => key ++ ":" ++ value) ++ "\x7d"

mutual

def render : Json → String
  | .null => "null"
  | .bool b => if b then "true" else "false"
  | .number lexeme => lexeme
  | .text t => writeText t
  | .array items => "[" ++ ",".intercalate (renderItems items) ++ "]"
  | .object members => writeMembers (renderMembers members)

def renderItems : List Json → List String
  | [] => []
  | item :: rest => render item :: renderItems rest

def renderMembers : List (Text × Json) → List (String × String)
  | [] => []
  | (key, value) :: rest => (writeText key, render value) :: renderMembers rest

end

end Trellis.Json
