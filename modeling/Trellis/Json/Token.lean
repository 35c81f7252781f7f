/-
# Trellis.Json.Token — the words of a JSON text

The scanner reads a text one character at a time and keeps what it is in the
middle of: a literal or number, a string, an escape. It refuses a text with a
word that is neither a literal nor a number, a string with an unknown escape or
a bare control character, and a string that is left open. White space between
words is the space, the tab and the two line ends.
-/
import Trellis.Json.Value

namespace Trellis.Json

set_option autoImplicit false

inductive Token where
  | arrayOpen
  | arrayClose
  | objectOpen
  | objectClose
  | comma
  | colon
  | null
  | bool (b : Bool)
  | number (lexeme : String)
  | text (t : Text)

/-! ## Numbers -/

/-- Nothing, or an exponent: its digits may follow a sign. -/
def isExponent : List Char → Bool
  | [] => true
  | e :: rest =>
    let digits := if rest.head? = some '+' ∨ rest.head? = some '-' then rest.tail else rest
    (e = 'e' || e = 'E') && digits ≠ [] && digits.all Char.isDigit

/-- Nothing, a fraction, an exponent, or a fraction with an exponent. -/
def isFraction : List Char → Bool
  | '.' :: rest =>
    rest.takeWhile Char.isDigit ≠ [] && isExponent (rest.dropWhile Char.isDigit)
  | rest => isExponent rest

/-- A number has a whole part without a leading zero, and may have a minus sign,
a fraction and an exponent. -/
def isNumber (cs : List Char) : Bool :=
  let cs := if cs.head? = some '-' then cs.tail else cs
  let whole := cs.takeWhile Char.isDigit
  (whole = ['0'] || (whole ≠ [] && whole.head? ≠ some '0'))
    && isFraction (cs.dropWhile Char.isDigit)

/-! ## Strings -/

def isHighSurrogate (code : Nat) : Bool := 0xD800 ≤ code && code ≤ 0xDBFF

def isLowSurrogate (code : Nat) : Bool := 0xDC00 ≤ code && code ≤ 0xDFFF

/-- One sixteen-bit unit that an escape spells. -/
def Piece.ofUnit (code : Nat) : Piece :=
  if isHighSurrogate code || isLowSurrogate code then .surrogate code
  else .char (Char.ofNat code)

/-- Puts a unit after a text that is read newest first; two halves of a pair
that both came as escapes become one character. -/
def pushUnit (read : Text) (code : Nat) : Text :=
  match read with
  | .surrogate high :: rest =>
    if isHighSurrogate high && isLowSurrogate code then
      .char (Char.ofNat (0x10000 + (high - 0xD800) * 0x400 + (code - 0xDC00))) :: rest
    else .ofUnit code :: read
  | _ => .ofUnit code :: read

/-- The character that an escape of one letter stands for. -/
def simpleEscape? : Char → Option Char
  | '"' => some '"'
  | '\\' => some '\\'
  | '/' => some '/'
  | 'b' => some '\x08'
  | 'f' => some '\x0c'
  | 'n' => some '\n'
  | 'r' => some '\r'
  | 't' => some '\t'
  | _ => none

def hexDigit? (c : Char) : Option Nat :=
  if c.isDigit then some (c.toNat - '0'.toNat)
  else if 'a' ≤ c ∧ c ≤ 'f' then some (c.toNat - 'a'.toNat + 10)
  else if 'A' ≤ c ∧ c ≤ 'F' then some (c.toNat - 'A'.toNat + 10)
  else none

/-! ## The scanner -/

/-- What the scanner is in the middle of; what has been read is newest first. -/
inductive Mode where
  | between
  | word (read : List Char)
  | string (read : Text)
  /-- Just after the backslash of an escape. -/
  | escape (read : Text)
  /-- In an escape by code, with so many digits to come. -/
  | unit (read : Text) (missing code : Nat)

structure Scanner where
  /-- The tokens read so far, newest first. -/
  tokens : List Token := []
  mode : Mode := .between

namespace Scanner

def isWordChar (c : Char) : Bool := c.isAlphanum || c = '-' || c = '+' || c = '.'

def wordToken? (word : List Char) : Option Token :=
  if word = ['n', 'u', 'l', 'l'] then some .null
  else if word = ['t', 'r', 'u', 'e'] then some (.bool true)
  else if word = ['f', 'a', 'l', 's', 'e'] then some (.bool false)
  else if isNumber word then some (.number (String.ofList word))
  else none

/-- A character outside words and strings. -/
def start? (tokens : List Token) (c : Char) : Option Scanner :=
  if c = ' ' || c = '\t' || c = '\n' || c = '\r' then some ⟨tokens, .between⟩
  else if c = '[' then some ⟨.arrayOpen :: tokens, .between⟩
  else if c = ']' then some ⟨.arrayClose :: tokens, .between⟩
  else if c = '\x7b' then some ⟨.objectOpen :: tokens, .between⟩
  else if c = '\x7d' then some ⟨.objectClose :: tokens, .between⟩
  else if c = ',' then some ⟨.comma :: tokens, .between⟩
  else if c = ':' then some ⟨.colon :: tokens, .between⟩
  else if c = '"' then some ⟨tokens, .string []⟩
  else if isWordChar c then some ⟨tokens, .word [c]⟩
  else none

def step? (s : Scanner) (c : Char) : Option Scanner :=
  match s.mode with
  | .between => start? s.tokens c
  | .word read =>
    if isWordChar c then some { s with mode := .word (c :: read) }
    else do start? ((← wordToken? read.reverse) :: s.tokens) c
  | .string read =>
    if c = '"' then some ⟨.text read.reverse :: s.tokens, .between⟩
    else if c = '\\' then some { s with mode := .escape read }
    else if c.toNat < 0x20 then none
    else some { s with mode := .string (.char c :: read) }
  | .escape read =>
    if c = 'u' then some { s with mode := .unit read 3 0 }
    else do return { s with mode := .string (.char (← simpleEscape? c) :: read) }
  | .unit read missing code => do
    let code := code * 16 + (← hexDigit? c)
    return match missing with
      | 0 => { s with mode := .string (pushUnit read code) }
      | missing + 1 => { s with mode := .unit read missing code }

/-- The tokens in order, if the text may end here. -/
def finish? (s : Scanner) : Option (List Token) :=
  match s.mode with
  | .between => some s.tokens.reverse
  | .word read => do return ((← wordToken? read.reverse) :: s.tokens).reverse
  | _ => none

end Scanner

def Token.scan? (text : String) : Option (List Token) := do
  (← text.toList.foldlM Scanner.step? ({} : Scanner)).finish?

end Trellis.Json
