/-
# Trellis.Text.Quoted — text shown between double quotes

Messages show a piece of input between double quotes. The quote and the
backslash are escaped, the common controls and NUL have a letter or digit of
their own, and any other character that is not printable is shown by its code
point in hexadecimal, lower case and without padding.
-/
import Trellis.Text.Printable

namespace Trellis.Text

set_option autoImplicit false

def escaped (c : Char) : List Char :=
  if c = '"' then ['\\', '"']
  else if c = '\\' then ['\\', '\\']
  else if c = '\n' then ['\\', 'n']
  else if c = '\r' then ['\\', 'r']
  else if c = '\t' then ['\\', 't']
  else if c = '\x00' then ['\\', '0']
  else if isPrintable c then [c]
  else ['\\', 'u', '\x7b'] ++ Nat.toDigits 16 c.toNat ++ ['\x7d']

def quoted (s : String) : String :=
  String.ofList (['"'] ++ s.toList.flatMap escaped ++ ['"'])

end Trellis.Text
