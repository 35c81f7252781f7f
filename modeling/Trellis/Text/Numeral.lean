/-
# Trellis.Text.Numeral — decimal numerals of bounded size

A numeral is one or more of the ten ASCII digits after an optional plus sign;
leading zeros count for nothing. `readUpTo?` also refuses a value above a bound.
-/
namespace Trellis.Text

set_option autoImplicit false

namespace Numeral

def value (digits : List Char) : Nat :=
  digits.foldl (fun n c => 10 * n + (c.toNat - '0'.toNat)) 0

def unsigned (cs : List Char) : List Char :=
  if cs.head? = some '+' then cs.tail else cs

def read? (cs : List Char) : Option Nat :=
  let digits := unsigned cs
  if digits ≠ [] ∧ digits.all Char.isDigit then some (value digits) else none

def readUpTo? (bound : Nat) (cs : List Char) : Option Nat :=
  (read? cs).filter (· ≤ bound)

end Numeral

end Trellis.Text
