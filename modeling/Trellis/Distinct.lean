/-
# Trellis.Distinct — the first of each kind

`distinctBy key` keeps of the elements with one key the first and leaves the
order alone.
-/
import Std.Data.TreeSet

namespace Trellis

set_option autoImplicit false

variable {α κ : Type} [Ord κ]

/-- Keeps the first element for each key that has not been seen. -/
def distinctFrom (key : α → κ) (seen : Std.TreeSet κ) : List α → List α
  | [] => []
  | x :: xs =>
    if seen.contains (key x) then distinctFrom key seen xs
    else x :: distinctFrom key (seen.insert (key x)) xs

def distinctBy (key : α → κ) (xs : List α) : List α := distinctFrom key ∅ xs

end Trellis
