/-
# Trellis.Text.Occurrence — one text inside another

`occursIn term text` looks for the term at every position of the text. It is
decided from the front, and `occursIn_iff` says what it decides: the text is
something, then the term, then something.
-/
namespace Trellis.Text

set_option autoImplicit false

def occursIn (term : List Char) : List Char → Bool
  | [] => term = []
  | c :: cs => term.isPrefixOf (c :: cs) || occursIn term cs

theorem occursIn_iff (term cs : List Char) : occursIn term cs = true ↔ term <:+: cs := by
  induction cs with
  | nil => simp [occursIn]
  | cons c cs ih =>
    rw [occursIn, Bool.or_eq_true, ih, List.isPrefixOf_iff_prefix, List.infix_cons_iff]

end Trellis.Text
