/-
# Trellis.Text.Blank — white space, trimming and words

White space is the Unicode property White_Space: it takes in the no-break and
the ideographic space and leaves out the zero-width space, the byte-order mark
and the separators U+001C to U+001F. Text is worked on as a list of characters;
`trimmed` is the same for strings.
-/
import Trellis.Text.CodeRange

namespace Trellis.Text

set_option autoImplicit false

/-- The code points with the property White_Space. -/
def blankRanges : CodeRanges where
  ranges := [
    (0x0009, 0x000D), (0x0020, 0x0020), (0x0085, 0x0085), (0x00A0, 0x00A0), (0x1680, 0x1680),
    (0x2000, 0x200A), (0x2028, 0x2029), (0x202F, 0x202F), (0x205F, 0x205F), (0x3000, 0x3000)]

def isBlank (c : Char) : Bool := blankRanges.covers c.toNat

/-- Nothing but white space, or nothing at all. -/
def allBlank (cs : List Char) : Bool := cs.all isBlank

def trimStart (cs : List Char) : List Char := cs.dropWhile isBlank

def trimEnd (cs : List Char) : List Char := (cs.reverse.dropWhile isBlank).reverse

/-- The text without the white space at its two ends. -/
def trim (cs : List Char) : List Char := trimEnd (trimStart cs)

def trimmed (s : String) : String := String.ofList (trim s.toList)

/-- The longest runs of characters other than white space, in order. -/
def words (cs : List Char) : List (List Char) := (cs.splitOnP isBlank).filter (· ≠ [])

theorem trim_nil : trim [] = [] := rfl

theorem trimStart_eq_nil_iff (cs : List Char) : trimStart cs = [] ↔ allBlank cs = true := by
  rw [trimStart, allBlank]
  induction cs with
  | nil => simp
  | cons c cs ih => cases h : isBlank c <;> simp [h, ih]

/-- Trimming leaves nothing exactly when there was nothing but white space. -/
theorem trim_eq_nil_iff (cs : List Char) : trim cs = [] ↔ allBlank cs = true := by
  rw [← trimStart_eq_nil_iff]
  constructor
  · intro h
    have blank : ∀ c ∈ trimStart cs, isBlank c = true := by
      have reversed : trimStart (trimStart cs).reverse = [] := by
        simpa [trim, trimEnd, trimStart] using h
      simpa [allBlank] using (trimStart_eq_nil_iff _).mp reversed
    cases rest : trimStart cs with
    | nil => rfl
    | cons c more =>
      have head : isBlank c = false := by
        have := List.head?_dropWhile_not isBlank cs
        rw [show cs.dropWhile isBlank = c :: more from rest] at this
        simpa using this
      rw [blank c (by rw [rest]; exact List.mem_cons_self)] at head
      cases head
  · intro h
    rw [trim, h]
    rfl

end Trellis.Text
