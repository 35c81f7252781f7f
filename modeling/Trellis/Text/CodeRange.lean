/-
# Trellis.Text.CodeRange — sets of characters as ranges of code points

A property of characters is kept as a list of closed ranges in ascending order, and a
`CodeRanges` carries the proof that they are. `covers` stops at the first range that
begins past the code point it looks for; since the ranges ascend, stopping early loses
nothing, and it finds exactly the members of the ranges (`covers_iff`).
-/
namespace Trellis.Text

set_option autoImplicit false

/-- A closed range of code points, its first and its last. -/
abbrev CodeRange := Nat × Nat

namespace CodeRange

/-- Each range begins at `low` or later and after the end of the one before it. -/
def ascendFrom (low : Nat) : List CodeRange → Bool
  | [] => true
  | (first, last) :: rest => low ≤ first && first ≤ last && ascendFrom (last + 1) rest

/-- Looks a code point up in ascending ranges. -/
def search (n : Nat) : List CodeRange → Bool
  | [] => false
  | (first, last) :: rest => if n < first then false else n ≤ last || search n rest

variable {ranges : List CodeRange} {low : Nat}

theorem low_le_of_mem (ascend : ascendFrom low ranges = true) {r : CodeRange}
    (member : r ∈ ranges) : low ≤ r.1 := by
  induction ranges generalizing low with
  | nil => cases member
  | cons s rest ih =>
    simp only [ascendFrom, Bool.and_eq_true, decide_eq_true_eq] at ascend
    obtain ⟨⟨begins, nonempty⟩, later⟩ := ascend
    rcases List.mem_cons.mp member with rfl | member
    · exact begins
    · have := ih later member
      omega

theorem search_iff (ascend : ascendFrom low ranges = true) (n : Nat) :
    search n ranges = true ↔ ∃ r ∈ ranges, r.1 ≤ n ∧ n ≤ r.2 := by
  induction ranges generalizing low with
  | nil => simp [search]
  | cons r rest ih =>
    obtain ⟨first, last⟩ := r
    simp only [ascendFrom, Bool.and_eq_true, decide_eq_true_eq] at ascend
    obtain ⟨⟨_, nonempty⟩, later⟩ := ascend
    rw [search]
    by_cases below : n < first
    · have none_covers : ¬∃ r ∈ (first, last) :: rest, r.1 ≤ n ∧ n ≤ r.2 := by
        rintro ⟨s, member, begins, _⟩
        rcases List.mem_cons.mp member with rfl | member
        · exact absurd below (Nat.not_lt.mpr begins)
        · have := low_le_of_mem later member
          omega
      simp only [below, if_true, none_covers, Bool.false_eq_true]
    · rw [if_neg below, Bool.or_eq_true, decide_eq_true_eq, ih later]
      constructor
      · rintro (ends | ⟨s, member, bounds⟩)
        · exact ⟨_, List.mem_cons_self, Nat.not_lt.mp below, ends⟩
        · exact ⟨s, List.mem_cons_of_mem _ member, bounds⟩
      · rintro ⟨s, member, bounds⟩
        rcases List.mem_cons.mp member with rfl | member
        · exact Or.inl bounds.2
        · exact Or.inr ⟨s, member, bounds⟩

end CodeRange

/-- A set of code points as ranges in order, none of which is empty or meets another. -/
structure CodeRanges where
  ranges : List CodeRange
  ascending : CodeRange.ascendFrom 0 ranges = true := by decide +kernel

namespace CodeRanges

def covers (s : CodeRanges) (n : Nat) : Bool := CodeRange.search n s.ranges

theorem covers_iff (s : CodeRanges) (n : Nat) :
    s.covers n = true ↔ ∃ r ∈ s.ranges, r.1 ≤ n ∧ n ≤ r.2 :=
  CodeRange.search_iff s.ascending n

end CodeRanges

end Trellis.Text
