/-
# Trellis.Proofs.Graph.SlotMap — finding slots by what they hold

Slots hold elements, and elements have keys. A map `Locates` elements when it gives
for each key the slot of the element that has it; postings track elements by a key
that several may share. Both follow when one slot is filled or left vacant.
-/
import Trellis.Proofs.Graph.Postings

namespace Trellis.Graph

set_option autoImplicit false

variable {κ α : Type} [Ord κ] [Std.TransOrd κ] [Std.LawfulEqOrd κ] {key : α → κ}
  {before after : Nat → Option α} {here : Nat} {x : α}

/-! ## Maps -/

/-- A key is mapped to the slot whose element has it, and to nothing if none has it. -/
def Locates (slots : Std.TreeMap κ Nat) (held : Nat → Option α) (key : α → κ) : Prop :=
  ∀ k slot, slots[k]? = some slot ↔ ∃ y, held slot = some y ∧ key y = k

namespace Locates

variable [DecidableEq κ] {slots : Std.TreeMap κ Nat}

theorem insert (locates : Locates slots before key) (vacant : before here = none)
    (fresh : ∀ slot y, before slot = some y → key y ≠ key x)
    (filled : ∀ slot, after slot = if slot = here then some x else before slot) :
    Locates (slots.insert (key x) here) after key := by
  intro k slot
  simp only [filled, Std.TreeMap.getElem?_insert, Std.compare_eq_iff_eq]
  by_cases new : slot = here
  · subst new
    by_cases named : key x = k
    · simp [named]
    · have other : slots[k]? ≠ some slot := by
        intro mapped
        obtain ⟨y, held, -⟩ := (locates k slot).mp mapped
        rw [vacant] at held
        cases held
      simp [named, other]
  · by_cases named : key x = k
    · have absent : ¬∃ y, before slot = some y ∧ key y = k := by
        intro given
        obtain ⟨y, held, same⟩ := given
        exact fresh slot y held (same.trans named.symm)
      simp only [named, if_true, new, if_false, absent, iff_false]
      simpa using Ne.symm new
    · simp only [named, if_false, new, locates k slot]

theorem erase (locates : Locates slots before key) (held : before here = some x)
    (left : ∀ slot, after slot = if slot = here then none else before slot) :
    Locates (slots.erase (key x)) after key := by
  intro k slot
  simp only [left, Std.TreeMap.getElem?_erase, Std.compare_eq_iff_eq]
  by_cases gone : slot = here
  · subst gone
    by_cases named : key x = k
    · simp [named]
    · have other : slots[k]? ≠ some slot := by
        intro mapped
        obtain ⟨y, held', same⟩ := (locates k slot).mp mapped
        obtain rfl : x = y := Option.some.inj (held.symm.trans held')
        exact named same
      simp [named, other]
  · by_cases named : key x = k
    · have absent : ¬∃ y, before slot = some y ∧ key y = k := by
        intro given
        have mapped := (locates k slot).mpr given
        have mapped' := (locates k here).mpr ⟨x, held, named⟩
        exact gone (Option.some.inj (mapped.symm.trans mapped'))
      simp [named, gone, absent]
    · simp only [named, if_false, gone, locates k slot]

end Locates

/-! ## Postings -/

namespace Postings

variable {p : Postings κ}

theorem Tracks.fill (tracks : p.Tracks fun k slot => ∃ y, before slot = some y ∧ key y = k)
    (vacant : before here = none)
    (filled : ∀ slot, after slot = if slot = here then some x else before slot) :
    (p.file (key x) here).Tracks fun k slot => ∃ y, after slot = some y ∧ key y = k := by
  apply (tracks.file (by simp [vacant])).congr
  intro k slot
  rw [filled]
  by_cases new : slot = here
  · simp [new, vacant, eq_comm]
  · simp [new]

theorem Tracks.clear (tracks : p.Tracks fun k slot => ∃ y, before slot = some y ∧ key y = k)
    (held : before here = some x)
    (left : ∀ slot, after slot = if slot = here then none else before slot) :
    (p.withdraw (key x) here).Tracks fun k slot => ∃ y, after slot = some y ∧ key y = k := by
  apply (tracks.withdraw (key x) here).congr
  intro k slot
  rw [left]
  by_cases gone : slot = here
  · simp [gone, held, eq_comm]
  · simp [gone]

end Postings

end Trellis.Graph
