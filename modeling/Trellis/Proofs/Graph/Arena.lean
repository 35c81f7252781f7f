/-
# Trellis.Proofs.Graph.Arena — an arena as a partial map from slots

What a slot holds and how many slots there are say everything about an arena.
`live` is the reading of all slots in order (`live_eq`), so a change that is
known slot by slot is known for the living elements too, and a sorted list of
candidate slots finds what a scan of the living elements finds
(`filter_filterMap_get?`).
-/
import Trellis.Graph.Arena
import Trellis.Proofs.Ascending

namespace Trellis.Graph.Arena

set_option autoImplicit false

variable {α β : Type}

/-! ## Slot by slot -/

theorem lt_size_of_get? {a : Arena α} {slot : Nat} {x : α} (held : a.get? slot = some x) :
    slot < a.size := by
  by_contra outside
  have vacant : a.cells[slot]? = none := Array.getElem?_eq_none (Nat.le_of_not_lt outside)
  simp [get?, vacant] at held

theorem get?_empty (slot : Nat) : ({} : Arena α).get? slot = none := by
  simp [get?]

theorem size_set (a : Arena α) (slot : Nat) (x : α) : (a.set slot x).size = a.size := by
  simp [size, set]

theorem size_vacate (a : Arena α) (slot : Nat) : (a.vacate slot).size = a.size := by
  simp [size, vacate]

theorem get?_set {a : Arena α} {slot : Nat} (inside : slot < a.size) (x : α) (other : Nat) :
    (a.set slot x).get? other = if other = slot then some x else a.get? other := by
  have inside : slot < a.cells.size := inside
  by_cases same : other = slot
  · subst same
    simp [get?, set, inside]
  · simp [get?, set, same, Ne.symm same]

theorem get?_vacate (a : Arena α) (slot other : Nat) :
    (a.vacate slot).get? other = if other = slot then none else a.get? other := by
  by_cases same : other = slot
  · subst same
    by_cases inside : other < a.cells.size <;> simp [get?, vacate, inside]
  · simp [get?, vacate, same, Ne.symm same]

/-! ## The living elements -/

theorem live_eq (a : Arena α) : a.live = (List.range a.size).filterMap a.get? := by
  have cells : a.cells.toList = (List.range a.size).map fun slot => a.get? slot := by
    apply List.ext_getElem (by simp [size])
    intro slot inside _
    have inside : slot < a.cells.size := by simpa using inside
    simp [get?, inside]
  rw [live, cells, List.filterMap_map]
  rfl

theorem mem_live {a : Arena α} {x : α} : x ∈ a.live ↔ ∃ slot, a.get? slot = some x := by
  rw [live_eq, List.mem_filterMap]
  constructor
  · rintro ⟨slot, -, held⟩
    exact ⟨slot, held⟩
  · rintro ⟨slot, held⟩
    exact ⟨slot, List.mem_range.mpr (lt_size_of_get? held), held⟩

/-- A reading of the living elements, slot by slot. -/
theorem map_live (a : Arena α) (f : α → β) :
    a.live.map f = (List.range a.size).filterMap fun slot => (a.get? slot).map f := by
  rw [live_eq, List.map_filterMap]

/-- Distinct slots hold elements that a key tells apart, so no key comes twice. -/
theorem nodup_map_live {a : Arena α} {key : α → β}
    (apart : ∀ s t x y, a.get? s = some x → a.get? t = some y → key x = key y → s = t) :
    (a.live.map key).Nodup := by
  rw [map_live]
  apply List.nodup_range.filterMap
  intro s t k atS atT
  obtain ⟨x, heldS, rfl⟩ := Option.map_eq_some_iff.mp atS
  obtain ⟨y, heldT, same⟩ := Option.map_eq_some_iff.mp atT
  exact apart s t x y heldS heldT same.symm

/-- Vacating slots keeps the order of what is left: `gone` tells the elements of
the vacated slots from the others. -/
theorem filterMap_vacated {before after : Nat → Option α} {vacated : Nat → Prop}
    [DecidablePred vacated] (slots : ∀ slot, after slot = if vacated slot then none else before slot)
    (gone : α → Bool) (told : ∀ slot x, before slot = some x → (gone x = true ↔ vacated slot))
    (bound : Nat) :
    (List.range bound).filterMap after = ((List.range bound).filterMap before).filter (!gone ·) := by
  rw [List.filter_filterMap]
  apply List.filterMap_congr
  intro slot _
  rw [slots]
  cases held : before slot with
  | none => simp
  | some x =>
      by_cases v : vacated slot
      · simp [Option.filter_some, v, (told slot x held).mpr v]
      · have stays : gone x = false := by
          simpa using (told slot x held).not.mpr v
        simp [Option.filter_some, v, stays]

/-- Reading ascending candidate slots and testing each element finds what a scan
finds, when no element that passes the test is outside the candidates. -/
theorem filter_filterMap_get? (a : Arena α) {slots : List Nat} (ascending : slots.Pairwise (· < ·))
    {test : α → Bool}
    (complete : ∀ slot x, a.get? slot = some x → test x = true → slot ∈ slots) :
    (slots.filterMap a.get?).filter test = a.live.filter test := by
  rw [live_eq, List.filter_filterMap, List.filter_filterMap]
  apply Ascending.filterMap_eq_range ascending
  intro slot x found
  obtain ⟨held, passed⟩ := Option.filter_eq_some_iff.mp found
  exact ⟨complete slot x held passed, lt_size_of_get? held⟩

end Trellis.Graph.Arena
