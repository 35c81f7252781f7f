/-
# Trellis.Graph.Arena — elements by slot, in order of insertion

An arena grows by one slot for each element and never gives a slot away again:
an element that goes leaves its slot vacant. So a slot keeps its meaning, and
the elements that live are listed in the order in which they came.
-/
namespace Trellis.Graph

set_option autoImplicit false

structure Arena (α : Type) where
  cells : Array (Option α) := #[]

namespace Arena

variable {α : Type}

/-- The number of slots, vacant ones included; the slot of the next element. -/
def size (a : Arena α) : Nat := a.cells.size

def get? (a : Arena α) (slot : Nat) : Option α := a.cells[slot]?.join

def push (a : Arena α) (x : α) : Arena α := ⟨a.cells.push (some x)⟩

/-- Puts another element into a slot. -/
def set (a : Arena α) (slot : Nat) (x : α) : Arena α := ⟨a.cells.setIfInBounds slot (some x)⟩

/-- Leaves a slot vacant. -/
def vacate (a : Arena α) (slot : Nat) : Arena α := ⟨a.cells.setIfInBounds slot none⟩

/-- The living elements in order of insertion. -/
def live (a : Arena α) : List α := a.cells.toList.filterMap id

theorem live_push (a : Arena α) (x : α) : (a.push x).live = a.live ++ [x] := by
  simp [live, push]

theorem get?_push (a : Arena α) (x : α) (slot : Nat) :
    (a.push x).get? slot = if slot = a.size then some x else a.get? slot := by
  by_cases new : slot = a.cells.size <;> simp [get?, push, size, Array.getElem?_push, new]

theorem size_push (a : Arena α) (x : α) : (a.push x).size = a.size + 1 := by
  simp [size, push]

end Arena

end Trellis.Graph
