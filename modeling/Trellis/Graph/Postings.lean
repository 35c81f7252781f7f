/-
# Trellis.Graph.Postings — the slots filed under a key

Postings answer which slots are filed under a key. A slot can be filed under
several keys and is withdrawn from each by name; a key under which nothing is
left is forgotten. `collect` reads several keys at once and gives each slot
once, in ascending order.
-/
import Std.Data.TreeMap
import Trellis.Ascending

namespace Trellis.Graph

set_option autoImplicit false

structure Postings (κ : Type) [Ord κ] where
  lists : Std.TreeMap κ (List Nat) := ∅

namespace Postings

variable {κ : Type} [Ord κ]

/-- The slots under a key, the latest first. -/
def slots (p : Postings κ) (key : κ) : List Nat := p.lists.getD key []

def file (p : Postings κ) (key : κ) (slot : Nat) : Postings κ :=
  ⟨p.lists.alter key fun slots? => some (slot :: slots?.getD [])⟩

def withdraw (p : Postings κ) (key : κ) (slot : Nat) : Postings κ :=
  ⟨p.lists.alter key fun slots? => (slots?.map (·.filter (· ≠ slot))).filter (· ≠ [])⟩

def fileAll (p : Postings κ) (keys : List κ) (slot : Nat) : Postings κ :=
  keys.foldl (fun p key => p.file key slot) p

def withdrawAll (p : Postings κ) (keys : List κ) (slot : Nat) : Postings κ :=
  keys.foldl (fun p key => p.withdraw key slot) p

/-- The slots under any of the keys, each once, in ascending order. -/
def collect (p : Postings κ) (keys : List κ) : List Nat := Ascending.ofList (keys.flatMap p.slots)

def keyCount (p : Postings κ) : Nat := p.lists.size

/-- How often slots are filed, over all keys. -/
def entryCount (p : Postings κ) : Nat :=
  p.lists.foldl (fun count _ slots => count + slots.length) 0

variable [Std.TransOrd κ]

theorem slots_file (p : Postings κ) (key other : κ) (slot : Nat) :
    (p.file key slot).slots other =
      if compare key other = .eq then slot :: p.slots key else p.slots other := by
  simp only [slots, file, Std.TreeMap.getD_eq_getD_getElem?, Std.TreeMap.getElem?_alter]
  split <;> simp

theorem slots_withdraw (p : Postings κ) (key other : κ) (slot : Nat) :
    (p.withdraw key slot).slots other =
      if compare key other = .eq then (p.slots key).filter (· ≠ slot) else p.slots other := by
  simp only [slots, withdraw, Std.TreeMap.getD_eq_getD_getElem?, Std.TreeMap.getElem?_alter]
  split
  · cases p.lists[key]? with
    | none => rfl
    | some slots =>
      rw [Option.map_some, Option.filter_some, Option.getD_some]
      split
      · rfl
      · next left =>
        have empty : slots.filter (· ≠ slot) = [] := by simpa using left
        rw [empty]
        rfl
  · rfl

end Postings

end Trellis.Graph
