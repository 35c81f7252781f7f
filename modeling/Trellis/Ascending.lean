/-
# Trellis.Ascending — lists in strictly ascending order

Type tags and arena slots are kept as lists in ascending order without
repetitions. `insert` puts one element in its place, or nowhere when it is
there already; `ofList` sorts a list so. `mem_ofList` says that nothing is lost
or added.
-/
namespace Trellis.Ascending

set_option autoImplicit false

variable {α : Type} [LT α] [DecidableLT α] [DecidableEq α]

/-- Puts an element in its place among ascending ones, unless it is there. -/
def insert (x : α) : List α → List α
  | [] => [x]
  | y :: ys =>
    if x = y then y :: ys
    else if x < y then x :: y :: ys
    else y :: insert x ys

/-- The elements of a list in ascending order, each once. -/
def ofList (xs : List α) : List α := xs.foldl (fun sorted x => insert x sorted) []

theorem mem_insert (x z : α) (ys : List α) : z ∈ insert x ys ↔ z = x ∨ z ∈ ys := by
  induction ys with
  | nil => simp [insert]
  | cons y ys ih =>
    rw [insert]
    split
    · next same => simp [same]
    · split
      · simp
      · simp [ih, or_left_comm]

theorem mem_ofList (z : α) (xs : List α) : z ∈ ofList xs ↔ z ∈ xs := by
  suffices h : ∀ sorted : List α,
      z ∈ xs.foldl (fun sorted x => insert x sorted) sorted ↔ z ∈ xs ∨ z ∈ sorted by
    simpa [ofList] using h []
  induction xs with
  | nil => simp
  | cons x xs ih =>
    intro sorted
    rw [List.foldl_cons, ih, mem_insert, List.mem_cons]
    exact or_left_comm.trans or_assoc.symm

end Trellis.Ascending
