/-
# Trellis.Proofs.Ascending — an ascending list is determined by its members

`ofList` gives a strictly ascending list (`pairwise_ofList`), and two strictly
ascending lists with the same members are one list (`eq_of_mem_iff`). So
sorting an ascending list changes nothing (`ofList_eq_self`), and a sorted list
of slots reads an arena as a scan over all slots does, as long as it has every
slot at which the scan finds something (`filterMap_eq_range`).
-/
import Trellis.Ascending
import Mathlib.Data.List.Nodup
import Mathlib.Data.List.Perm.Lattice

namespace Trellis.Ascending

set_option autoImplicit false
set_option linter.unusedSectionVars false

section Order

variable {α : Type} [LT α] [DecidableLT α] [DecidableEq α]
  [Std.Asymm (α := α) (· < ·)] [Std.Trichotomous (α := α) (· < ·)]
  [Trans (α := α) (· < ·) (· < ·) (· < ·)]

theorem nodup_of_pairwise {xs : List α} (ascending : xs.Pairwise (· < ·)) : xs.Nodup := by
  apply ascending.imp
  rintro x _ less rfl
  exact Std.Asymm.asymm x x less less

/-- An ascending list is determined by its members. -/
theorem eq_of_mem_iff {xs ys : List α} (left : xs.Pairwise (· < ·)) (right : ys.Pairwise (· < ·))
    (same : ∀ x, x ∈ xs ↔ x ∈ ys) : xs = ys := by
  have perm : xs.Perm ys :=
    (List.perm_ext_iff_of_nodup (nodup_of_pairwise left) (nodup_of_pairwise right)).mpr same
  exact perm.eq_of_pairwise (fun _ _ _ _ less more => absurd more (Std.Asymm.asymm _ _ less))
    left right

theorem pairwise_insert {x : α} {ys : List α} (ascending : ys.Pairwise (· < ·)) :
    (insert x ys).Pairwise (· < ·) := by
  induction ys with
  | nil => simp [insert]
  | cons y ys ih =>
      obtain ⟨first, rest⟩ := List.pairwise_cons.mp ascending
      rw [insert]
      split
      · exact ascending
      · next different =>
          split
          · next less =>
              refine List.pairwise_cons.mpr ⟨fun z member => ?_, ascending⟩
              rcases List.mem_cons.mp member with rfl | member
              · exact less
              · exact Trans.trans less (first z member)
          · next notLess =>
              refine List.pairwise_cons.mpr ⟨fun z member => ?_, ih rest⟩
              rcases (mem_insert x z ys).mp member with rfl | member
              · -- neither equal to `y` nor below it
                by_contra notMore
                exact different (Std.Trichotomous.trichotomous _ _ notLess notMore)
              · exact first z member

theorem pairwise_ofList (xs : List α) : (ofList xs).Pairwise (· < ·) := by
  suffices h : ∀ sorted : List α, sorted.Pairwise (· < ·) →
      (xs.foldl (fun sorted x => insert x sorted) sorted).Pairwise (· < ·) from
    h [] List.Pairwise.nil
  induction xs with
  | nil => exact fun _ ascending => ascending
  | cons x xs ih => exact fun _ ascending => ih _ (pairwise_insert ascending)

theorem nodup_ofList (xs : List α) : (ofList xs).Nodup := nodup_of_pairwise (pairwise_ofList xs)

/-- Sorting finds an ascending list as it should be. -/
theorem ofList_eq_self {xs : List α} (ascending : xs.Pairwise (· < ·)) : ofList xs = xs :=
  eq_of_mem_iff (pairwise_ofList xs) ascending fun x => mem_ofList x xs

end Order

/-- A reading that finds something only at listed slots below a bound is the same
over the list, when that is ascending, and over all slots below the bound. -/
theorem filterMap_eq_range {β : Type} {slots : List Nat} (ascending : slots.Pairwise (· < ·))
    {bound : Nat} {read : Nat → Option β}
    (complete : ∀ slot x, read slot = some x → slot ∈ slots ∧ slot < bound) :
    slots.filterMap read = (List.range bound).filterMap read := by
  have narrow : ∀ list : List Nat,
      list.filterMap read = (list.filter fun slot => (read slot).isSome).filterMap read := by
    intro list
    rw [List.filterMap_filter]
    apply List.filterMap_congr
    intro slot _
    cases read slot <;> rfl
  rw [narrow slots, narrow (List.range bound)]
  congr 1
  apply eq_of_mem_iff (ascending.filter _) (List.pairwise_lt_range.filter _)
  intro slot
  simp only [List.mem_filter, List.mem_range, Option.isSome_iff_exists]
  constructor
  · rintro ⟨-, x, found⟩
    exact ⟨(complete slot x found).2, x, found⟩
  · rintro ⟨-, x, found⟩
    exact ⟨(complete slot x found).1, x, found⟩

end Trellis.Ascending
