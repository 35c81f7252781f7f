/-
# Trellis.Proofs.Distinct — which elements are dropped

Elements with keys of their own all stay (`distinctBy_eq_self`); of two such lists
put together the first stays whole and the second loses what the first has
(`distinctBy_append`). Keeping one element of each run of equal ones loses none
(`mem_eraseReps`).
-/
import Trellis.Distinct

namespace Trellis

set_option autoImplicit false

variable {α κ : Type} [Ord κ] [Std.TransOrd κ] [Std.LawfulEqOrd κ] {key : α → κ} {xs ys : List α}

theorem contains_insert_of_ne {seen : Std.TreeSet κ} {k l : κ} (other : l ≠ k) :
    (seen.insert k).contains l = seen.contains l := by
  rw [Std.TreeSet.contains_insert]
  have apart : ¬compare k l = .eq := fun same => other (Std.LawfulEqOrd.eq_of_compare same).symm
  simp [apart]

theorem distinctFrom_eq_filter (apart : (xs.map key).Nodup) (seen : Std.TreeSet κ) :
    distinctFrom key seen xs = xs.filter fun x => !seen.contains (key x) := by
  induction xs generalizing seen with
  | nil => rfl
  | cons x xs ih =>
      obtain ⟨new, apart⟩ := List.nodup_cons.mp apart
      rw [distinctFrom]
      split
      · next here => rw [ih apart, List.filter_cons_of_neg (by simp [here])]
      · next absent =>
          have fresh : seen.contains (key x) = false := eq_false_of_ne_true absent
          rw [ih apart, List.filter_cons_of_pos (by rw [fresh]; rfl)]
          refine congrArg (x :: ·) (List.filter_congr fun y later => ?_)
          rw [contains_insert_of_ne fun same => new (List.mem_map.mpr ⟨y, later, same⟩)]

theorem distinctBy_eq_self (apart : (xs.map key).Nodup) : distinctBy key xs = xs := by
  rw [distinctBy, distinctFrom_eq_filter apart]
  exact List.filter_eq_self.mpr fun x _ => by simp

theorem distinctFrom_append [DecidableEq κ] (apart : (xs.map key).Nodup)
    (apart' : (ys.map key).Nodup) (seen : Std.TreeSet κ) :
    distinctFrom key seen (xs ++ ys) = xs.filter (fun x => !seen.contains (key x)) ++
      ys.filter fun y => !seen.contains (key y) && decide (key y ∉ xs.map key) := by
  induction xs generalizing seen with
  | nil =>
      rw [List.nil_append, distinctFrom_eq_filter apart']
      simp
  | cons x xs ih =>
      obtain ⟨new, apart⟩ := List.nodup_cons.mp apart
      rw [List.cons_append, distinctFrom]
      split
      · next here =>
          rw [ih apart, List.filter_cons_of_neg (by simp [here])]
          refine congrArg _ (List.filter_congr fun y _ => ?_)
          -- a key that `x` has is among those that have been seen
          by_cases same : key y = key x
          · simp [same, here]
          · simp [same]
      · next absent =>
          have fresh : seen.contains (key x) = false := eq_false_of_ne_true absent
          have left : xs.filter (fun y => !(seen.insert (key x)).contains (key y)) =
              xs.filter fun y => !seen.contains (key y) := by
            apply List.filter_congr
            intro y later
            rw [contains_insert_of_ne fun same => new (List.mem_map.mpr ⟨y, later, same⟩)]
          rw [ih apart, List.filter_cons_of_pos (by rw [fresh]; rfl), List.cons_append, left]
          refine congrArg (fun rest => x :: (_ ++ rest)) (List.filter_congr fun y _ => ?_)
          by_cases same : key y = key x
          · simp [same]
          · simp [same, contains_insert_of_ne same]

theorem distinctBy_append [DecidableEq κ] (apart : (xs.map key).Nodup)
    (apart' : (ys.map key).Nodup) :
    distinctBy key (xs ++ ys) = xs ++ ys.filter fun y => key y ∉ xs.map key := by
  rw [distinctBy, distinctFrom_append apart apart']
  simp

/-! ## Runs of equal elements -/

section Runs

variable [BEq α] [LawfulBEq α]

/-- The loop keeps what it has gathered, its element and every element that comes. -/
theorem mem_eraseReps_loop {x : α} (y : α) (gathered : List α) :
    x ∈ List.eraseRepsBy.loop (· == ·) y xs gathered ↔ x ∈ gathered ∨ x = y ∨ x ∈ xs := by
  induction xs generalizing y gathered with
  | nil => simp [List.eraseRepsBy.loop, or_comm]
  | cons z zs ih =>
      rw [List.eraseRepsBy.loop]
      split
      · next same =>
          obtain rfl := eq_of_beq same
          rw [ih, List.mem_cons, or_self_left]
      · rw [ih, List.mem_cons, List.mem_cons, or_assoc, or_left_comm]

@[simp]
theorem mem_eraseReps {x : α} : x ∈ xs.eraseReps ↔ x ∈ xs := by
  cases xs with
  | nil => rfl
  | cons y ys =>
      rw [List.eraseReps, List.eraseRepsBy, mem_eraseReps_loop, List.mem_cons]
      exact or_iff_right List.not_mem_nil

/-- Elements that are all different all come after what has been gathered. -/
theorem eraseReps_loop_of_nodup {y : α} (apart : (y :: xs).Nodup) (gathered : List α) :
    List.eraseRepsBy.loop (· == ·) y xs gathered = gathered.reverse ++ y :: xs := by
  induction xs generalizing y gathered with
  | nil => simp [List.eraseRepsBy.loop]
  | cons z zs ih =>
      obtain ⟨new, apart⟩ := List.nodup_cons.mp apart
      have differs : (y == z) = false := by
        rw [beq_eq_false_iff_ne]
        rintro rfl
        exact new List.mem_cons_self
      rw [List.eraseRepsBy.loop, differs]
      simp only [ih apart, List.reverse_cons, List.append_assoc, List.singleton_append]

/-- Elements that are all different stay as they are. -/
theorem eraseReps_eq_self (apart : xs.Nodup) : xs.eraseReps = xs := by
  cases xs with
  | nil => rfl
  | cons x xs => exact eraseReps_loop_of_nodup apart []

end Runs

end Trellis
