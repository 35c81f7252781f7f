/-
# Trellis.Proofs.Except — when a reading that may fail succeeds

A composed reading gives a result exactly when its parts do.
-/
import Mathlib.Data.List.Forall2

namespace Trellis

set_option autoImplicit false

variable {ε α β : Type}

theorem bind_eq_ok_iff {x : Except ε α} {f : α → Except ε β} {b : β} :
    (x >>= f) = .ok b ↔ ∃ a, x = .ok a ∧ f a = .ok b := by
  cases x with
  | error cause =>
      constructor
      · rintro ⟨⟩
      · rintro ⟨a, ⟨⟩, -⟩
  | ok a =>
      constructor
      · exact fun done => ⟨a, rfl, done⟩
      · rintro ⟨a, ⟨⟩, done⟩
        exact done

theorem map_eq_ok_iff {x : Except ε α} {f : α → β} {b : β} :
    f <$> x = .ok b ↔ ∃ a, x = .ok a ∧ f a = b := by
  cases x with
  | error cause =>
      constructor
      · rintro ⟨⟩
      · rintro ⟨a, ⟨⟩, -⟩
  | ok a =>
      constructor
      · exact fun done => ⟨a, rfl, Except.ok.inj done⟩
      · rintro ⟨a, ⟨⟩, rfl⟩
        rfl

theorem exists_error {x : Except ε α} (fails : ¬∃ a, x = .ok a) : ∃ cause, x = .error cause := by
  cases x with
  | error cause => exact ⟨cause, rfl⟩
  | ok a => exact absurd ⟨a, rfl⟩ fails

/-- One check after another passes when both do. -/
theorem checks_eq_ok_iff {first rest : Except ε Unit} :
    (do first; rest) = .ok () ↔ first = .ok () ∧ rest = .ok () := by
  rw [bind_eq_ok_iff]
  constructor
  · rintro ⟨⟨⟩, passed, passed'⟩
    exact ⟨passed, passed'⟩
  · rintro ⟨passed, passed'⟩
    exact ⟨(), passed, passed'⟩

/-- A list is read when its elements are, one by one. -/
theorem mapM_eq_ok_iff {f : α → Except ε β} {xs : List α} {ys : List β} :
    xs.mapM f = .ok ys ↔ List.Forall₂ (fun x y => f x = .ok y) xs ys := by
  induction xs generalizing ys with
  | nil =>
      rw [List.mapM_nil, List.forall₂_nil_left_iff]
      exact ⟨fun done => (Except.ok.inj done).symm, fun none_ => congrArg _ none_.symm⟩
  | cons x xs ih =>
      rw [List.mapM_cons, bind_eq_ok_iff, List.forall₂_cons_left_iff]
      constructor
      · rintro ⟨y, read, readRest⟩
        obtain ⟨rest, readRest, done⟩ := bind_eq_ok_iff.mp readRest
        exact ⟨y, rest, read, ih.mp readRest, (Except.ok.inj done).symm⟩
      · rintro ⟨y, rest, read, readRest, rfl⟩
        exact ⟨y, read, bind_eq_ok_iff.mpr ⟨rest, ih.mpr readRest, rfl⟩⟩

/-- A list that cannot be read fails at its first element that cannot. -/
theorem exists_of_mapM_error {f : α → Except ε β} {xs : List α} {cause : ε}
    (failed : xs.mapM f = .error cause) :
    ∃ before x after, xs = before ++ x :: after ∧ (∀ y ∈ before, ∃ z, f y = .ok z) ∧
      f x = .error cause := by
  induction xs with
  | nil => cases failed
  | cons x xs ih =>
      rw [List.mapM_cons] at failed
      cases first : f x with
      | error fault =>
          rw [first] at failed
          obtain rfl := Except.error.inj failed
          exact ⟨[], x, xs, rfl, by simp, first⟩
      | ok y =>
          cases rest : xs.mapM f with
          | ok ys =>
              rw [first, rest] at failed
              cases failed
          | error fault =>
              rw [first, rest] at failed
              obtain rfl := Except.error.inj failed
              obtain ⟨before, x', after, rfl, passed, rejected⟩ := ih rest
              exact ⟨x :: before, x', after, rfl,
                List.forall_mem_cons.mpr ⟨⟨y, first⟩, passed⟩, rejected⟩

theorem exists_of_mem_forall₂ {R : α → β → Prop} {xs : List α} {ys : List β}
    (pairs : List.Forall₂ R xs ys) {x : α} (here : x ∈ xs) : ∃ y ∈ ys, R x y := by
  induction pairs with
  | nil => cases here
  | @cons x' y xs ys related _ ih =>
      rcases List.mem_cons.mp here with rfl | later
      · exact ⟨y, List.mem_cons_self, related⟩
      · obtain ⟨y', member, related'⟩ := ih later
        exact ⟨y', List.mem_cons_of_mem _ member, related'⟩

/-- Every result of reading a list is that of some element. -/
theorem exists_of_mem_mapM {f : α → Except ε β} {xs : List α} {ys : List β}
    (read : xs.mapM f = .ok ys) {y : β} (here : y ∈ ys) : ∃ x ∈ xs, f x = .ok y :=
  exists_of_mem_forall₂ (mapM_eq_ok_iff.mp read).flip here

end Trellis
