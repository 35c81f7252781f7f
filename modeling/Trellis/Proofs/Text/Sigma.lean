/-
# Trellis.Proofs.Text.Sigma — lower case of a text and of its parts

A capital sigma is the only character whose lower case depends on what stands around it.
So a part of a text has its own lower case within that of the whole, but for its sigmas: the
lower case of a text between others is told by whether a word is under way before it and
whether one goes on after it (`lowerFrom_append`).

Most sigmas are settled by the characters within the part: a character with a case after
it makes a sigma a small one, one without a case before it does so too, and a case before it
and none after it make it a final one, whatever there is farther out. A part in which all
are settled is steady: it has the same lower case in all surroundings (`isSteadyFrom_iff`).
Of the others, a letter in front or behind changes the lower case, and one that is changed
in this way is nowhere in the text (`eq_of_occurs`). So the steady texts are just those whose
lower case is found wherever they themselves are (`isSteady_iff_occurs`).
-/
import Mathlib.Data.List.Forall2
import Trellis.Proofs.Text.Lowercase

namespace Trellis.Text

set_option autoImplicit false

variable {cs xs ys : List Char}

/-! ## What is around a character -/

/-- Whether the first character that is not case-ignorable has a case; nothing if there is
none. -/
def firstCase (cs : List Char) : Option Bool := (cs.dropWhile isCaseIgnorable).head?.map isCased

theorem resumesWord_eq (cs : List Char) : resumesWord cs = (firstCase cs).getD false := by
  rw [resumesWord, firstCase]
  cases (cs.dropWhile isCaseIgnorable).head? <;> rfl

theorem firstCase_append (xs ys : List Char) :
    firstCase (xs ++ ys) = (firstCase xs).or (firstCase ys) := by
  rw [firstCase, firstCase, List.dropWhile_append]
  cases xs.dropWhile isCaseIgnorable <;> rfl

/-- Whether a word is under way after a text, if one was or was not before it. -/
def inWordAfter (inWord : Bool) (cs : List Char) : Bool :=
  cs.foldl (fun inWord c => if isCaseIgnorable c then inWord else isCased c) inWord

/-- The two forms of a small sigma. -/
def smallSigma (final : Bool) : Char := if final then '\u03C2' else '\u03C3'

theorem smallSigma_inj {final final' : Bool} : smallSigma final = smallSigma final' ↔ final = final' := by
  revert final final'
  decide

/-- Lower case of a text between others: a word is or is not under way before it, and does or
does not go on after it. -/
def lowerBetween (inWord resumes : Bool) : List Char → List Char
  | [] => []
  | c :: cs =>
    (if c = '\u03A3' then [smallSigma (inWord && !(firstCase cs).getD resumes)] else lowerChar c)
      ++ lowerBetween (if isCaseIgnorable c then inWord else isCased c) resumes cs

/-- **Lower case of a text in two parts.** -/
theorem lowerFrom_append (inWord : Bool) (xs ys : List Char) :
    lowerFrom inWord (xs ++ ys) =
      lowerBetween inWord (resumesWord ys) xs ++ lowerFrom (inWordAfter inWord xs) ys := by
  induction xs generalizing inWord with
  | nil => rfl
  | cons c cs ih =>
      have resumes : resumesWord (cs ++ ys) = (firstCase cs).getD (resumesWord ys) := by
        rw [resumesWord_eq, firstCase_append, resumesWord_eq]
        cases firstCase cs <;> rfl
      rw [List.cons_append, lowerFrom, ih, resumes, lowerBetween, List.append_assoc]
      rfl

theorem lower_eq (cs : List Char) : lower cs = lowerBetween false false cs := by
  have whole := lowerFrom_append false cs []
  rwa [List.append_nil, lowerFrom, List.append_nil] at whole

theorem lower_append_append (xs cs ys : List Char) :
    lower (xs ++ cs ++ ys) = lowerBetween false (resumesWord (cs ++ ys)) xs ++
      lowerBetween (inWordAfter false xs) (resumesWord ys) cs ++
      lowerFrom (inWordAfter (inWordAfter false xs) cs) ys := by
  rw [lower, List.append_assoc, lowerFrom_append, lowerFrom_append, List.append_assoc]

/-! ## Steady texts -/

/-- The nearest cases before and after a sigma, as far as they are known, tell its form. -/
def settles : Option Bool → Option Bool → Bool
  | some false, _ | _, some true | some true, some false => true
  | _, _ => false

theorem settles_iff (before after : Option Bool) : settles before after = true ↔
    ∀ inWord resumes, (before.getD inWord && !after.getD resumes) =
      (before.getD false && !after.getD false) := by
  rcases before with _ | _ | _ <;> rcases after with _ | _ | _ <;> decide

/-- Every capital sigma is settled; `before` is the nearest case before the text. -/
def isSteadyFrom (before : Option Bool) : List Char → Bool
  | [] => true
  | c :: cs =>
    (c ≠ '\u03A3' || settles before (firstCase cs))
      && isSteadyFrom (if isCaseIgnorable c then before else some (isCased c)) cs

/-- A text that has one lower case in all surroundings. -/
def isSteady (cs : List Char) : Bool := isSteadyFrom none cs

theorem isSteadyFrom_of_notMem {before : Option Bool} (noSigma : '\u03A3' ∉ cs) :
    isSteadyFrom before cs = true := by
  induction cs generalizing before with
  | nil => rfl
  | cons c cs ih =>
      rw [List.mem_cons, not_or] at noSigma
      rw [isSteadyFrom, ih noSigma.2, Bool.and_true, Bool.or_eq_true, decide_eq_true_eq]
      exact .inl (Ne.symm noSigma.1)

/-- Characters that are alike but for the form of a small sigma. -/
inductive SigmaAlike : Char → Char → Prop
  | refl (c : Char) : SigmaAlike c c
  | sigma (final final' : Bool) : SigmaAlike (smallSigma final) (smallSigma final')

/-- **Surroundings change the forms of sigmas only.** -/
theorem sigmaAlike_lowerBetween (cs : List Char) (inWord resumes inWord' resumes' : Bool) :
    List.Forall₂ SigmaAlike (lowerBetween inWord resumes cs) (lowerBetween inWord' resumes' cs) := by
  induction cs generalizing inWord inWord' with
  | nil => exact .nil
  | cons c cs ih =>
      simp only [lowerBetween]
      refine List.rel_append ?_ (ih _ _)
      split
      · exact .cons (.sigma _ _) .nil
      · exact List.forall₂_same.mpr fun d _ => .refl d

/-- **The steady texts have one lower case in all surroundings**, and no others do. -/
theorem isSteadyFrom_iff {before : Option Bool} : isSteadyFrom before cs = true ↔
    ∀ inWord resumes, lowerBetween (before.getD inWord) resumes cs =
      lowerBetween (before.getD false) false cs := by
  induction cs generalizing before with
  | nil => simp [isSteadyFrom, lowerBetween]
  | cons c cs ih =>
      have next (inWord : Bool) : (if isCaseIgnorable c then before.getD inWord else isCased c) =
          (if isCaseIgnorable c then before else some (isCased c)).getD inWord := by
        split <;> rfl
      simp only [isSteadyFrom, lowerBetween, next, Bool.and_eq_true, Bool.or_eq_true,
        decide_eq_true_eq, ih, settles_iff]
      by_cases sigma : c = '\u03A3'
      · simp only [sigma, ne_eq, not_true_eq_false, false_or, if_true, List.cons_append,
          List.nil_append, List.cons.injEq, smallSigma_inj, forall_and]
      · simp only [sigma, ne_eq, not_false_eq_true, true_or, true_and, if_false,
          List.append_cancel_left_eq]

theorem isSteady_iff : isSteady cs = true ↔
    ∀ inWord resumes, lowerBetween inWord resumes cs = lower cs := by
  rw [isSteady, isSteadyFrom_iff, lower_eq]
  rfl

/-! ## Where a text is found in lower case -/

/-- A text at the front of another that is like it but for a letter before it is that other:
both have this letter throughout. -/
theorem eq_of_prefix_cons {a : Char} (alike : List.Forall₂ (fun c d => c = a → d = a) xs ys)
    (front : xs <+: a :: ys) : xs = ys := by
  induction alike with
  | nil => rfl
  | @cons x y xs ys same _ ih =>
      obtain ⟨rfl, later⟩ := List.cons_prefix_cons.mp front
      obtain rfl := same rfl
      rw [ih later]

/-- A text that is found in another that is like it but for the forms of sigmas, with a letter
on either side, is that other. -/
theorem eq_of_occurs {a : Char} (other : ∀ final, a ≠ smallSigma final)
    (alike : List.Forall₂ SigmaAlike xs ys) (inside : xs <:+: a :: (ys ++ [a])) : xs = ys := by
  have letter : List.Forall₂ (fun c d => c = a → d = a) xs ys := by
    refine alike.imp fun c d alike same => ?_
    cases alike with
    | refl => exact same
    | sigma final => exact absurd same.symm (other final)
  obtain ⟨before, after, whole⟩ := inside
  have long : before.length + after.length = 2 := by
    have total := congrArg List.length whole
    simp only [List.length_append, List.length_cons, List.length_nil, alike.length_eq] at total
    omega
  rcases Nat.lt_trichotomy before.length 1 with none_ | one | two
  · -- the letter behind is not reached
    obtain rfl := List.eq_nil_of_length_eq_zero (Nat.lt_one_iff.mp none_)
    have front : xs <+: (a :: ys) ++ [a] := ⟨after, whole⟩
    exact eq_of_prefix_cons letter
      (List.prefix_of_prefix_length_le front (List.prefix_append _ _) (by simp [alike.length_eq]))
  · obtain ⟨b, rfl⟩ := List.length_eq_one_iff.mp one
    simp only [List.cons_append, List.nil_append, List.cons.injEq] at whole
    exact (List.append_inj whole.2 alike.length_eq).1
  · -- the same from the other end
    obtain rfl := List.eq_nil_of_length_eq_zero (show after.length = 0 by omega)
    have back : xs.reverse <+: (a :: ys.reverse) ++ [a] := by
      refine ⟨before.reverse, ?_⟩
      rw [← List.reverse_append, ← List.append_nil (before ++ xs), whole]
      simp
    refine List.reverse_injective (eq_of_prefix_cons (List.forall₂_reverse_iff.mpr letter) ?_)
    exact List.prefix_of_prefix_length_le back (List.prefix_append _ _) (by simp [alike.length_eq])

/-- A letter, or nothing. -/
def letterIf (present : Bool) : List Char := if present then ['a'] else []

/-- A letter before or after a text puts it within a word. -/
theorem lower_letterIf (inWord resumes : Bool) (cs : List Char) :
    lower (letterIf inWord ++ cs ++ letterIf resumes) =
      letterIf inWord ++ lowerBetween inWord resumes cs ++ letterIf resumes := by
  have under : inWordAfter false (letterIf inWord) = inWord := by cases inWord <;> decide +kernel
  have goesOn : resumesWord (letterIf resumes) = resumes := by cases resumes <;> decide +kernel
  have before (next : Bool) : lowerBetween false next (letterIf inWord) = letterIf inWord := by
    cases inWord <;> cases next <;> decide +kernel
  have after (last : Bool) : lowerFrom last (letterIf resumes) = letterIf resumes := by
    cases resumes <;> cases last <;> decide +kernel
  rw [lower_append_append, before, under, goesOn, after]

/-- **The texts whose lower case is found in that of every text that has them** are the steady
ones. -/
theorem isSteady_iff_occurs : isSteady cs = true ↔
    ∀ text, cs <:+: text → lower cs <:+: lower text := by
  rw [isSteady_iff]
  constructor
  · rintro steady text ⟨before, after, rfl⟩
    rw [lower_append_append, steady]
    exact ⟨_, _, rfl⟩
  · intro found inWord resumes
    have inside := found _ ⟨letterIf inWord, letterIf resumes, rfl⟩
    rw [lower_letterIf, lower_eq] at inside
    have within : letterIf inWord ++ lowerBetween inWord resumes cs ++ letterIf resumes <:+:
        'a' :: (lowerBetween inWord resumes cs ++ ['a']) := by
      refine ⟨letterIf !inWord, letterIf !resumes, ?_⟩
      cases inWord <;> cases resumes <;> simp [letterIf]
    rw [lower_eq]
    exact (eq_of_occurs (by decide) (sigmaAlike_lowerBetween cs _ _ _ _) (inside.trans within)).symm

end Trellis.Text
