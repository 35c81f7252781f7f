/-
# Trellis.Proofs.Text.LetterCase — texts that differ in the case of ASCII letters

`Char.toLower` takes the 26 ASCII capitals to small letters and keeps every other character
(`toLower_cases`), and to whatever the readers ask of a character a capital and its small
letter are alike. In particular they have the same lower case, and around a sigma of another
script they are letters alike, so the lower case of a whole text does not tell them apart
either (`lower_map_toLower`).

Two texts have the same letters when they are equal in ASCII lower case (`SameLetters`). If
one of them is put together of parts, so is the other, part by part, and what is no letter
stands in both; so the two are trimmed alike and cut into words alike (`SameLetters.spaced`).
-/
import Mathlib.Data.List.Forall2
import Trellis.Proofs.Text.Blank
import Trellis.Text.Alphanumeric
import Trellis.Text.Lowercase

namespace Trellis.Text

set_option autoImplicit false

/-! ## One character -/

theorem toNat_toLower (c : Char) :
    c.toLower.toNat = if 65 ≤ c.toNat ∧ c.toNat ≤ 90 then c.toNat + 32 else c.toNat := by
  split
  · next upper =>
      have lowered : c.toLower.val = c.val + 32 := congrArg Char.val (dif_pos upper)
      have small : c.toNat + 32 < 2 ^ 32 := by omega
      change c.toLower.val.toNat = c.val.toNat + 32
      rw [lowered, UInt32.toNat_add]
      exact Nat.mod_eq_of_lt small
  · next other => exact congrArg Char.toNat (dif_neg other)

theorem toLower_eq_iff {c low high : Char} (letter : 65 ≤ high.toNat ∧ high.toNat ≤ 90)
    (case : low.toNat = high.toNat + 32) : c.toLower = low ↔ c = low ∨ c = high := by
  simp only [← Char.toNat_inj, toNat_toLower]
  split <;> omega

theorem toLower_toLower (c : Char) : c.toLower.toLower = c.toLower := by
  rw [← Char.toNat_inj, toNat_toLower, if_neg]
  rw [toNat_toLower]
  split <;> omega

/-- The capital letters of ASCII. -/
def capitals : List Char := (List.range 26).map fun n => Char.ofNat (65 + n)

/-- A character is kept, or it is one of the capitals. -/
theorem toLower_cases (c : Char) : c.toLower = c ∨ c ∈ capitals := by
  by_cases upper : 65 ≤ c.toNat ∧ c.toNat ≤ 90
  · refine .inr (List.mem_map.mpr ⟨c.toNat - 65, List.mem_range.mpr (by omega), ?_⟩)
    rw [Nat.add_sub_cancel' upper.1, Char.ofNat_toNat]
  · left
    rw [← Char.toNat_inj, toNat_toLower, if_neg upper]

/-- What does not tell the capitals from their small letters tells no character from its
ASCII lower case. -/
theorem blind_of_capitals {α : Type} [DecidableEq α] {f : Char → α}
    (alike : (capitals.all fun c => f c.toLower == f c) = true) (c : Char) : f c.toLower = f c :=
  (toLower_cases c).elim (congrArg f) fun capital => beq_iff_eq.mp (List.all_eq_true.mp alike c capital)

theorem isBlank_toLower (c : Char) : isBlank c.toLower = isBlank c :=
  blind_of_capitals (by decide +kernel) c

theorem isAlphanumeric_toLower (c : Char) : isAlphanumeric c.toLower = isAlphanumeric c :=
  blind_of_capitals (by decide +kernel) c

theorem isCased_toLower (c : Char) : isCased c.toLower = isCased c :=
  blind_of_capitals (by decide +kernel) c

theorem isCaseIgnorable_toLower (c : Char) : isCaseIgnorable c.toLower = isCaseIgnorable c :=
  blind_of_capitals (by decide +kernel) c

theorem lowerChar_toLower (c : Char) : lowerChar c.toLower = lowerChar c :=
  blind_of_capitals (by decide +kernel) c

/-- A character that is no letter of ASCII is the ASCII lower case of itself alone. -/
theorem eq_of_toLower_eq {c d : Char} (other : c.isAlpha = false) (same : d.toLower = c.toLower) :
    d = c := by
  obtain ⟨noCapital, noSmall⟩ := Bool.or_eq_false_iff.mp other
  have outside : ¬(65 ≤ c.toNat ∧ c.toNat ≤ 90) := of_decide_eq_false noCapital
  have outside' : ¬(97 ≤ c.toNat ∧ c.toNat ≤ 122) := by
    rintro ⟨above, below⟩
    have small : c.isLower = true :=
      Bool.and_eq_true_iff.mpr ⟨decide_eq_true above, decide_eq_true below⟩
    rw [noSmall] at small
    cases small
  rw [← Char.toNat_inj, toNat_toLower, toNat_toLower c, if_neg outside] at same
  rw [← Char.toNat_inj]
  split at same <;> omega

theorem toLower_eq_self_iff_of_other {c d : Char} (other : c.isAlpha = false) :
    d.toLower = c ↔ d = c := by
  have kept : c.toLower = c := eq_of_toLower_eq other (toLower_toLower c)
  constructor
  · exact fun same => eq_of_toLower_eq other (same.trans kept.symm)
  · rintro rfl
    exact kept

/-! ## Lower case in every script -/

theorem resumesWord_map_toLower (cs : List Char) :
    resumesWord (cs.map Char.toLower) = resumesWord cs := by
  have ignorable : isCaseIgnorable ∘ Char.toLower = isCaseIgnorable := funext isCaseIgnorable_toLower
  rw [resumesWord, resumesWord, List.dropWhile_map, ignorable, List.head?_map, Option.any_map]
  simp only [isCased_toLower]

theorem lowerFrom_map_toLower (inWord : Bool) (cs : List Char) :
    lowerFrom inWord (cs.map Char.toLower) = lowerFrom inWord cs := by
  induction cs generalizing inWord with
  | nil => rfl
  | cons c cs ih =>
      have sigma : c.toLower = '\u03A3' ↔ c = '\u03A3' := toLower_eq_self_iff_of_other (by decide)
      rw [List.map_cons, lowerFrom, lowerFrom, ih, resumesWord_map_toLower, lowerChar_toLower,
        isCaseIgnorable_toLower, isCased_toLower]
      simp only [sigma]

/-- **Lower case does not see the case of ASCII letters**, be they next to a sigma or not. -/
theorem lower_map_toLower (cs : List Char) : lower (cs.map Char.toLower) = lower cs :=
  lowerFrom_map_toLower false cs

theorem allBlank_map_toLower (cs : List Char) : allBlank (cs.map Char.toLower) = allBlank cs := by
  rw [allBlank, allBlank, List.all_map]
  exact congrArg (List.all cs) (funext isBlank_toLower)

theorem trim_map_toLower (cs : List Char) :
    trim (cs.map Char.toLower) = (trim cs).map Char.toLower := by
  have blank : isBlank ∘ Char.toLower = isBlank := funext isBlank_toLower
  simp only [trim, trimStart, trimEnd, List.dropWhile_map, ← List.map_reverse, blank]

/-! ## Texts with the same letters -/

/-- Equal in ASCII lower case. -/
def SameLetters (xs ys : List Char) : Prop := xs.map Char.toLower = ys.map Char.toLower

instance (xs ys : List Char) : Decidable (SameLetters xs ys) :=
  inferInstanceAs (Decidable (xs.map Char.toLower = ys.map Char.toLower))

theorem toList_toLower (s : String) : s.toLower.toList = s.toList.map Char.toLower :=
  String.toList_map

theorem sameLetters_iff {p q : String} :
    SameLetters p.toList q.toList ↔ p.toLower = q.toLower := by
  rw [← String.toList_inj, toList_toLower, toList_toLower, SameLetters]

namespace SameLetters

variable {xs ys zs : List Char} {c : Char}

theorem symm (same : SameLetters xs ys) : SameLetters ys xs := Eq.symm same

/-- What ASCII lower case does not change is the same of both. -/
theorem congr {α : Type} {f : List Char → α} (blind : ∀ cs, f (cs.map Char.toLower) = f cs)
    (same : SameLetters xs ys) : f xs = f ys := by
  rw [← blind xs, same, blind]

theorem lower_eq (same : SameLetters xs ys) : lower xs = lower ys := same.congr lower_map_toLower

theorem allBlank_eq (same : SameLetters xs ys) : allBlank xs = allBlank ys :=
  same.congr allBlank_map_toLower

theorem trim (same : SameLetters xs ys) : SameLetters (trim xs) (Text.trim ys) := by
  rw [SameLetters, ← trim_map_toLower, same, trim_map_toLower]

theorem eq_nil (same : SameLetters [] ys) : ys = [] := List.map_eq_nil_iff.mp (Eq.symm same)

theorem eq_nil_iff (same : SameLetters xs ys) : xs = [] ↔ ys = [] := by
  constructor
  · rintro rfl
    exact same.eq_nil
  · rintro rfl
    exact same.symm.eq_nil

theorem exists_of_cons (same : SameLetters (c :: xs) zs) :
    ∃ d ys, zs = d :: ys ∧ d.toLower = c.toLower ∧ SameLetters xs ys := by
  obtain ⟨d, ys, whole, first, rest⟩ := List.map_eq_cons_iff.mp (Eq.symm same)
  exact ⟨d, ys, whole, first, rest.symm⟩

theorem exists_of_append (same : SameLetters (xs ++ ys) zs) :
    ∃ xs' ys', zs = xs' ++ ys' ∧ SameLetters xs xs' ∧ SameLetters ys ys' := by
  rw [SameLetters, List.map_append] at same
  obtain ⟨xs', ys', whole, front, back⟩ := List.map_eq_append_iff.mp same.symm
  exact ⟨xs', ys', whole, front.symm, back.symm⟩

/-- A character that is no letter stands at the same place in both. -/
theorem exists_of_mark (mark : c.isAlpha = false) (same : SameLetters (c :: xs) zs) :
    ∃ ys, zs = c :: ys ∧ SameLetters xs ys := by
  obtain ⟨d, ys, rfl, first, rest⟩ := same.exists_of_cons
  exact ⟨ys, by rw [eq_of_toLower_eq mark first], rest⟩

theorem eq_of_marks (marks : xs.any Char.isAlpha = false) (same : SameLetters xs ys) : ys = xs := by
  induction xs generalizing ys with
  | nil => exact same.eq_nil
  | cons c xs ih =>
      obtain ⟨mark, later⟩ := Bool.or_eq_false_iff.mp marks
      obtain ⟨ys, rfl, rest⟩ := same.exists_of_mark mark
      rw [ih later rest]

theorem forall_mem {good : Char → Prop} (blind : ∀ c, good c.toLower ↔ good c)
    (same : SameLetters xs ys) (all : ∀ c ∈ xs, good c) : ∀ c ∈ ys, good c := by
  intro d here
  have lowered : d.toLower ∈ xs.map Char.toLower := same ▸ List.mem_map_of_mem here
  obtain ⟨c, member, image⟩ := List.mem_map.mp lowered
  rw [← blind, ← image, blind]
  exact all c member

theorem not_mem_of_mark (mark : c.isAlpha = false) (same : SameLetters xs ys) (absent : c ∉ xs) :
    c ∉ ys := by
  intro here
  have differ : ∀ d ∈ xs, d ≠ c := fun d member equal => absent (equal ▸ member)
  refine same.forall_mem (fun d => ?_) differ c here rfl
  rw [ne_eq, ne_eq, toLower_eq_self_iff_of_other mark]

/-- **Texts with the same letters are cut into words alike.** -/
theorem spaced {ws : List (List Char)} (same : SameLetters xs ys) (cut : Spaced xs ws) :
    ∃ ws', Spaced ys ws' ∧ List.Forall₂ SameLetters ws ws' := by
  have solidAlike (c : Char) : isBlank c.toLower = false ↔ isBlank c = false := by
    rw [isBlank_toLower]
  induction cut generalizing ys with
  | done blank => exact ⟨[], .done (same.allBlank_eq ▸ blank), .nil⟩
  | word blank some_ solid stops _ ih =>
      obtain ⟨front, rest, rfl, sameFront, sameRest⟩ := same.exists_of_append
      obtain ⟨gap, word, rfl, sameGap, sameWord⟩ := sameFront.exists_of_append
      obtain ⟨ws', cut', alike⟩ := ih sameRest
      refine ⟨word :: ws', .word (sameGap.allBlank_eq ▸ blank) (sameWord.eq_nil_iff.not.mp some_)
        (sameWord.forall_mem solidAlike solid) ?_ cut', .cons sameWord alike⟩
      intro d first
      obtain ⟨rest', rfl⟩ := List.head?_eq_some_iff.mp first
      obtain ⟨c, _, rfl, image, -⟩ := sameRest.symm.exists_of_cons
      rw [← isBlank_toLower, ← image, isBlank_toLower]
      exact stops c rfl

end SameLetters

end Trellis.Text
