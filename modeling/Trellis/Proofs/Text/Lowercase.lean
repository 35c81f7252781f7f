/-
# Trellis.Proofs.Text.Lowercase — what lower-case text is made of

A low character is its own lower case. Every character of a lower-case text is
low (`isLow_of_mem_lower`), because the images in the table are letters of no run;
so lower case taken twice is lower case taken once (`lower_lower`). The table is
looked through run by run, once for all (`lowerRuns_clear`).
-/
import Trellis.Text.Blank
import Trellis.Text.Lowercase

namespace Trellis.Text

set_option autoImplicit false

/-! ## Letters and images of a run -/

namespace LowerRun

/-- A code point is a letter of the run. -/
def Has (r : LowerRun) (n : Nat) : Prop :=
  r.first ≤ n ∧ n ≤ r.last ∧ (n - r.first) % r.step = 0

def imageOf (r : LowerRun) (n : Nat) : Nat := r.image + (n - r.first)

def lastImage (r : LowerRun) : Nat := r.image + (r.last - r.first)

theorem imageOf_bounds {r : LowerRun} {n : Nat} (letter : r.Has n) :
    r.image ≤ r.imageOf n ∧ r.imageOf n ≤ r.lastImage := by
  obtain ⟨begins, ends, -⟩ := letter
  simp only [imageOf, lastImage]
  omega

/-- No image of the run is a letter of the other, which begins no later than the last
image: the other ends before them, or images and letters take turns. -/
def clears (r s : LowerRun) : Bool :=
  Nat.blt s.last r.image
    || ((r.step = 2 || r.first = r.last) && s.step = 2 && (r.image + s.first) % 2 = 1)

/-- The images are letters of none of the runs, as far as a search for one looks. -/
def clearsAll (r : LowerRun) : List LowerRun → Bool
  | [] => true
  | s :: rest => Nat.blt r.lastImage s.first || (r.clears s && r.clearsAll rest)

theorem not_has_of_clears {r s : LowerRun} (clear : r.clears s = true) {n : Nat}
    (letter : r.Has n) : ¬s.Has (r.imageOf n) := by
  rintro ⟨begins, ends, steps⟩
  obtain ⟨low, high⟩ := imageOf_bounds letter
  simp only [clears, Bool.or_eq_true, Bool.and_eq_true, decide_eq_true_eq, Nat.blt_eq] at clear
  rcases clear with above | ⟨⟨even, two⟩, odd⟩
  · omega
  · obtain ⟨begins', ends', steps'⟩ := letter
    rw [two] at steps
    have together : (n - r.first) % 2 = 0 := by
      rcases even with two' | single
      · rw [two'] at steps'
        exact steps'
      · omega
    simp only [imageOf] at *
    omega

/-- Looking an image up gives the image back. -/
theorem lowerImage_imageOf {r : LowerRun} {runs : List LowerRun} (clear : r.clearsAll runs = true)
    {n : Nat} (letter : r.Has n) : lowerImage runs (r.imageOf n) = r.imageOf n := by
  obtain ⟨low, high⟩ := imageOf_bounds letter
  induction runs with
  | nil => rfl
  | cons s rest ih =>
      rw [clearsAll, Bool.or_eq_true, Bool.and_eq_true, Nat.blt_eq] at clear
      rw [lowerImage]
      split
      · rfl
      · next begins =>
          have later : r.clears s = true ∧ r.clearsAll rest = true :=
            clear.resolve_left fun past => begins (by omega)
          split
          · next ends =>
              split
              · next steps =>
                  exact absurd ⟨Nat.not_lt.mp begins, ends, steps⟩ (not_has_of_clears later.1 letter)
              · rfl
          · exact ih later.2

/-- The images of the run are in none of the ranges. -/
def avoids (r : LowerRun) (ranges : List CodeRange) : Bool :=
  ranges.all fun range => r.lastImage < range.1 || range.2 < r.image

theorem outside_of_avoids {r : LowerRun} {ranges : List CodeRange} (clear : r.avoids ranges = true)
    {n : Nat} (image : r.image ≤ n ∧ n ≤ r.lastImage) :
    ∀ range ∈ ranges, ¬(range.1 ≤ n ∧ n ≤ range.2) := by
  rintro range member ⟨begins, ends⟩
  have apart := List.all_eq_true.mp clear range member
  rw [Bool.or_eq_true, decide_eq_true_eq, decide_eq_true_eq] at apart
  omega

end LowerRun

/-! ## The table -/

theorem lowerImage_cases (runs : List LowerRun) (n : Nat) :
    lowerImage runs n = n ∨ ∃ r ∈ runs, r.Has n ∧ lowerImage runs n = r.imageOf n := by
  induction runs with
  | nil => exact Or.inl rfl
  | cons r rest ih =>
      rw [lowerImage]
      split
      · exact Or.inl rfl
      · next begins =>
          split
          · next ends =>
              split
              · next steps =>
                  exact Or.inr ⟨r, List.mem_cons_self, ⟨Nat.not_lt.mp begins, ends, steps⟩, rfl⟩
              · exact Or.inl rfl
          · rcases ih with same | ⟨s, member, letter, image⟩
            · exact Or.inl same
            · exact Or.inr ⟨s, List.mem_cons_of_mem _ member, letter, image⟩

/-- What no image is: the two characters that are treated apart, and the surrogates. -/
def exceptionRanges : List CodeRange := [(0x0130, 0x0130), (0x03A3, 0x03A3), (0xD800, 0xDFFF)]

/-- **No image in the table is a letter of it**, nor an exception, nor past the last
character. -/
theorem lowerRuns_clear :
    (lowerRuns.all fun r =>
      r.clearsAll lowerRuns && r.avoids exceptionRanges && r.lastImage < 0x110000) = true := by
  decide +kernel

theorem clear_of_mem {r : LowerRun} (member : r ∈ lowerRuns) :
    r.clearsAll lowerRuns = true ∧ r.avoids exceptionRanges = true ∧ r.lastImage < 0x110000 := by
  have clear := List.all_eq_true.mp lowerRuns_clear r member
  rw [Bool.and_eq_true, Bool.and_eq_true, decide_eq_true_eq] at clear
  exact ⟨clear.1.1, clear.1.2, clear.2⟩

theorem toNat_ofNat {n : Nat} (surrogate : ¬(0xD800 ≤ n ∧ n ≤ 0xDFFF)) (last : n < 0x110000) :
    (Char.ofNat n).toNat = n := by
  have valid : n.isValidChar := by
    simp only [Nat.isValidChar]
    omega
  rw [Char.ofNat, dif_pos valid]
  rfl

/-! ## Low characters -/

/-- A character is its own lower case, wherever it stands. -/
def IsLow (c : Char) : Prop := c ≠ '\u03A3' ∧ lowerChar c = [c]

theorem isLow_of_lowerImage {c : Char} (fixed : lowerImage lowerRuns c.toNat = c.toNat)
    (dotted : c ≠ '\u0130') (sigma : c ≠ '\u03A3') : IsLow c := by
  refine ⟨sigma, ?_⟩
  rw [lowerChar, if_neg dotted, fixed, Char.ofNat_toNat]

theorem mem_lowerChar_cases {c d : Char} (here : d ∈ lowerChar c) :
    (d = 'i' ∨ d = '\u0307') ∨ (d = c ∧ c ≠ '\u0130' ∧ lowerImage lowerRuns c.toNat = c.toNat) ∨
      ∃ r ∈ lowerRuns, r.Has c.toNat ∧ d.toNat = r.imageOf c.toNat := by
  unfold lowerChar at here
  split at here
  · simpa using Or.inl here
  · next dotted =>
      rw [List.mem_singleton] at here
      rcases lowerImage_cases lowerRuns c.toNat with same | ⟨r, member, letter, image⟩
      · rw [same, Char.ofNat_toNat] at here
        exact Or.inr (Or.inl ⟨here, dotted, same⟩)
      · obtain ⟨-, avoided, last⟩ := clear_of_mem member
        have bounds := LowerRun.imageOf_bounds letter
        have surrogate := LowerRun.outside_of_avoids avoided bounds (0xD800, 0xDFFF) (by decide)
        refine Or.inr (Or.inr ⟨r, member, letter, ?_⟩)
        rw [here, image, toNat_ofNat surrogate (by omega)]

theorem isLow_of_mem_lowerChar {c d : Char} (sigma : c ≠ '\u03A3') (here : d ∈ lowerChar c) :
    IsLow d := by
  rcases mem_lowerChar_cases here with (rfl | rfl) | ⟨rfl, dotted, fixed⟩ | ⟨r, member, letter, image⟩
  · exact ⟨by decide, by decide +kernel⟩
  · exact ⟨by decide, by decide +kernel⟩
  · exact isLow_of_lowerImage fixed dotted sigma
  · have outside := LowerRun.outside_of_avoids (clear_of_mem member).2.1
      (LowerRun.imageOf_bounds letter)
    refine isLow_of_lowerImage ?_ ?_ ?_
    · rw [image, LowerRun.lowerImage_imageOf (clear_of_mem member).1 letter]
    · rintro rfl
      exact outside (0x0130, 0x0130) (by decide) (by rw [← image]; decide)
    · rintro rfl
      exact outside (0x03A3, 0x03A3) (by decide) (by rw [← image]; decide)

/-! ## Lower-case text -/

/-- A character gives at least one character of its own, and then the text goes on. -/
theorem exists_lowerFrom_cons (inWord : Bool) (c : Char) (cs : List Char) :
    ∃ images inWord', lowerFrom inWord (c :: cs) = images ++ lowerFrom inWord' cs ∧ images ≠ [] ∧
      ∀ d ∈ images, (d = '\u03C2' ∨ d = '\u03C3') ∨ c ≠ '\u03A3' ∧ d ∈ lowerChar c := by
  refine ⟨_, _, rfl, ?_, fun d here => ?_⟩
  · split
    · simp
    · unfold lowerChar
      split <;> simp
  · split at here
    · rw [List.mem_singleton] at here
      rw [here]
      left
      split
      · exact .inl rfl
      · exact .inr rfl
    · next other => exact .inr ⟨other, here⟩

/-- What holds of every image of a text's characters holds of its lower case. -/
theorem forall_mem_lower {good : Char → Prop} (finalSigma : good '\u03C2') (sigma : good '\u03C3')
    {cs : List Char} (images : ∀ c ∈ cs, c ≠ '\u03A3' → ∀ d ∈ lowerChar c, good d) :
    ∀ d ∈ lower cs, good d := by
  suffices h : ∀ inWord, ∀ d ∈ lowerFrom inWord cs, good d from h false
  induction cs with
  | nil =>
      intro inWord d here
      cases here
  | cons c cs ih =>
      intro inWord d here
      obtain ⟨own, inWord', whole, -, ofC⟩ := exists_lowerFrom_cons inWord c cs
      rw [whole, List.mem_append] at here
      rcases here with here | later
      · rcases ofC d here with (rfl | rfl) | ⟨other, image⟩
        · exact finalSigma
        · exact sigma
        · exact images c List.mem_cons_self other d image
      · exact ih (fun c' member => images c' (List.mem_cons_of_mem _ member)) _ d later

/-- **Every character of a lower-case text is low.** -/
theorem isLow_of_mem_lower {cs : List Char} {d : Char} (here : d ∈ lower cs) : IsLow d := by
  have finalSigma : IsLow '\u03C2' := ⟨by decide, by decide +kernel⟩
  have sigma : IsLow '\u03C3' := ⟨by decide, by decide +kernel⟩
  exact forall_mem_lower finalSigma sigma (fun c _ other d => isLow_of_mem_lowerChar other) d here

/-- A low character stays where it is. -/
theorem mem_lower_of_isLow {c : Char} (low : IsLow c) {cs : List Char} (here : c ∈ cs) :
    c ∈ lower cs := by
  suffices h : ∀ inWord, c ∈ lowerFrom inWord cs from h false
  induction cs with
  | nil => cases here
  | cons first rest ih =>
      intro inWord
      rw [lowerFrom, List.mem_append]
      rcases List.mem_cons.mp here with rfl | later
      · rw [if_neg low.1, low.2]
        exact .inl List.mem_cons_self
      · exact .inr (ih later _)

theorem lower_eq_self {cs : List Char} (low : ∀ c ∈ cs, IsLow c) : lower cs = cs := by
  suffices h : ∀ inWord, lowerFrom inWord cs = cs from h false
  induction cs with
  | nil => exact fun inWord => rfl
  | cons c cs ih =>
      intro inWord
      obtain ⟨other, fixed⟩ := low c List.mem_cons_self
      rw [lowerFrom, if_neg other, fixed, ih fun c' member => low c' (List.mem_cons_of_mem _ member)]
      rfl

/-- **Lower case of lower case is itself.** -/
theorem lower_lower (cs : List Char) : lower (lower cs) = lower cs :=
  lower_eq_self fun _ here => isLow_of_mem_lower here

theorem lower_eq_nil_iff (cs : List Char) : lower cs = [] ↔ cs = [] := by
  cases cs with
  | nil => simp [lower, lowerFrom]
  | cons c cs =>
      obtain ⟨images, inWord, whole, some_, -⟩ := exists_lowerFrom_cons false c cs
      simp [lower, whole, some_]

end Trellis.Text
