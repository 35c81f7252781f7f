/-
# Trellis.Proofs.Text.Blank — what trimming and cutting into words leave

A text is its trimmed form with white space on both sides (`trim_eq_iff`). A text is
spaced words when each word is solid and white space stands between any two of them and
may stand at both ends; it is so in one way only, and `words` finds it (`words_eq_iff`).
-/
import Mathlib.Data.List.TakeWhile
import Trellis.Text.Blank

namespace Trellis.Text

set_option autoImplicit false

variable {text gap rest core word : List Char} {ws : List (List Char)}

@[simp]
theorem allBlank_append (left right : List Char) :
    allBlank (left ++ right) = (allBlank left && allBlank right) := List.all_append

theorem allBlank_iff : allBlank text = true ↔ ∀ c ∈ text, isBlank c = true := List.all_eq_true

theorem not_mem_of_allBlank {c : Char} (blank : allBlank gap = true)
    (solid : isBlank c = false) : c ∉ gap := by
  intro here
  rw [allBlank_iff.mp blank c here] at solid
  cases solid

/-! ## Trimming -/

/-- Neither the first character nor the last is white space. -/
def isTrimmed (cs : List Char) : Bool :=
  cs.head?.all (!isBlank ·) && cs.getLast?.all (!isBlank ·)

theorem isTrimmed_iff : isTrimmed text = true ↔
    (∀ c ∈ text.head?, isBlank c = false) ∧ ∀ c ∈ text.getLast?, isBlank c = false := by
  simp [isTrimmed, Option.all_eq_true]

/-- White space goes from the front of a text up to a character that is none. -/
theorem trimStart_append (blank : allBlank gap = true)
    (solid : ∀ c ∈ rest.head?, isBlank c = false) : trimStart (gap ++ rest) = rest := by
  rw [trimStart, List.dropWhile_append_of_pos (allBlank_iff.mp blank)]
  cases rest with
  | nil => rfl
  | cons c cs => rw [List.dropWhile_cons_of_neg (by simp [solid c rfl])]

theorem trimEnd_append (blank : allBlank gap = true)
    (solid : ∀ c ∈ rest.getLast?, isBlank c = false) : trimEnd (rest ++ gap) = rest := by
  have reversed : trimStart (gap.reverse ++ rest.reverse) = rest.reverse := by
    apply trimStart_append
    · simpa [allBlank] using blank
    · simpa using solid
  rw [trimEnd, List.reverse_append, ← trimStart, reversed, List.reverse_reverse]

/-- What is left of a text when white space goes from its front. -/
theorem exists_trimStart (text : List Char) :
    ∃ gap, allBlank gap = true ∧ text = gap ++ trimStart text ∧
      ∀ c ∈ (trimStart text).head?, isBlank c = false := by
  refine ⟨text.takeWhile isBlank, ?_, List.takeWhile_append_dropWhile.symm, fun c first => ?_⟩
  · exact allBlank_iff.mpr fun c => List.mem_takeWhile_imp
  · have stopped := List.head?_dropWhile_not isBlank text
    rw [← trimStart, first] at stopped
    simpa using stopped

theorem exists_trimEnd (text : List Char) :
    ∃ gap, allBlank gap = true ∧ text = trimEnd text ++ gap ∧
      ∀ c ∈ (trimEnd text).getLast?, isBlank c = false := by
  obtain ⟨gap, blank, whole, solid⟩ := exists_trimStart text.reverse
  refine ⟨gap.reverse, by simpa [allBlank] using blank, ?_,
    by simpa [trimEnd, trimStart] using solid⟩
  rw [trimEnd, ← trimStart, ← List.reverse_append, ← whole, List.reverse_reverse]

/-- **A text is its trimmed form between white space.** -/
theorem trim_eq_iff : trim text = core ↔
    isTrimmed core = true ∧ ∃ before after,
      allBlank before = true ∧ allBlank after = true ∧ text = before ++ core ++ after := by
  constructor
  · rintro rfl
    obtain ⟨before, blank, whole, solid⟩ := exists_trimStart text
    obtain ⟨after, blank', whole', solid'⟩ := exists_trimEnd (trimStart text)
    refine ⟨isTrimmed_iff.mpr ⟨fun c first => ?_, solid'⟩, before, after, blank, blank', ?_⟩
    · -- it begins as the text does that is trimmed at its end
      apply solid
      rw [whole', List.head?_append, ← trim, first]
      rfl
    · rw [List.append_assoc, trim, ← whole', ← whole]
  · rintro ⟨trimmed, before, after, blank, blank', rfl⟩
    obtain ⟨first, last⟩ := isTrimmed_iff.mp trimmed
    cases core with
    | nil => exact (trim_eq_nil_iff _).mpr (by simp [blank, blank'])
    | cons c cs =>
        rw [trim, List.append_assoc, trimStart_append blank (by simpa using first),
          trimEnd_append blank' last]

theorem isTrimmed_trim (text : List Char) : isTrimmed (trim text) = true :=
  (trim_eq_iff.mp rfl).1

theorem trim_of_isTrimmed (trimmed : isTrimmed text = true) : trim text = text :=
  trim_eq_iff.mpr ⟨trimmed, [], [], rfl, rfl, by simp⟩

/-- Trimming keeps whatever is not white space. -/
theorem mem_trim_iff {c : Char} (solid : isBlank c = false) : c ∈ trim text ↔ c ∈ text := by
  obtain ⟨-, before, after, blank, blank', whole⟩ := trim_eq_iff.mp (rfl : trim text = trim text)
  have outside := not_mem_of_allBlank blank solid
  have outside' := not_mem_of_allBlank blank' solid
  have parts : c ∈ text ↔ c ∈ before ++ trim text ++ after := by rw [← whole]
  simp [parts, outside, outside']

/-- A trimmed text does not end in white space. -/
theorem eq_nil_of_isTrimmed_append (trimmed : isTrimmed (text ++ gap) = true)
    (blank : allBlank gap = true) : gap = [] := by
  rcases List.eq_nil_or_concat gap with none_ | ⟨init, c, rfl⟩
  · exact none_
  · have solid := (isTrimmed_iff.mp trimmed).2 c (by simp)
    have last := allBlank_iff.mp blank c (by simp)
    rw [last] at solid
    cases solid

/-- A trimmed text does not begin with white space. -/
theorem eq_nil_of_isTrimmed_append_left (trimmed : isTrimmed (gap ++ rest) = true)
    (blank : allBlank gap = true) : gap = [] := by
  cases gap with
  | nil => rfl
  | cons c cs =>
      have solid := (isTrimmed_iff.mp trimmed).1 c rfl
      rw [allBlank_iff.mp blank c List.mem_cons_self] at solid
      cases solid

/-- The front of a trimmed text has white space at its end only. -/
theorem trim_front_eq_iff (trimmed : isTrimmed (text ++ rest) = true) : trim text = core ↔
    isTrimmed core = true ∧ ∃ gap, allBlank gap = true ∧ text = core ++ gap := by
  constructor
  · intro isCore
    obtain ⟨trimmedCore, before, after, blank, blank', rfl⟩ := trim_eq_iff.mp isCore
    have front : isTrimmed (before ++ (core ++ after ++ rest)) = true := by simpa using trimmed
    obtain rfl := eq_nil_of_isTrimmed_append_left front blank
    exact ⟨trimmedCore, after, blank', rfl⟩
  · rintro ⟨trimmedCore, gap, blank, rfl⟩
    exact trim_eq_iff.mpr ⟨trimmedCore, [], gap, rfl, blank, rfl⟩

/-- The back of a trimmed text has white space at its front only. -/
theorem trim_back_eq_iff (trimmed : isTrimmed (rest ++ text) = true) : trim text = core ↔
    isTrimmed core = true ∧ ∃ gap, allBlank gap = true ∧ text = gap ++ core := by
  constructor
  · intro isCore
    obtain ⟨trimmedCore, before, after, blank, blank', rfl⟩ := trim_eq_iff.mp isCore
    have back : isTrimmed ((rest ++ before ++ core) ++ after) = true := by simpa using trimmed
    obtain rfl := eq_nil_of_isTrimmed_append back blank'
    exact ⟨trimmedCore, before, blank, by simp⟩
  · rintro ⟨trimmedCore, gap, blank, rfl⟩
    exact trim_eq_iff.mpr ⟨trimmedCore, gap, [], blank, rfl, by simp⟩

/-- Trimmed texts at both ends make a trimmed text. -/
theorem isTrimmed_append {front back : List Char} (trimmed : isTrimmed front = true)
    (middle : List Char) (trimmed' : isTrimmed back = true) (some_ : front ≠ [])
    (some' : back ≠ []) : isTrimmed (front ++ middle ++ back) = true := by
  rw [isTrimmed_iff] at *
  have first : (front ++ middle ++ back).head? = front.head? := by
    rw [List.append_assoc, List.head?_append, List.head?_eq_some_head some_, Option.some_or]
  have last : (front ++ middle ++ back).getLast? = back.getLast? := by
    rw [List.getLast?_append, List.getLast?_eq_some_getLast some', Option.some_or]
  rw [first, last]
  exact ⟨trimmed.1, trimmed'.2⟩

/-- What stands between two characters that are not white space is trimmed with them. -/
theorem isTrimmed_between {first last : Char} (solid : isBlank first = false)
    (solid' : isBlank last = false) (text : List Char) :
    isTrimmed (first :: (text ++ [last])) = true := by
  rw [isTrimmed_iff, ← List.cons_append, List.getLast?_concat]
  exact ⟨by simpa using solid, by simpa using solid'⟩

/-- A trimmed text stays trimmed when it is cut before a character that is not white space. -/
theorem isTrimmed_of_append {front : List Char} {c : Char}
    (trimmed : isTrimmed (front ++ c :: rest) = true) (visible : isBlank c = false) :
    isTrimmed (c :: rest) = true := by
  rw [isTrimmed_iff] at trimmed ⊢
  refine ⟨by simpa using visible, fun d last => trimmed.2 d ?_⟩
  rw [List.getLast?_append, last]
  rfl

/-! ## Words -/

/-- Solid words with white space between any two of them, and maybe at both ends. -/
inductive Spaced : List Char → List (List Char) → Prop
  | done {gap : List Char} : allBlank gap = true → Spaced gap []
  | word {gap word rest : List Char} {ws : List (List Char)} :
      allBlank gap = true → word ≠ [] → (∀ c ∈ word, isBlank c = false) →
      (∀ c ∈ rest.head?, isBlank c = true) → Spaced rest ws →
      Spaced (gap ++ word ++ rest) (word :: ws)

theorem words_append (blank : allBlank gap = true) : words (gap ++ rest) = words rest := by
  induction gap with
  | nil => rfl
  | cons c cs ih =>
      have ⟨here, later⟩ : isBlank c = true ∧ allBlank cs = true := by
        simpa [allBlank] using blank
      rw [List.cons_append, words, List.splitOnP_cons_eq_if_modifyHead, if_pos here,
        List.filter_cons_of_neg (by simp), ← words, ih later]

theorem words_of_spaced (spaced : Spaced text ws) : words text = ws := by
  induction spaced with
  | @done gap blank => rw [← List.append_nil gap, words_append blank]; rfl
  | @word gap word rest ws blank some_ solid stops _ ih =>
      rw [List.append_assoc, words_append blank, ← ih]
      cases rest with
      | nil => simp [words, List.splitOnP_eq_singleton solid, some_]
      | cons sep rest =>
          have stop : isBlank sep = true := stops sep rfl
          rw [words, List.splitOnP_append_cons_of_forall_mem solid sep stop,
            List.filter_cons_of_pos (by simpa using some_), ← words]
          have blankSep : allBlank [sep] = true := by simp [allBlank, stop]
          exact congrArg _ (words_append blankSep).symm

theorem exists_spaced (text : List Char) : ∃ ws, Spaced text ws := by
  induction text with
  | nil => exact ⟨[], .done rfl⟩
  | cons c cs ih =>
      obtain ⟨ws, spaced⟩ := ih
      cases here : isBlank c with
      | true =>
          cases spaced with
          | done blank => exact ⟨[], .done (by simpa [allBlank, here] using blank)⟩
          | @word gap word rest ws blank some_ solid stops later =>
              have blank' : allBlank (c :: gap) = true := by simpa [allBlank, here] using blank
              exact ⟨word :: ws, .word blank' some_ solid stops later⟩
      | false =>
          -- the word grows by a letter if it starts here, else a new one starts
          have single : ∀ d ∈ [c], isBlank d = false := by simpa using here
          have start {word rest : List Char} {ws : List (List Char)} (some_ : word ≠ [])
              (solid : ∀ d ∈ word, isBlank d = false) (stops : ∀ d ∈ rest.head?, isBlank d = true)
              (later : Spaced rest ws) : Spaced (word ++ rest) (word :: ws) :=
            @Spaced.word [] _ _ _ rfl some_ solid stops later
          cases spaced with
          | @done gap blank =>
              refine ⟨[[c]], start (by simp) single ?_ (.done blank)⟩
              exact fun d first => allBlank_iff.mp blank d (List.mem_of_mem_head? first)
          | @word gap word rest ws blank some_ solid stops later =>
              cases gap with
              | nil =>
                  have solid' : ∀ d ∈ c :: word, isBlank d = false :=
                    List.forall_mem_cons.mpr ⟨here, solid⟩
                  exact ⟨(c :: word) :: ws, start (by simp) solid' stops later⟩
              | cons d gap =>
                  refine ⟨[c] :: word :: ws,
                    start (by simp) single ?_ (.word blank some_ solid stops later)⟩
                  rintro _ ⟨⟩
                  exact allBlank_iff.mp blank d List.mem_cons_self

/-- **A text is spaced words in one way only, which is how it is cut.** -/
theorem words_eq_iff : words text = ws ↔ Spaced text ws := by
  constructor
  · rintro rfl
    obtain ⟨ws, spaced⟩ := exists_spaced text
    rwa [words_of_spaced spaced]
  · exact words_of_spaced

/-- Every character of spaced words is white space or in a word. -/
theorem Spaced.mem (spaced : Spaced text ws) {c : Char} (here : c ∈ text) :
    isBlank c = true ∨ ∃ word ∈ ws, c ∈ word := by
  induction spaced with
  | done blank => exact .inl (allBlank_iff.mp blank c here)
  | @word gap word rest ws blank _ _ _ _ ih =>
      rcases List.mem_append.mp here with front | later
      · rcases List.mem_append.mp front with inGap | inWord
        · exact .inl (allBlank_iff.mp blank c inGap)
        · exact .inr ⟨word, List.mem_cons_self, inWord⟩
      · rcases ih later with isGap | ⟨word', member, inWord⟩
        · exact .inl isGap
        · exact .inr ⟨word', List.mem_cons_of_mem _ member, inWord⟩

end Trellis.Text
