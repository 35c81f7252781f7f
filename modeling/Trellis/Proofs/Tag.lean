/-
# Trellis.Proofs.Tag — tags as readers of patterns give them, and canonical spellings

A plain character may stand in a stored tag. The characters of a tag in a pattern
are plain, and lower case keeps them so (`isPlain_of_mem_lower`). A clean tag is
made of plain low characters: it may be stored, and normalizing a list of clean
tags changes nothing but their order (`normalize_eq_self`).

Of any text, the canonical spelling is canonical again (`canonical_canonical`): lower
case neither brings in white space nor takes it away, and so leaves a trimmed text
trimmed. It is as blank as the text, and has the marks of edge ids that the text has.
-/
import Trellis.Pattern.Node
import Trellis.Proofs.Ascending
import Trellis.Proofs.Except
import Trellis.Proofs.Text.Blank
import Trellis.Proofs.Text.Sigma

namespace Trellis

set_option autoImplicit false

open Text

namespace Tag

/-! ## Plain characters -/

/-- A character that a stored tag may hold. -/
def isPlain (c : Char) : Bool := c ≠ '>' && c ≠ ',' && !isBlank c

theorem isStorable_iff {tag : String} :
    isStorable tag = true ↔ tag ≠ "" ∧ ∀ c ∈ tag.toList, isPlain c = true := by
  simp [isStorable, isPlain]

theorem solid_of_isPlain {c : Char} (plain : isPlain c = true) : isBlank c = false := by
  simp only [isPlain, Bool.and_eq_true, Bool.not_eq_true'] at plain
  exact plain.2

theorem solid_of_isStorable {tag : String} (storable : isStorable tag = true) :
    ∀ c ∈ tag.toList, isBlank c = false :=
  fun c here => solid_of_isPlain ((isStorable_iff.mp storable).2 c here)

/-- The code points of the characters that are not plain. -/
def markRanges : List CodeRange := (0x2C, 0x2C) :: (0x3E, 0x3E) :: blankRanges.ranges

theorem isPlain_iff {c : Char} :
    isPlain c = true ↔ ∀ range ∈ markRanges, ¬(range.1 ≤ c.toNat ∧ c.toNat ≤ range.2) := by
  have code : ∀ d : Char, c = d ↔ d.toNat ≤ c.toNat ∧ c.toNat ≤ d.toNat := by
    intro d
    constructor
    · rintro rfl
      exact ⟨Nat.le_refl _, Nat.le_refl _⟩
    · rintro ⟨above, below⟩
      rw [← Char.ofNat_toNat c, Nat.le_antisymm below above, Char.ofNat_toNat]
  have blank : isBlank c = false ↔
      ∀ range ∈ blankRanges.ranges, ¬(range.1 ≤ c.toNat ∧ c.toNat ≤ range.2) := by
    rw [isBlank, ← Bool.not_eq_true, CodeRanges.covers_iff]
    simp
  have angle : c = '>' ↔ 0x3E ≤ c.toNat ∧ c.toNat ≤ 0x3E := code '>'
  have comma : c = ',' ↔ 0x2C ≤ c.toNat ∧ c.toNat ≤ 0x2C := code ','
  simp only [isPlain, markRanges, List.forall_mem_cons, Bool.and_eq_true, Bool.not_eq_true',
    decide_eq_true_eq, ne_eq, blank, angle, comma]
  tauto

/-! ## Lower case keeps characters plain -/

theorem lowerRuns_plain : (lowerRuns.all (·.avoids markRanges)) = true := by decide +kernel

/-- A character is kept by lower case, or what stands for it is plain. -/
theorem eq_or_isPlain_of_mem_lowerChar {c d : Char} (here : d ∈ lowerChar c) :
    d = c ∨ isPlain d = true := by
  rcases mem_lowerChar_cases here with (rfl | rfl) | ⟨rfl, -, -⟩ | ⟨r, member, letter, image⟩
  · exact .inr (by decide)
  · exact .inr (by decide)
  · exact .inl rfl
  · have outside := LowerRun.outside_of_avoids (List.all_eq_true.mp lowerRuns_plain r member)
      (LowerRun.imageOf_bounds letter)
    rw [← image] at outside
    exact .inr (isPlain_iff.mpr outside)

/-- **Lower case brings in plain characters only.** -/
theorem mem_or_isPlain_of_mem_lower {cs : List Char} {d : Char} (here : d ∈ lower cs) :
    d ∈ cs ∨ isPlain d = true := by
  have good : ∀ d ∈ lower cs, d ∈ cs ∨ isPlain d = true := by
    refine forall_mem_lower (.inr (by decide)) (.inr (by decide)) fun c inside _ d image => ?_
    rcases eq_or_isPlain_of_mem_lowerChar image with rfl | plain
    · exact .inl inside
    · exact .inr plain
  exact good d here

theorem isPlain_of_mem_lower {cs : List Char} (plain : ∀ c ∈ cs, isPlain c = true) :
    ∀ d ∈ lower cs, isPlain d = true :=
  fun d here => (mem_or_isPlain_of_mem_lower here).elim (plain d) id

theorem alphanumeric_plain :
    (alphanumericRanges.ranges.all fun r => markRanges.all fun s => r.2 < s.1 || s.2 < r.1) = true := by
  decide +kernel

theorem isPlain_of_isTagChar {c : Char} (tagChar : Pattern.isTagChar c = true) :
    isPlain c = true := by
  simp only [Pattern.isTagChar, Bool.or_eq_true, decide_eq_true_eq] at tagChar
  rcases tagChar with ((letter | rfl) | rfl) | rfl
  · rw [isAlphanumeric, CodeRanges.covers_iff] at letter
    obtain ⟨r, member, begins, ends⟩ := letter
    apply isPlain_iff.mpr
    intro s mark
    have apart := List.all_eq_true.mp (List.all_eq_true.mp alphanumeric_plain r member) s mark
    rw [Bool.or_eq_true, decide_eq_true_eq, decide_eq_true_eq] at apart
    rintro ⟨begins', ends'⟩
    omega
  · decide
  · decide
  · decide

/-! ## Canonical spellings -/

/-- What stands for a character in lower case is no more white space than the character. -/
theorem solid_of_image {c d : Char} (solid : isBlank c = false)
    (image : (d = '\u03C2' ∨ d = '\u03C3') ∨ c ≠ '\u03A3' ∧ d ∈ lowerChar c) : isBlank d = false := by
  rcases image with (rfl | rfl) | ⟨-, image⟩
  · decide
  · decide
  · rcases eq_or_isPlain_of_mem_lowerChar image with rfl | plain
    · exact solid
    · exact solid_of_isPlain plain

/-- Lower case leaves no white space at the ends where there was none. -/
theorem isTrimmed_lower {cs : List Char} (trimmed : isTrimmed cs = true) :
    isTrimmed (lower cs) = true := by
  obtain ⟨first, last⟩ := isTrimmed_iff.mp trimmed
  refine isTrimmed_iff.mpr ⟨?_, ?_⟩
  · cases cs with
    | nil => simp [lower, lowerFrom]
    | cons c cs =>
        obtain ⟨images, inWord, whole, some_, ofC⟩ := exists_lowerFrom_cons false c cs
        obtain ⟨d, more, rfl⟩ := List.exists_cons_of_ne_nil some_
        rw [lower, whole]
        rintro _ ⟨⟩
        exact solid_of_image (first c rfl) (ofC d List.mem_cons_self)
  · rcases List.eq_nil_or_concat cs with rfl | ⟨init, c, rfl⟩
    · simp [lower, lowerFrom]
    · obtain ⟨images, inWord, whole, some_, ofC⟩ := exists_lowerFrom_cons (inWordAfter false init) c []
      rw [List.concat_eq_append] at last ⊢
      intro d here
      rw [lower, lowerFrom_append, whole, lowerFrom, List.append_nil,
        List.getLast?_append_of_ne_nil _ some_] at here
      exact solid_of_image (last c List.getLast?_concat) (ofC d (List.mem_of_mem_getLast? here))

theorem toList_canonical (tag : String) : (canonical tag).toList = lower (trim tag.toList) := by
  rw [canonical, lowercase, trimmed, String.toList_ofList, String.toList_ofList]

/-- **A canonical spelling is its own.** -/
theorem canonical_canonical (tag : String) : canonical (canonical tag) = canonical tag := by
  rw [← String.toList_inj, toList_canonical, toList_canonical,
    trim_of_isTrimmed (isTrimmed_lower (isTrimmed_trim _)), lower_lower]

theorem canonical_eq_empty_iff {tag : String} :
    canonical tag = "" ↔ allBlank tag.toList = true := by
  rw [← String.toList_eq_nil_iff, toList_canonical, lower_eq_nil_iff, trim_eq_nil_iff]

theorem allBlank_canonical (tag : String) :
    allBlank (canonical tag).toList = allBlank tag.toList := by
  rw [Bool.eq_iff_iff, ← canonical_eq_empty_iff, canonical_canonical, canonical_eq_empty_iff]

/-- A spelling has a mark of edge ids exactly when its canonical form has it: the marks are
neither white space nor letters. -/
theorem mark_mem_canonical_iff {tag : String} {mark : Char} (isMark : mark = '>' ∨ mark = ',') :
    mark ∈ (canonical tag).toList ↔ mark ∈ tag.toList := by
  obtain ⟨solid, special, low⟩ : isBlank mark = false ∧ isPlain mark = false ∧ IsLow mark := by
    rcases isMark with rfl | rfl
    · exact ⟨by decide, by decide, by decide, by decide +kernel⟩
    · exact ⟨by decide, by decide, by decide, by decide +kernel⟩
  rw [toList_canonical, ← @mem_trim_iff tag.toList mark solid]
  constructor
  · intro here
    refine (mem_or_isPlain_of_mem_lower here).resolve_right ?_
    simp [special]
  · exact mem_lower_of_isLow low

/-! ## Normal forms -/

theorem pairwise_normalize (tags : List String) : (normalize tags).Pairwise (· < ·) :=
  Ascending.pairwise_ofList _

/-- Canonical spellings in order are their own normal form. -/
theorem normalize_of_canonical {tags : List String} (fixed : ∀ tag ∈ tags, canonical tag = tag)
    (ascending : tags.Pairwise (· < ·)) : normalize tags = tags := by
  have same : tags.map canonical = tags := (List.map_congr_left fixed).trans (List.map_id _)
  rw [normalize, same, Ascending.ofList_eq_self ascending]

/-- **A normal form is its own.** -/
theorem normalize_normalize (tags : List String) : normalize (normalize tags) = normalize tags := by
  refine normalize_of_canonical (fun tag here => ?_) (pairwise_normalize tags)
  obtain ⟨raw, -, rfl⟩ := List.mem_map.mp ((Ascending.mem_ofList _ _).mp here)
  exact canonical_canonical raw

/-! ## Clean tags -/

/-- A tag that may be stored and is its own lower case. -/
structure Clean (tag : String) : Prop where
  storable : isStorable tag = true
  low : ∀ c ∈ tag.toList, IsLow c

theorem trim_eq_self {cs : List Char} (solid : ∀ c ∈ cs, isBlank c = false) : trim cs = cs := by
  apply trim_of_isTrimmed
  rw [isTrimmed_iff]
  exact ⟨fun c first => solid c (List.mem_of_mem_head? first),
    fun c last => solid c (List.mem_of_mem_getLast? last)⟩

theorem Clean.canonical_eq {tag : String} (clean : Clean tag) : canonical tag = tag := by
  rw [canonical, trimmed, trim_eq_self (solid_of_isStorable clean.storable), lowercase, String.toList_ofList,
    lower_eq_self clean.low, String.ofList_toList]

/-- **A list of clean tags in order is in normal form.** -/
theorem normalize_eq_self {tags : List String} (clean : ∀ tag ∈ tags, Clean tag)
    (ascending : tags.Pairwise (· < ·)) : normalize tags = tags :=
  normalize_of_canonical (fun tag here => (clean tag here).canonical_eq) ascending

/-- **A canonical spelling is in lower case already.** -/
theorem lowercase_canonical (tag : String) : lowercase (canonical tag) = canonical tag := by
  rw [canonical, lowercase, lowercase, String.toList_ofList, lower_lower]

theorem map_lowercase_normalize (tags : List String) :
    (normalize tags).map lowercase = normalize tags := by
  refine (List.map_congr_left fun tag here => ?_).trans (List.map_id _)
  obtain ⟨raw, -, rfl⟩ := List.mem_map.mp ((Ascending.mem_ofList _ _).mp here)
  exact lowercase_canonical raw

theorem clean_of_mem_normalize {tags : List String} (clean : ∀ tag ∈ tags, Clean tag) :
    ∀ tag ∈ normalize tags, Clean tag := by
  intro tag here
  obtain ⟨raw, member, rfl⟩ := List.mem_map.mp ((Ascending.mem_ofList _ _).mp here)
  rw [(clean raw member).canonical_eq]
  exact clean raw member

end Tag

/-! ## Readers of tags -/

namespace Pattern

theorem clean_of_readTag {word : List Char} {tag : String} (read : readTag word = .ok tag) :
    Tag.Clean tag := by
  unfold readTag at read
  split at read
  · next isWord =>
      obtain rfl := Except.ok.inj read
      rw [isTagWord, Bool.and_eq_true, List.all_eq_true, decide_eq_true_eq] at isWord
      constructor
      · rw [Tag.isStorable_iff, String.toList_ofList]
        refine ⟨?_, Tag.isPlain_of_mem_lower fun c here => Tag.isPlain_of_isTagChar (isWord.2 c here)⟩
        intro nothing
        have noText : lower word = [] := by simpa using congrArg String.toList nothing
        exact isWord.1 ((lower_eq_nil_iff word).mp noText)
      · intro c here
        rw [String.toList_ofList] at here
        exact isLow_of_mem_lower here
  · cases read

/-- A comma list is in normal form and has clean tags only; it is empty only when the
text is blank. -/
theorem clean_of_readCommaList {text : List Char} {tags : List String}
    (read : readCommaList text = .ok tags) :
    tags.Pairwise (· < ·) ∧ ∀ tag ∈ tags, Tag.Clean tag := by
  unfold readCommaList at read
  split at read
  · obtain rfl := Except.ok.inj read
    exact ⟨.nil, fun tag here => by cases here⟩
  · obtain ⟨words, readAll, rfl⟩ := map_eq_ok_iff.mp read
    refine ⟨Tag.pairwise_normalize _, Tag.clean_of_mem_normalize fun tag here => ?_⟩
    obtain ⟨word, -, readWord⟩ := exists_of_mem_mapM readAll here
    exact clean_of_readTag readWord

end Pattern

end Trellis
