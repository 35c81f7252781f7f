/-
# Trellis.Proofs.Pattern.CommaList — lists with commas are read by the grammar

A text that is cut at its commas falls into the tags of the grammar with white space around
them (`commaTags_iff`), since no tag holds a comma. So the reader finds the tags that the
grammar has, and none where it has none: an empty item is no tag, and an empty list has no
item (`readCommaList_eq_ok_iff`).
-/
import Trellis.Proofs.Pattern.Node

namespace Trellis.Pattern

set_option autoImplicit false

open Text Grammar

variable {text list word : List Char} {tags : List (List Char)} {types : List String}

/-! ## Tags between commas -/

theorem plain_of_tagWord (isTag : TagWord word) : ∀ c ∈ word, Tag.isPlain c = true :=
  fun c here => Tag.isPlain_of_isTagChar (isTagChar_iff.mpr (isTag.chars c here))

theorem solid_of_tagWord (isTag : TagWord word) : ∀ c ∈ word, isBlank c = false := by
  intro c here
  have plain := plain_of_tagWord isTag c here
  simp only [Tag.isPlain, Bool.and_eq_true, Bool.not_eq_true'] at plain
  exact plain.2

theorem not_allBlank_of_tagWord (isTag : TagWord word) : allBlank word = false := by
  obtain ⟨c, rest, rfl⟩ := List.exists_cons_of_ne_nil isTag.ne_nil
  simp [allBlank, solid_of_tagWord isTag c List.mem_cons_self]

theorem trim_eq_tag_iff (isTag : TagWord word) : trim text = word ↔ ∃ before after,
    allBlank before = true ∧ allBlank after = true ∧ text = before ++ word ++ after := by
  have trimmed : isTrimmed word = true := by
    rw [← Tag.trim_eq_self (solid_of_tagWord isTag)]
    exact isTrimmed_trim word
  rw [trim_eq_iff, and_iff_right trimmed]

/-- The parts between the commas are the tags with white space around them. -/
theorem commaTags_iff : CommaTags text tags ↔ ∃ parts, parts ≠ [] ∧
    [','].intercalate parts = text ∧ parts.map trim = tags ∧ ∀ tag ∈ tags, TagWord tag := by
  constructor
  · intro listed
    induction listed with
    | @last before tag after blank isTag blank' =>
        have trims := (trim_eq_tag_iff isTag).mpr ⟨before, after, blank, blank', rfl⟩
        exact ⟨[before ++ tag ++ after], by simp, by simp, by simpa using trims, by simpa using isTag⟩
    | @more before tag after rest tags blank isTag blank' _ ih =>
        obtain ⟨parts, some_, rfl, rfl, areTags⟩ := ih
        have trims := (trim_eq_tag_iff isTag).mpr ⟨before, after, blank, blank', rfl⟩
        refine ⟨(before ++ tag ++ after) :: parts, by simp, ?_, by rw [List.map_cons, trims],
          List.forall_mem_cons.mpr ⟨isTag, areTags⟩⟩
        rw [List.intercalate_cons_of_ne_nil some_]
        simp
  · rintro ⟨parts, some_, rfl, rfl, areTags⟩
    induction parts with
    | nil => exact absurd rfl some_
    | cons part parts ih =>
        obtain ⟨isTag, areTags⟩ := List.forall_mem_cons.mp areTags
        obtain ⟨before, after, blank, blank', whole⟩ := (trim_eq_tag_iff isTag).mp rfl
        cases parts with
        | nil =>
            have listed := CommaTags.last blank isTag blank'
            rw [← whole] at listed
            simpa using listed
        | cons next parts =>
            have listed := CommaTags.more blank isTag blank' (ih (by simp) areTags)
            rw [← whole] at listed
            simpa [List.intercalate_cons_cons] using listed

theorem comma_not_mem (isTag : TagWord (trim text)) : ',' ∉ text := by
  rw [← mem_trim_iff (by decide)]
  exact fun here => absurd (plain_of_tagWord isTag ',' here) (by decide)

/-! ## Reading -/

/-- A text that is cut at its commas is read part by part. -/
theorem mapM_readTag_eq_ok_iff :
    ((text.splitOn ',').mapM fun word => readTag (trim word)) = .ok types ↔
      ∃ tags, CommaTags text tags ∧ tags.map (fun tag => String.ofList (lower tag)) = types := by
  have each : ∀ parts : List (List Char), (parts.mapM fun word => readTag (trim word)) = .ok types ↔
      (∀ part ∈ parts, TagWord (trim part)) ∧
        (parts.map trim).map (fun tag => String.ofList (lower tag)) = types := by
    intro parts
    simp only [mapM_eq_ok_iff, readTag_eq_ok_iff, List.forall₂_and_left]
    rw [List.map_map, ← List.forall₂_eq_eq_eq, List.forall₂_map_left_iff]
    rfl
  rw [each]
  constructor
  · rintro ⟨areTags, rfl⟩
    refine ⟨_, commaTags_iff.mpr ⟨text.splitOn ',', List.splitOn_ne_nil _ _,
      List.intercalate_splitOn _, rfl, ?_⟩, rfl⟩
    simpa using areTags
  · rintro ⟨tags, listed, rfl⟩
    obtain ⟨parts, some_, rfl, rfl, areTags⟩ := commaTags_iff.mp listed
    have areTags : ∀ part ∈ parts, TagWord (trim part) := by simpa using areTags
    rw [List.splitOn_intercalate _ (fun part here => comma_not_mem (areTags part here)) some_]
    exact ⟨areTags, rfl⟩

theorem tagWord_of_commaTags (listed : CommaTags text tags) : ∀ tag ∈ tags, TagWord tag := by
  obtain ⟨-, -, -, -, areTags⟩ := commaTags_iff.mp listed
  exact areTags

theorem not_allBlank_of_commaTags (listed : CommaTags text tags) : allBlank text = false := by
  cases listed with
  | last _ isTag _ => simp [allBlank_append, not_allBlank_of_tagWord isTag]
  | more _ isTag _ _ => simp [allBlank_append, not_allBlank_of_tagWord isTag]

/-- **A list with commas is read exactly when the grammar has it.** -/
theorem readCommaList_eq_ok_iff : readCommaList list = .ok types ↔ CommaList list types := by
  unfold readCommaList
  split
  · next blank =>
      constructor
      · rintro ⟨⟩
        exact .blank blank
      · intro denoted
        cases denoted with
        | blank => rfl
        | tags listed =>
            rw [not_allBlank_of_commaTags listed] at blank
            cases blank
  · next solid =>
      rw [map_eq_ok_iff]
      simp only [mapM_readTag_eq_ok_iff]
      constructor
      · rintro ⟨_, ⟨tags, listed, rfl⟩, normal⟩
        exact .tags listed ((normalize_eq_iff (tagWord_of_commaTags listed)).mp normal)
      · intro denoted
        cases denoted with
        | blank blank => exact absurd blank solid
        | tags listed denoted =>
            exact ⟨_, ⟨_, listed, rfl⟩,
              (normalize_eq_iff (tagWord_of_commaTags listed)).mpr denoted⟩

/-- Only a blank list stands for no types. -/
theorem Grammar.CommaList.eq_nil_iff (denoted : CommaList list types) :
    types = [] ↔ allBlank list = true := by
  cases denoted with
  | blank blank => simp [blank]
  | @tags tags _ listed lowered =>
      rw [not_allBlank_of_commaTags listed]
      refine ⟨fun none_ => ?_, nofun⟩
      cases listed with
      | @last _ tag => exact absurd ((lowered.mem_iff _).mpr ⟨tag, by simp, rfl⟩) (by simp [none_])
      | @more _ tag => exact absurd ((lowered.mem_iff _).mpr ⟨tag, by simp, rfl⟩) (by simp [none_])

/-! ## Marks -/

theorem Grammar.CommaTags.not_mem (listed : CommaTags text tags) {c : Char} (mark : c ∈ marks) :
    c ∉ text := by
  have noTag : ∀ {tag}, TagWord tag → c ∉ tag := by
    intro tag isTag here
    have outside := (marks_outside c mark).2
    rw [isTagChar_iff.mpr (isTag.chars c here)] at outside
    cases outside
  have noComma : c ≠ ',' := by
    rintro rfl
    exact absurd mark (by decide)
  induction listed with
  | last blank isTag blank' =>
      simp [free_of_allBlank blank c mark, noTag isTag, free_of_allBlank blank' c mark]
  | more blank isTag blank' _ ih =>
      simp [free_of_allBlank blank c mark, noTag isTag, free_of_allBlank blank' c mark, noComma, ih]

/-- A list with commas holds no mark. -/
theorem Grammar.CommaList.not_mem (denoted : CommaList list types) {c : Char} (mark : c ∈ marks) :
    c ∉ list := by
  cases denoted with
  | blank blank => exact free_of_allBlank blank c mark
  | tags listed _ => exact listed.not_mem mark

end Trellis.Pattern
