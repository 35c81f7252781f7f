/-
# Trellis.Proofs.Pattern.Node — nodes and lists of tags are read by the grammar

The reader of alternatives goes through the words as the grammar builds them, two at a
time (`readAlternatives_eq_ok_iff`), and a normal form is the ascending list of the lower
cases (`normalize_eq_iff`); so a list of tags is read exactly when the grammar has it
(`readOrList_eq_ok_iff`). A list of tags holds none of the marks that tell nodes and
links apart (`OrList.not_mem`), so the first character of a node decides its form
(`readNode_eq_ok_iff`).
-/
import Trellis.Pattern.Node
import Trellis.Proofs.Ascending
import Trellis.Proofs.Except
import Trellis.Proofs.Pattern.Grammar
import Trellis.Proofs.Pattern.Token
import Trellis.Proofs.Tag
import Trellis.Proofs.Text.LetterCase

namespace Trellis.Pattern

set_option autoImplicit false

open Text Grammar

variable {text word : List Char} {ws tags : List (List Char)} {types : List String}

/-! ## Tags and the keyword -/

theorem isTagChar_iff {c : Char} :
    isTagChar c = true ↔ isAlphanumeric c = true ∨ c = '_' ∨ c = '-' ∨ c = '.' := by
  simp [isTagChar, or_assoc]

theorem isTagWord_iff : isTagWord word = true ↔ TagWord word := by
  simp only [isTagWord, Bool.and_eq_true, decide_eq_true_eq, List.all_eq_true, isTagChar_iff]
  constructor
  · rintro ⟨ne_nil, chars⟩
    exact ⟨ne_nil, chars⟩
  · rintro ⟨ne_nil, chars⟩
    exact ⟨ne_nil, chars⟩

theorem readTag_eq_ok_iff {tag : String} :
    readTag word = .ok tag ↔ TagWord word ∧ String.ofList (lower word) = tag := by
  rw [← isTagWord_iff, readTag]
  split <;> simp_all

theorem isOr_iff : isOr word = true ↔ word ∈ orSpellings := by
  have o (c : Char) : c.toLower = 'o' ↔ c = 'o' ∨ c = 'O' :=
    toLower_eq_iff (by decide) (by decide)
  have r (c : Char) : c.toLower = 'r' ↔ c = 'r' ∨ c = 'R' :=
    toLower_eq_iff (by decide) (by decide)
  rw [isOr, decide_eq_true_eq]
  match word with
  | [] | [_] | _ :: _ :: _ :: _ => simp [orSpellings]
  | [c, d] =>
      simp only [List.map_cons, List.map_nil, List.cons.injEq, o, r, and_true]
      constructor
      · rintro ⟨rfl | rfl, rfl | rfl⟩ <;> decide
      · intro here
        simp only [orSpellings, List.mem_cons, List.cons.injEq, and_true, List.not_mem_nil,
          or_false] at here
        rcases here with ⟨rfl, rfl⟩ | ⟨rfl, rfl⟩ | ⟨rfl, rfl⟩ | ⟨rfl, rfl⟩ <;> simp

/-- By the grammar's own steps: a tag alone, or a tag, the keyword and the rest. -/
theorem readAlternatives_eq_ok_iff : ∀ {ws : List (List Char)} {types : List String},
    readAlternatives .tag ws = .ok (types, .keyword) ↔
      ∃ tags, Alternatives ws tags ∧ tags.map (fun tag => String.ofList (lower tag)) = types
  | [], types => by
      constructor
      · nofun
      · rintro ⟨tags, ⟨⟩, -⟩
  | [word], types => by
      simp only [readAlternatives, bind_eq_ok_iff, readTag_eq_ok_iff]
      constructor
      · rintro ⟨tag, ⟨isTag, rfl⟩, _, ⟨⟩, ⟨⟩⟩
        exact ⟨[word], .last isTag, rfl⟩
      · rintro ⟨_, ⟨isTag⟩, rfl⟩
        exact ⟨_, ⟨isTag, rfl⟩, _, rfl, rfl⟩
  | word :: keyword :: rest, types => by
      simp only [readAlternatives, bind_eq_ok_iff, readTag_eq_ok_iff]
      constructor
      · rintro ⟨tag, ⟨isTag, rfl⟩, ⟨later, turn⟩, readRest, done⟩
        obtain ⟨rfl, rfl⟩ : String.ofList (lower word) :: later = types ∧ turn = .keyword := by
          simpa using done
        split at readRest
        · next isKeyword =>
            obtain ⟨tags, alternate, rfl⟩ := readAlternatives_eq_ok_iff.mp readRest
            exact ⟨word :: tags, .more isTag (isOr_iff.mp isKeyword) alternate, rfl⟩
        · cases readRest
      · rintro ⟨_, ⟨⟩ | @⟨_, _, _, tags, isTag, isKeyword, alternate⟩, rfl⟩
        refine ⟨_, ⟨isTag, rfl⟩, (_, .keyword), ?_, rfl⟩
        rw [if_pos (isOr_iff.mpr isKeyword)]
        exact readAlternatives_eq_ok_iff.mpr ⟨tags, alternate, rfl⟩

/-! ## Lists of tags -/

theorem clean_of_tagWord (isTag : TagWord word) : Tag.Clean (String.ofList (lower word)) :=
  clean_of_readTag (readTag_eq_ok_iff.mpr ⟨isTag, rfl⟩)

theorem tagWord_of_alternatives (alternate : Alternatives ws tags) : ∀ tag ∈ tags, TagWord tag := by
  induction alternate with
  | last isTag => simpa using isTag
  | more isTag _ _ ih => exact List.forall_mem_cons.mpr ⟨isTag, ih⟩

/-- The normal form of tags is that list which has their lower cases in order. -/
theorem normalize_eq_iff (isTag : ∀ tag ∈ tags, TagWord tag) :
    Tag.normalize (tags.map fun tag => String.ofList (lower tag)) = types ↔
      LowerTags tags types := by
  have same : ∀ type, type ∈ Tag.normalize (tags.map fun tag => String.ofList (lower tag)) ↔
      ∃ tag ∈ tags, String.ofList (lower tag) = type := by
    intro type
    rw [Tag.normalize, Ascending.mem_ofList, List.map_map, List.mem_map]
    refine exists_congr fun tag => and_congr_right fun here => ?_
    rw [Function.comp_apply, (clean_of_tagWord (isTag tag here)).canonical_eq]
  constructor
  · rintro rfl
    exact ⟨Tag.pairwise_normalize _, same⟩
  · intro denoted
    refine Ascending.eq_of_mem_iff (Tag.pairwise_normalize _) denoted.ascending fun type => ?_
    rw [same, denoted.mem_iff]

/-- **A list of tags is read exactly when the grammar has it.** -/
theorem readOrList_eq_ok_iff : readOrList text = .ok types ↔ OrList text types := by
  rw [readOrList, bind_eq_ok_iff]
  constructor
  · rintro ⟨⟨found, turn⟩, read, done⟩
    dsimp only at done
    cases turn with
    | tag => cases done
    | keyword =>
        obtain ⟨tags, alternate, rfl⟩ := readAlternatives_eq_ok_iff.mp read
        have normal := Except.ok.inj done
        exact ⟨words text, tags, words_eq_iff.mp rfl, alternate,
          (normalize_eq_iff (tagWord_of_alternatives alternate)).mp normal⟩
  · rintro ⟨ws, tags, spaced, alternate, denoted⟩
    have read := readAlternatives_eq_ok_iff.mpr ⟨tags, alternate, rfl⟩
    rw [words_eq_iff.mpr spaced]
    refine ⟨_, read, ?_⟩
    exact congrArg _ ((normalize_eq_iff (tagWord_of_alternatives alternate)).mpr denoted)

/-! ## Marks -/

/-- The characters that tell the forms of nodes and links apart. -/
def marks : List Char := ['\'', '(', ')', '[', ']', '*', ':']

theorem marks_outside : ∀ c ∈ marks, isBlank c = false ∧ isTagChar c = false := by
  have outside : (marks.all fun c => !isBlank c && !isTagChar c) = true := by decide +kernel
  intro c mark
  simpa using List.all_eq_true.mp outside c mark

theorem tagWord_of_mem (alternate : Alternatives ws tags) : ∀ word ∈ ws, TagWord word := by
  have keyword : ∀ word ∈ orSpellings, TagWord word := by
    intro word here
    rw [← isTagWord_iff]
    revert word
    decide +kernel
  induction alternate with
  | last isTag => simpa using isTag
  | more isTag isKeyword _ ih =>
      exact List.forall_mem_cons.mpr ⟨isTag, List.forall_mem_cons.mpr ⟨keyword _ isKeyword, ih⟩⟩

/-- A list of tags holds no mark. -/
theorem Grammar.OrList.not_mem (list : OrList text types) {c : Char} (mark : c ∈ marks) : c ∉ text := by
  intro here
  obtain ⟨ws, tags, spaced, alternate, -⟩ := list
  obtain ⟨visible, noTag⟩ := marks_outside c mark
  rcases spaced.mem here with blank | ⟨word, member, inWord⟩
  · rw [blank] at visible
    cases visible
  · rw [isTagChar_iff.mpr ((tagWord_of_mem alternate word member).chars c inWord)] at noTag
    cases noTag

theorem Grammar.OrList.not_allBlank (list : OrList text types) : allBlank text = false := by
  obtain ⟨ws, tags, spaced, alternate, -⟩ := list
  cases blank : allBlank text with
  | false => rfl
  | true =>
      have none_ : ws = [] := by rw [← words_eq_iff.mpr spaced, words_eq_iff.mpr (.done blank)]
      subst none_
      cases alternate

/-! ## Cutting at a character -/

theorem differ_of_not_mem {stop : Char} (free : stop ∉ text) :
    ∀ c ∈ text, decide (c ≠ stop) = true := by
  intro c here
  exact decide_eq_true fun same => free (same ▸ here)

theorem span_append {stop : Char} {before after : List Char} (free : stop ∉ before) :
    (before ++ stop :: after).span (· ≠ stop) = (before, stop :: after) := by
  rw [List.span_eq_takeWhile_dropWhile, List.takeWhile_append_of_pos (differ_of_not_mem free),
    List.dropWhile_append_of_pos (differ_of_not_mem free)]
  simp

/-- A text has no such character, or it is cut at the first one. -/
theorem span_cases (stop : Char) (text : List Char) :
    text.span (· ≠ stop) = (text, []) ∨ ∃ before after, stop ∉ before ∧
      text = before ++ stop :: after ∧ text.span (· ≠ stop) = (before, stop :: after) := by
  by_cases here : stop ∈ text
  · obtain ⟨before, after, rfl, free⟩ := List.eq_append_cons_of_mem here
    exact .inr ⟨before, after, free, rfl, span_append free⟩
  · left
    rw [List.span_eq_takeWhile_dropWhile, List.takeWhile_eq_self_iff.mpr (differ_of_not_mem here),
      List.dropWhile_eq_nil_iff.mpr (differ_of_not_mem here)]

/-! ## Nodes -/

theorem nodeText_of_readDescribed {body rest : List Char} {n : Node}
    (trimmed : isTrimmed ('\'' :: rest) = true) (read : readDescribed body rest = .ok n) :
    NodeText ('\'' :: rest) n := by
  rcases span_cases '\'' rest with cut | ⟨term, after, whole, rfl, cut⟩
  · rw [readDescribed, cut] at read
    cases read
  have trimmed' : isTrimmed ('\'' :: term ++ ['\''] ++ after) = true := by simpa using trimmed
  rw [readDescribed, cut] at read
  dsimp only at read
  split at read
  · cases read
  next solid =>
  have isTerm : SearchTerm term := ⟨whole, by simpa using solid⟩
  split at read
  · next none_ =>
      obtain rfl := Except.ok.inj read
      obtain rfl := eq_nil_of_isTrimmed_append trimmed' ((trim_eq_nil_iff _).mp none_)
      exact .described isTerm
  · next types colon =>
      obtain ⟨found, readTypes, rfl⟩ := map_eq_ok_iff.mp read
      obtain ⟨-, gap, blank, rfl⟩ := (trim_back_eq_iff trimmed').mp colon
      have node := NodeText.describedTyped isTerm blank (readOrList_eq_ok_iff.mp readTypes)
      simpa using node
  · cases read

theorem readDescribed_eq_ok_iff {body rest : List Char} {n : Node}
    (trimmed : isTrimmed ('\'' :: rest) = true) :
    readDescribed body rest = .ok n ↔ NodeText ('\'' :: rest) n := by
  refine ⟨nodeText_of_readDescribed trimmed, fun node => ?_⟩
  generalize same : '\'' :: rest = text at node
  cases node with
  | hidden | any => cases same
  | typed list => exact absurd (same ▸ List.mem_cons_self) (list.not_mem (c := '\'') (by decide))
  | @described term isTerm =>
      obtain rfl : rest = term ++ ['\''] := (List.cons.inj same).2
      rw [readDescribed, span_append isTerm.whole]
      simp [isTerm.solid, trim_nil]
  | @describedTyped term gap list types isTerm blank denoted =>
      obtain rfl : rest = term ++ '\'' :: (gap ++ ':' :: list) := by simpa using same
      have back : isTrimmed (('\'' :: term ++ '\'' :: gap) ++ ':' :: list) = true := by
        simpa using trimmed
      have colon : trim (gap ++ ':' :: list) = ':' :: list :=
        trim_eq_iff.mpr
          ⟨isTrimmed_of_append back (by decide), gap, [], blank, rfl, by simp⟩
      rw [readDescribed, span_append isTerm.whole]
      simp [isTerm.solid, colon, readOrList_eq_ok_iff.mpr denoted]

/-- **The inside of a group is read exactly when the grammar has it.** -/
theorem readNode_eq_ok_iff {n : Node} : readNode text = .ok n ↔ NodeText (trim text) n := by
  have trimmed := isTrimmed_trim text
  unfold readNode
  split
  · next none_ =>
      rw [none_]
      constructor
      · rintro ⟨⟩
        exact .hidden
      · intro node
        cases node with
        | hidden => rfl
        | typed list => cases list.not_allBlank
  · next star =>
      rw [star]
      constructor
      · rintro ⟨⟩
        exact .any
      · intro node
        cases node with
        | any => rfl
        | typed list => exact absurd List.mem_cons_self (list.not_mem (by decide))
  · next rest quote =>
      rw [quote] at trimmed ⊢
      exact readDescribed_eq_ok_iff trimmed
  · next noText noStar noQuote =>
      rw [map_eq_ok_iff]
      constructor
      · rintro ⟨types, read, rfl⟩
        exact .typed (readOrList_eq_ok_iff.mp read)
      · intro node
        generalize same : trim text = body at *
        cases node with
        | hidden => exact absurd rfl noText
        | any => exact absurd rfl noStar
        | typed list => exact ⟨_, readOrList_eq_ok_iff.mpr list, rfl⟩
        | described => exact absurd rfl (noQuote _)
        | describedTyped => exact absurd rfl (noQuote _)

/-! ## Nodes in groups -/

theorem enclosed_append {text rest : List Char} (free : ∀ mark ∈ marks, mark ∉ text)
    (later : Enclosed false rest) : Enclosed false (text ++ rest) := by
  refine Enclosed.append (fun c here => ⟨?_, ?_, ?_⟩) later
  · rintro rfl
    exact free '\'' (by decide) here
  · rintro rfl
    exact free '(' (by decide) here
  · rintro rfl
    exact free ')' (by decide) here

theorem free_of_allBlank (blank : allBlank text = true) : ∀ mark ∈ marks, mark ∉ text :=
  fun mark here => not_mem_of_allBlank blank (marks_outside mark here).1

/-- What denotes a node may stand in a group, whatever comes after it. -/
theorem enclosed_of_nodeText {rest : List Char} {n : Node} (node : NodeText text n)
    (later : Enclosed false rest) : Enclosed false (text ++ rest) := by
  cases node with
  | hidden => exact later
  | any => exact .text (by decide) (by decide) later
  | typed list => exact enclosed_append (fun mark => list.not_mem) later
  | described isTerm => simpa using Enclosed.term_append isTerm.whole later
  | @describedTyped term gap list types isTerm blank denoted =>
      have afterColon := enclosed_append (fun mark => denoted.not_mem) later
      have afterGap := enclosed_append (free_of_allBlank blank)
        (.text (c := ':') (by decide) (by decide) afterColon)
      simpa using Enclosed.term_append isTerm.whole afterGap

/-- The white space around the inside of a group does not matter. -/
theorem enclosed_of_trimmed
    (trims : ∀ rest, Enclosed false rest → Enclosed false (trim text ++ rest)) :
    Enclosed false text := by
  obtain ⟨-, before, after, blank, blank', whole⟩ := trim_eq_iff.mp (rfl : trim text = trim text)
  have last := enclosed_append (free_of_allBlank blank') .done
  have all := enclosed_append (free_of_allBlank blank) (trims _ last)
  rw [whole]
  simpa using all

theorem enclosed_of_trim {n : Node} (node : NodeText (trim text) n) : Enclosed false text :=
  enclosed_of_trimmed fun _ => enclosed_of_nodeText node

end Trellis.Pattern
