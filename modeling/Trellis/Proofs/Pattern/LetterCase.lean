/-
# Trellis.Proofs.Pattern.LetterCase — queries in other letter case

No reader of a query sees the case of ASCII letters: the keyword is known in any case, tags
are put in lower case, the marks around nodes and links are no letters, and a search term is
kept as it is written. So a text with the same letters as one that the grammar has falls into
the same parts, form by form, and denotes the same but for the letters of its terms
(`exists_nodeText`, `linkText_of_sameLetters`, `exists_chainText`). Queries are read by the
grammar, and the one is read when the other is (`exists_parseQuery`).
-/
import Trellis.Proofs.Pattern.Query

namespace Trellis.Pattern

set_option autoImplicit false

open Text Grammar

/-! ## Nodes and chains that differ in the letters of terms -/

/-- Of one form, with the same types, and with terms that are equal in ASCII lower case. -/
structure Node.Alike (n n' : Node) : Prop where
  role : n.role = n'.role
  types : n.types = n'.types
  term : n.term.map String.toLower = n'.term.map String.toLower

/-- With the same link to a node alike. -/
structure Hop.Alike (h h' : Hop) : Prop where
  link : h.link = h'.link
  node : h.node.Alike h'.node

structure Chain.Alike (c c' : Chain) : Prop where
  head : c.head.Alike c'.head
  hops : List.Forall₂ Hop.Alike c.hops c'.hops

theorem Node.Alike.refl (n : Node) : n.Alike n := ⟨rfl, rfl, rfl⟩

theorem Chain.Alike.nodes {c c' : Chain} (alike : c.Alike c') :
    List.Forall₂ Node.Alike c.nodes c'.nodes := by
  refine .cons alike.head ?_
  rw [List.forall₂_map_left_iff, List.forall₂_map_right_iff]
  exact alike.hops.imp fun _ _ hop => hop.node

theorem Chain.Alike.links {c c' : Chain} (alike : c.Alike c') : c.links = c'.links := by
  rw [Chain.links, Chain.links, ← List.forall₂_eq_eq_eq, List.forall₂_map_left_iff,
    List.forall₂_map_right_iff]
  exact alike.hops.imp fun _ _ hop => hop.link

/-! ## Lists of tags -/

variable {xs ys : List Char} {ws ws' tags tags' : List (List Char)} {types : List String}

theorem isTagChar_toLower (c : Char) : isTagChar c.toLower = isTagChar c := by
  have mark {d : Char} (other : d.isAlpha = false) : (c.toLower = d) = (c = d) :=
    propext (toLower_eq_self_iff_of_other other)
  simp only [isTagChar, isAlphanumeric_toLower, mark (show '_'.isAlpha = false by decide),
    mark (show '-'.isAlpha = false by decide), mark (show '.'.isAlpha = false by decide)]

theorem isTagWord_map_toLower (word : List Char) : isTagWord (word.map Char.toLower) = isTagWord word := by
  have chars : isTagChar ∘ Char.toLower = isTagChar := funext isTagChar_toLower
  rw [isTagWord, isTagWord, List.all_map, chars]
  simp

theorem isOr_map_toLower (word : List Char) : isOr (word.map Char.toLower) = isOr word := by
  have twice : Char.toLower ∘ Char.toLower = Char.toLower := funext toLower_toLower
  rw [isOr, isOr, List.map_map, twice]

theorem tagWord_of_sameLetters (same : SameLetters xs ys) (isTag : TagWord xs) : TagWord ys := by
  rw [← isTagWord_iff] at isTag ⊢
  exact (same.congr isTagWord_map_toLower).symm.trans isTag

theorem mem_orSpellings_of_sameLetters (same : SameLetters xs ys) (isKeyword : xs ∈ orSpellings) :
    ys ∈ orSpellings := by
  rw [← isOr_iff] at isKeyword ⊢
  exact (same.congr isOr_map_toLower).symm.trans isKeyword

/-- Words take turns as before, and the tags among them have the same lower case. -/
theorem exists_alternatives (alternate : Alternatives ws tags)
    (same : List.Forall₂ SameLetters ws ws') :
    ∃ tags', Alternatives ws' tags' ∧ tags'.map lower = tags.map lower := by
  induction alternate generalizing ws' with
  | last isTag =>
      obtain ⟨_, _, first, ⟨⟩, rfl⟩ := List.forall₂_cons_left_iff.mp same
      exact ⟨_, .last (tagWord_of_sameLetters first isTag), by simp [first.lower_eq]⟩
  | more isTag isKeyword _ ih =>
      obtain ⟨_, _, first, afterTag, rfl⟩ := List.forall₂_cons_left_iff.mp same
      obtain ⟨_, _, second, later, rfl⟩ := List.forall₂_cons_left_iff.mp afterTag
      obtain ⟨tags', alternate', lowers⟩ := ih later
      exact ⟨_, .more (tagWord_of_sameLetters first isTag)
        (mem_orSpellings_of_sameLetters second isKeyword) alternate', by simp [first.lower_eq, lowers]⟩

theorem lowerTags_of_map_lower (lowers : tags'.map lower = tags.map lower)
    (denoted : LowerTags tags types) : LowerTags tags' types := by
  have byLower (tags : List (List Char)) (type : String) :
      (∃ tag ∈ tags, String.ofList (lower tag) = type) ↔
        ∃ low ∈ tags.map lower, String.ofList low = type := by simp
  refine ⟨denoted.ascending, fun type => ?_⟩
  rw [denoted.mem_iff, byLower, byLower, lowers]

/-- **A list of tags denotes the same types in any letter case.** -/
theorem orList_of_sameLetters (same : SameLetters xs ys) (list : OrList xs types) : OrList ys types := by
  obtain ⟨ws, tags, spaced, alternate, denoted⟩ := list
  obtain ⟨ws', spaced', alike⟩ := same.spaced spaced
  obtain ⟨tags', alternate', lowers⟩ := exists_alternatives alternate alike
  exact ⟨ws', tags', spaced', alternate', lowerTags_of_map_lower lowers denoted⟩

/-! ## Nodes -/

theorem searchTerm_of_sameLetters (same : SameLetters xs ys) (isTerm : SearchTerm xs) :
    SearchTerm ys :=
  ⟨same.not_mem_of_mark (by decide) isTerm.whole, same.allBlank_eq ▸ isTerm.solid⟩

theorem toLower_ofList_eq (same : SameLetters xs ys) :
    (String.ofList xs).toLower = (String.ofList ys).toLower := by
  rwa [← sameLetters_iff, String.toList_ofList, String.toList_ofList]

/-- **A node in other letter case is a node alike.** -/
theorem exists_nodeText {n : Node} (same : SameLetters xs ys) (denoted : NodeText xs n) :
    ∃ n', NodeText ys n' ∧ n.Alike n' := by
  cases denoted with
  | hidden =>
      obtain rfl := same.eq_nil
      exact ⟨.hidden, .hidden, .refl _⟩
  | any =>
      obtain rfl := same.eq_of_marks (by decide)
      exact ⟨.any, .any, .refl _⟩
  | typed list => exact ⟨_, .typed (orList_of_sameLetters same list), .refl _⟩
  | described isTerm =>
      obtain ⟨inside, rfl, sameInside⟩ := SameLetters.exists_of_mark (by decide) same
      obtain ⟨term, closing, rfl, sameTerm, sameClosing⟩ := sameInside.exists_of_append
      obtain rfl := sameClosing.eq_of_marks (by decide)
      exact ⟨_, .described (searchTerm_of_sameLetters sameTerm isTerm),
        ⟨rfl, rfl, congrArg some (toLower_ofList_eq sameTerm)⟩⟩
  | describedTyped isTerm blank list =>
      obtain ⟨front, back, rfl, sameFront, sameBack⟩ := same.exists_of_append
      obtain ⟨quoted, rest, rfl, sameQuoted, sameRest⟩ := sameFront.exists_of_append
      obtain ⟨term, rfl, sameTerm⟩ := sameQuoted.exists_of_mark (by decide)
      obtain ⟨gap, rfl, sameGap⟩ := sameRest.exists_of_mark (by decide)
      obtain ⟨list', rfl, sameList⟩ := sameBack.exists_of_mark (by decide)
      exact ⟨_, .describedTyped (searchTerm_of_sameLetters sameTerm isTerm) (sameGap.allBlank_eq ▸ blank)
        (orList_of_sameLetters sameList list), ⟨rfl, rfl, congrArg some (toLower_ofList_eq sameTerm)⟩⟩

/-! ## Links -/

theorem marks_of_shortSpellings :
    ∀ entry ∈ shortSpellings, entry.1.toList.any Char.isAlpha = false := by decide

theorem marks_of_typedSpellings : ∀ entry ∈ typedSpellings,
    entry.1.1.toList.any Char.isAlpha = false ∧ entry.1.2.toList.any Char.isAlpha = false := by
  decide

/-- **A link is the same in any letter case.** -/
theorem linkText_of_sameLetters {l : Link} (same : SameLetters xs ys) (denoted : LinkText xs l) :
    LinkText ys l := by
  cases denoted with
  | short here =>
      obtain rfl := same.eq_of_marks (marks_of_shortSpellings _ here)
      exact .short here
  | typed here blank list blank' =>
      obtain ⟨marks, marks'⟩ := marks_of_typedSpellings _ here
      obtain ⟨text, closing, rfl, sameText, sameClosing⟩ := same.exists_of_append
      obtain ⟨front, back, rfl, sameFront, sameBack⟩ := sameText.exists_of_append
      obtain ⟨outside, inside, rfl, sameOutside, sameInside⟩ := sameFront.exists_of_append
      obtain ⟨opening, gap, rfl, sameOpening, sameGap⟩ := sameOutside.exists_of_append
      obtain ⟨list', rfl, sameList⟩ := sameInside.exists_of_mark (by decide)
      obtain ⟨gap', rfl, sameGap'⟩ := sameBack.exists_of_mark (by decide)
      obtain rfl := sameOpening.eq_of_marks marks
      obtain rfl := sameClosing.eq_of_marks marks'
      exact .typed here (sameGap.allBlank_eq ▸ blank) (orList_of_sameLetters sameList list)
        (sameGap'.allBlank_eq ▸ blank')

/-! ## Chains -/

theorem exists_hopsText {hops : List Hop} (same : SameLetters xs ys) (denoted : HopsText LinkText xs hops) :
    ∃ hops', HopsText LinkText ys hops' ∧ List.Forall₂ Hop.Alike hops hops' := by
  induction denoted generalizing ys with
  | done =>
      obtain rfl := same.eq_nil
      exact ⟨[], .done, .nil⟩
  | hop blank spells blank' node _ ih =>
      obtain ⟨front, back, rfl, sameFront, sameBack⟩ := same.exists_of_append
      obtain ⟨text, group, rfl, sameText, sameGroup⟩ := sameFront.exists_of_append
      obtain ⟨start, gap', rfl, sameStart, sameGap'⟩ := sameText.exists_of_append
      obtain ⟨gap, link, rfl, sameGap, sameLink⟩ := sameStart.exists_of_append
      obtain ⟨body, rfl, sameBody⟩ := sameGroup.exists_of_mark (by decide)
      obtain ⟨rest, rfl, sameRest⟩ := sameBack.exists_of_mark (by decide)
      obtain ⟨n, node', alike⟩ := exists_nodeText sameBody.trim node
      obtain ⟨hops', denoted', later⟩ := ih sameRest
      exact ⟨_, .hop (sameGap.allBlank_eq ▸ blank) (linkText_of_sameLetters sameLink spells)
        (sameGap'.allBlank_eq ▸ blank') node' denoted', .cons ⟨rfl, alike⟩ later⟩

/-- **A chain in other letter case is a chain alike.** -/
theorem exists_chainText {c : Chain} (same : SameLetters xs ys) (denoted : ChainText LinkText xs c) :
    ∃ c', ChainText LinkText ys c' ∧ c.Alike c' := by
  cases denoted with
  | chain node hops =>
      obtain ⟨front, back, rfl, sameFront, sameBack⟩ := same.exists_of_append
      obtain ⟨body, rfl, sameBody⟩ := sameFront.exists_of_mark (by decide)
      obtain ⟨rest, rfl, sameRest⟩ := sameBack.exists_of_mark (by decide)
      obtain ⟨head, node', alike⟩ := exists_nodeText sameBody.trim node
      obtain ⟨hops', denoted', later⟩ := exists_hopsText sameRest hops
      exact ⟨_, .chain node' denoted', alike, later⟩

/-! ## Queries -/

/-- The steps of reading a query: the mark, the chain and its anchor. -/
theorem parseQuery_eq_ok_iff_steps {text : String} {c : Chain} : parseQuery text = .ok c ↔
    ∃ body, trim text.toList = '?' :: body ∧ readChain readQueryLink body = .ok c ∧
      c.checkQuery = .ok () := by
  unfold parseQuery
  split
  · next body sigil =>
      simp only [bind_eq_ok_iff, sigil, List.cons.injEq, true_and, exists_eq_left']
      constructor
      · rintro ⟨c', read, ⟨⟩, checked, done⟩
        obtain rfl := Except.ok.inj done
        exact ⟨read, checked⟩
      · rintro ⟨read, checked⟩
        exact ⟨c, read, (), checked, rfl⟩
  · next noSigil =>
      constructor
      · nofun
      · rintro ⟨body, sigil, -⟩
        exact absurd sigil (noSigil body)

theorem Chain.Alike.checkQuery {c c' : Chain} (alike : c.Alike c') (checked : c.checkQuery = .ok ()) :
    c'.checkQuery = .ok () := by
  have isAnchor (n : Node) : n ≠ .hidden ∧ n ≠ .any ↔ n.role ≠ .hidden ∧ n.role ≠ .any := by
    cases n <;> simp [Node.role]
  rw [checkQuery_eq_ok_iff, isAnchor] at checked ⊢
  rwa [← alike.head.role]

/-- **A query in other letter case is a query alike.** -/
theorem exists_parseQuery {p q : String} (same : SameLetters p.toList q.toList) {c : Chain}
    (read : parseQuery p = .ok c) : ∃ c', parseQuery q = .ok c' ∧ c.Alike c' := by
  obtain ⟨body, sigil, readBody, checked⟩ := parseQuery_eq_ok_iff_steps.mp read
  obtain ⟨before, core, after, blank, blank', denoted, rfl⟩ := readQueryChain_eq_ok_iff.mp readBody
  obtain ⟨body', sigil', sameBody⟩ := SameLetters.exists_of_mark (by decide) (sigil ▸ same.trim)
  obtain ⟨front, gap', rfl, sameFront, sameGap'⟩ := sameBody.exists_of_append
  obtain ⟨gap, core', rfl, sameGap, sameCore⟩ := sameFront.exists_of_append
  obtain ⟨c', denoted', alike⟩ := exists_chainText sameCore denoted
  have readBody' := readQueryChain_eq_ok_iff.mpr ⟨gap, core', gap', sameGap.allBlank_eq ▸ blank,
    sameGap'.allBlank_eq ▸ blank', denoted', rfl⟩
  exact ⟨c', parseQuery_eq_ok_iff_steps.mpr ⟨_, sigil', readBody', alike.checkQuery checked⟩, alike⟩

end Trellis.Pattern
