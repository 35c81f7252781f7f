/-
# Trellis.Proofs.Pattern.Query — queries are read exactly by the grammar

The tables of the reader have the spellings of the grammar, and brackets are found where
the grammar puts them; so a trimmed link is read exactly when the grammar has it
(`readQueryLink_eq_ok_iff`). Links and nodes carry over to chains in any dialect whose
links are read exactly (`readChain_eq_ok_iff`), and a query is a chain after its question
mark that starts at an anchor (`parseQuery_eq_ok_iff`). White space may stand around
links, and also between the question mark and the first node.
-/
import Trellis.Pattern.Query
import Trellis.Proofs.Pattern.Node

namespace Trellis.Pattern

set_option autoImplicit false

open Text Grammar
open Token (IsLinkText)

variable {text link : List Char}

/-! ## Spellings -/

theorem shortBonds_of_mem :
    ∀ entry ∈ shortSpellings, shortBonds? entry.1.toList = some entry.2 := by decide

theorem typedBonds_of_mem : ∀ entry ∈ typedSpellings,
    typedBonds? entry.1.1.toList entry.1.2.toList = some entry.2 := by decide

theorem shortBonds_eq_some_iff {bonds : Bonds} : shortBonds? link = some bonds ↔
    ∃ spelling : String, (spelling, bonds) ∈ shortSpellings ∧ spelling.toList = link := by
  constructor
  · intro found
    unfold shortBonds? at found
    split at found <;> cases found
    · exact ⟨"-", by decide, rfl⟩
    · exact ⟨"<->", by decide, rfl⟩
    · exact ⟨"->", by decide, rfl⟩
    · exact ⟨"<-", by decide, rfl⟩
    · exact ⟨"=", by decide, rfl⟩
    · exact ⟨"<=>", by decide, rfl⟩
    · exact ⟨"=>", by decide, rfl⟩
    · exact ⟨"<=", by decide, rfl⟩
  · rintro ⟨spelling, here, rfl⟩
    exact shortBonds_of_mem _ here

theorem typedBonds_eq_some_iff {opening closing : List Char} {bonds : Bonds} :
    typedBonds? opening closing = some bonds ↔ ∃ spelling : String × String,
      (spelling, bonds) ∈ typedSpellings ∧
        spelling.1.toList = opening ∧ spelling.2.toList = closing := by
  constructor
  · intro found
    unfold typedBonds? at found
    split at found <;> cases found
    · exact ⟨("-", "-"), by decide, rfl, rfl⟩
    · exact ⟨("<-", "->"), by decide, rfl, rfl⟩
    · exact ⟨("-", "->"), by decide, rfl, rfl⟩
    · exact ⟨("<-", "-"), by decide, rfl, rfl⟩
    · exact ⟨("=", "="), by decide, rfl, rfl⟩
    · exact ⟨("<=", "=>"), by decide, rfl, rfl⟩
    · exact ⟨("=", "=>"), by decide, rfl, rfl⟩
    · exact ⟨("<=", "="), by decide, rfl, rfl⟩
  · rintro ⟨spelling, here, rfl, rfl⟩
    exact typedBonds_of_mem _ here

/-- Brackets are found where they first stand, if no other one opens in between. -/
theorem brackets_eq_some_iff {before inner after : List Char} :
    brackets? link = some (before, inner, after) ↔
      '[' ∉ before ∧ ']' ∉ inner ∧ '[' ∉ inner ∧
        link = before ++ '[' :: inner ++ ']' :: after := by
  constructor
  · intro found
    rcases span_cases '[' link with cut | ⟨front, rest, free, rfl, cut⟩
    · rw [brackets?, cut] at found
      cases found
    rcases span_cases ']' rest with cut' | ⟨middle, back, free', rfl, cut'⟩
    · simp only [brackets?, cut, cut'] at found
      cases found
    · simp only [brackets?, cut, cut', Option.ite_none_left_eq_some] at found
      obtain ⟨single, ⟨⟩⟩ := found
      exact ⟨free, free', by simpa using single, by simp⟩
  · rintro ⟨free, free', single, rfl⟩
    rw [List.append_assoc, List.cons_append]
    simp only [brackets?, span_append free, span_append free']
    simp [single]

/-- Something that is trimmed and has no mark. -/
structure IsSpelling (spelling : List Char) : Prop where
  ne_nil : spelling ≠ []
  trimmed : isTrimmed spelling = true
  free : ∀ mark ∈ marks, mark ∉ spelling

theorem isSpelling_iff {spelling : List Char} : IsSpelling spelling ↔
    (spelling ≠ [] && isTrimmed spelling && marks.all (!spelling.contains ·)) = true := by
  simp only [Bool.and_eq_true, decide_eq_true_eq, List.all_eq_true, Bool.not_eq_true',
    List.contains_eq_mem, decide_eq_false_iff_not]
  constructor
  · rintro ⟨ne_nil, trimmed, free⟩
    exact ⟨⟨ne_nil, trimmed⟩, free⟩
  · rintro ⟨⟨ne_nil, trimmed⟩, free⟩
    exact ⟨ne_nil, trimmed, free⟩

instance (spelling : List Char) : Decidable (IsSpelling spelling) :=
  decidable_of_iff _ isSpelling_iff.symm

theorem isSpelling_of_short : ∀ entry ∈ shortSpellings, IsSpelling entry.1.toList := by
  decide +kernel

theorem isSpelling_of_typed : ∀ entry ∈ typedSpellings,
    IsSpelling entry.1.1.toList ∧ IsSpelling entry.1.2.toList := by
  decide +kernel

/-! ## Links -/

/-- What denotes a link may be the text of a link. -/
theorem isLinkText_of_linkText {l : Link} (denoted : LinkText link l) : IsLinkText link := by
  cases denoted with
  | short here =>
      have plain := isSpelling_of_short _ here
      exact ⟨plain.trimmed, plain.ne_nil, plain.free '(' (by decide), plain.free ')' (by decide)⟩
  | @typed opening closing style left right before list after types here blank denoted blank' =>
      have ⟨plain, plain'⟩ := isSpelling_of_typed _ here
      have outside : ∀ mark ∈ marks, mark ≠ '[' → mark ≠ ']' →
          mark ∉ opening.toList ++ before ++ '[' :: list ++ ']' :: after ++ closing.toList := by
        intro mark isMark notOpen notClose
        simp [plain.free mark isMark, free_of_allBlank blank mark isMark, notOpen,
          denoted.not_mem isMark, notClose, free_of_allBlank blank' mark isMark,
          plain'.free mark isMark]
      refine ⟨?_, by simp, outside '(' (by decide) (by decide) (by decide),
        outside ')' (by decide) (by decide) (by decide)⟩
      simpa using isTrimmed_append plain.trimmed (before ++ '[' :: list ++ ']' :: after)
        plain'.trimmed plain.ne_nil plain'.ne_nil

/-- What stands before and after the brackets of a link has white space beside them only. -/
theorem typedBonds_trim_eq_some_iff {before inner after : List Char} {bonds : Bonds}
    (trimmed : isTrimmed (before ++ '[' :: inner ++ ']' :: after) = true) :
    typedBonds? (trim before) (trim after) = some bonds ↔
      ∃ (spelling : String × String) (gap gap' : List Char),
        (spelling, bonds) ∈ typedSpellings ∧ allBlank gap = true ∧ allBlank gap' = true ∧
          before = spelling.1.toList ++ gap ∧ after = gap' ++ spelling.2.toList := by
  have front : isTrimmed (before ++ ('[' :: inner ++ ']' :: after)) = true := by
    simpa using trimmed
  have back : isTrimmed ((before ++ '[' :: inner ++ [']']) ++ after) = true := by
    simpa using trimmed
  rw [typedBonds_eq_some_iff]
  constructor
  · rintro ⟨spelling, here, opens, closes⟩
    obtain ⟨-, gap, blank, whole⟩ := (trim_front_eq_iff front).mp opens.symm
    obtain ⟨-, gap', blank', whole'⟩ := (trim_back_eq_iff back).mp closes.symm
    exact ⟨spelling, gap, gap', here, blank, blank', whole, whole'⟩
  · rintro ⟨spelling, gap, gap', here, blank, blank', whole, whole'⟩
    have ⟨opening, closing⟩ := isSpelling_of_typed _ here
    exact ⟨spelling, here, ((trim_front_eq_iff front).mpr ⟨opening.trimmed, gap, blank, whole⟩).symm,
      ((trim_back_eq_iff back).mpr ⟨closing.trimmed, gap', blank', whole'⟩).symm⟩

theorem linkText_of_readTypedLink {l : Link} (trimmed : isTrimmed link = true)
    (read : readTypedLink link = .ok l) : LinkText link l := by
  unfold readTypedLink at read
  split at read
  · cases read
  next before inner after found =>
  obtain ⟨-, -, -, rfl⟩ := brackets_eq_some_iff.mp found
  split at read
  · cases read
  next style left right known =>
  obtain ⟨spelling, gap, gap', here, blank, blank', rfl, rfl⟩ :=
    (typedBonds_trim_eq_some_iff trimmed).mp known
  split at read
  · cases read
  obtain ⟨types, readTypes, rfl⟩ := map_eq_ok_iff.mp read
  have denoted := LinkText.typed here blank (readOrList_eq_ok_iff.mp readTypes) blank'
  simpa using denoted

theorem readTypedLink_of_linkText {opening closing : String} {style : LinkStyle}
    {left right : Bool} {gap list gap' : List Char} {types : List String}
    (trimmed : isTrimmed ((opening.toList ++ gap) ++ '[' :: list ++ ']' ::
      (gap' ++ closing.toList)) = true)
    (here : ((opening, closing), style, left, right) ∈ typedSpellings)
    (blank : allBlank gap = true) (denoted : OrList list types) (blank' : allBlank gap' = true) :
    readTypedLink ((opening.toList ++ gap) ++ '[' :: list ++ ']' :: (gap' ++ closing.toList)) =
      .ok ⟨.typed, style, left, right, types, .anyOf⟩ := by
  have free : '[' ∉ opening.toList ++ gap := by
    rw [List.mem_append]
    rintro (inside | inGap)
    · exact (isSpelling_of_typed _ here).1.free '[' (by decide) inside
    · exact free_of_allBlank blank '[' (by decide) inGap
  have found : brackets? ((opening.toList ++ gap) ++ '[' :: list ++ ']' ::
      (gap' ++ closing.toList)) = some (opening.toList ++ gap, list, gap' ++ closing.toList) :=
    brackets_eq_some_iff.mpr
      ⟨free, denoted.not_mem (by decide), denoted.not_mem (by decide), rfl⟩
  have known := (typedBonds_trim_eq_some_iff trimmed).mpr
    ⟨(opening, closing), gap, gap', here, blank, blank', rfl, rfl⟩
  rw [readTypedLink, found]
  dsimp only
  rw [known]
  simp [denoted.not_allBlank, readOrList_eq_ok_iff.mpr denoted]

/-- **A link is read exactly when the grammar has it.** -/
theorem readQueryLink_eq_ok_iff {l : Link} (trimmed : isTrimmed link = true) :
    readQueryLink link = .ok l ↔ LinkText link l := by
  constructor
  · intro read
    unfold readQueryLink at read
    split at read
    · exact linkText_of_readTypedLink trimmed read
    unfold readShortLink at read
    split at read
    · next style left right known =>
        obtain rfl := Except.ok.inj read
        obtain ⟨spelling, here, rfl⟩ := shortBonds_eq_some_iff.mp known
        exact .short here
    · cases read
  · intro denoted
    cases denoted with
    | @short spelling style left right here =>
        have noBracket : spelling.toList.contains '[' = false := by
          simpa using (isSpelling_of_short _ here).free '[' (by decide)
        rw [readQueryLink, noBracket, if_neg Bool.false_ne_true, readShortLink,
          shortBonds_of_mem _ here]
    | typed here blank denoted blank' =>
        rw [readQueryLink, if_pos (by simp)]
        simpa using readTypedLink_of_linkText (by simpa using trimmed) here blank denoted blank'

/-! ## Chains -/

section Dialect

variable {readLink : List Char → Except PatternError Link}

/-- The readings of the hops of a skeleton are the readings of their links and nodes. -/
theorem readHops_eq_ok_iff {raw : List (List Char × List Char)} {hops : List Hop} :
    (raw.mapM fun (link, body) => do return (⟨← readLink link, ← readNode body⟩ : Hop)) = .ok hops ↔
      List.Forall₂ (fun r hop => readLink r.1 = .ok hop.link ∧ readNode r.2 = .ok hop.node)
        raw hops := by
  have single : ∀ (r : List Char × List Char) (hop : Hop),
      (do return (⟨← readLink r.1, ← readNode r.2⟩ : Hop)) = .ok hop ↔
        readLink r.1 = .ok hop.link ∧ readNode r.2 = .ok hop.node := by
    intro r hop
    simp only [bind_eq_ok_iff]
    constructor
    · rintro ⟨l, readThis, n, readThat, done⟩
      obtain rfl := Except.ok.inj done
      exact ⟨readThis, readThat⟩
    · rintro ⟨readThis, readThat⟩
      exact ⟨hop.link, readThis, hop.node, readThat, rfl⟩
  rw [mapM_eq_ok_iff]
  exact iff_of_eq (congrArg (List.Forall₂ · raw hops) (funext₂ fun r hop => propext (single r hop)))

variable {Spells : List Char → Link → Prop}
  (reads : ∀ link l, IsLinkText link → (readLink link = .ok l ↔ Spells link l))
  (isLinkText : ∀ link l, Spells link l → IsLinkText link)
include reads isLinkText

/-- By the hops of the text, which a skeleton and the grammar lay out alike. -/
theorem hopsText_iff {hops : List Hop} : HopsText Spells text hops ↔
    ∃ raw, Skeleton.Laid text raw ∧
      List.Forall₂ (fun r hop => readLink r.1 = .ok hop.link ∧ readNode r.2 = .ok hop.node)
        raw hops := by
  constructor
  · intro denoted
    induction denoted with
    | done => exact ⟨[], .done, .nil⟩
    | @hop before link after body rest l n hops blank spells blank' node _ ih =>
        obtain ⟨raw, laid, readRest⟩ := ih
        have isText := isLinkText link l spells
        exact ⟨(link, body) :: raw, .hop blank isText blank' (enclosed_of_trim node) laid,
          .cons ⟨(reads link l isText).mpr spells, readNode_eq_ok_iff.mpr node⟩ readRest⟩
  · rintro ⟨raw, laid, readAll⟩
    induction laid generalizing hops with
    | done =>
        cases readAll
        exact .done
    | @hop before link after body rest raw blank isText blank' _ _ ih =>
        cases readAll with
        | @cons _ hop _ hops this later =>
            exact .hop blank ((reads link _ isText).mp this.1) blank'
              (readNode_eq_ok_iff.mp this.2) (ih later)

/-- **A chain is read exactly when the grammar has it**, with white space at the ends. -/
theorem readChain_eq_ok_iff {c : Chain} : readChain readLink text = .ok c ↔
    ∃ before body after, allBlank before = true ∧ allBlank after = true ∧
      ChainText Spells body c ∧ text = before ++ body ++ after := by
  simp only [readChain, bind_eq_ok_iff, readHops_eq_ok_iff, Skeleton.ofText_eq_ok_iff]
  constructor
  · rintro ⟨⟨body, raw⟩, ⟨before, core, after, blank, blank', _, laid, rfl⟩, hops, readHops,
      head, readHead, done⟩
    obtain rfl := Except.ok.inj done
    have denoted := (hopsText_iff reads isLinkText).mpr ⟨raw, laid, readHops⟩
    exact ⟨before, _, after, blank, blank', .chain (readNode_eq_ok_iff.mp readHead) denoted, by simp⟩
  · rintro ⟨before, _, after, blank, blank', ⟨node, denoted⟩, rfl⟩
    obtain ⟨raw, laid, readHops⟩ := (hopsText_iff reads isLinkText).mp denoted
    exact ⟨⟨_, raw⟩, ⟨before, _, after, blank, blank', enclosed_of_trim node, laid, by simp⟩,
      _, readHops, _, readNode_eq_ok_iff.mpr node, rfl⟩

/-- The same of a text without white space at its ends. -/
theorem readChain_eq_ok_iff_of_isTrimmed (trimmed : isTrimmed text = true) {c : Chain} :
    readChain readLink text = .ok c ↔ ChainText Spells text c := by
  rw [readChain_eq_ok_iff reads isLinkText]
  constructor
  · rintro ⟨before, body, after, blank, blank', denoted, rfl⟩
    obtain rfl := eq_nil_of_isTrimmed_append trimmed blank'
    rw [List.append_nil] at trimmed ⊢
    obtain rfl := eq_nil_of_isTrimmed_append_left trimmed blank
    exact denoted
  · exact fun denoted => ⟨[], text, [], rfl, rfl, denoted, by simp⟩

end Dialect

/-! ## Queries -/

theorem readQueryChain_eq_ok_iff {c : Chain} : readChain readQueryLink text = .ok c ↔
    ∃ before body after, allBlank before = true ∧ allBlank after = true ∧
      ChainText LinkText body c ∧ text = before ++ body ++ after :=
  readChain_eq_ok_iff (fun _ _ isText => readQueryLink_eq_ok_iff isText.trimmed)
    fun _ _ denoted => isLinkText_of_linkText denoted

/-- The grammar is unambiguous: a text denotes at most one chain. -/
theorem chainText_unique {c c' : Chain} (denoted : ChainText LinkText text c)
    (denoted' : ChainText LinkText text c') : c = c' := by
  have read := readQueryChain_eq_ok_iff.mpr ⟨[], text, [], rfl, rfl, denoted, rfl⟩
  have read' := readQueryChain_eq_ok_iff.mpr ⟨[], text, [], rfl, rfl, denoted', rfl⟩
  exact Except.ok.inj (read.symm.trans read')

theorem checkQuery_eq_ok_iff {c : Chain} :
    c.checkQuery = .ok () ↔ c.head ≠ .hidden ∧ c.head ≠ .any := by
  obtain ⟨head, hops⟩ := c
  cases head <;> cases hops <;> simp [Chain.checkQuery, Node.isAnchor, Chain.isSingleNode]

/-- A chain of the grammar behind a question mark is read as a query. -/
theorem parseQuery_of_chainText {text : String} {body : List Char} {c : Chain}
    (whole : trim text.toList = '?' :: body) (denoted : ChainText LinkText body c)
    (anchored : c.head ≠ .hidden ∧ c.head ≠ .any) : parseQuery text = .ok c := by
  have read : readChain readQueryLink body = .ok c :=
    readQueryChain_eq_ok_iff.mpr ⟨[], body, [], rfl, rfl, denoted, by simp⟩
  have checked := checkQuery_eq_ok_iff.mpr anchored
  simp only [parseQuery, whole, read, checked, bind, Except.bind]
  rfl

/-- **The texts that are queries, and what they denote.** -/
theorem parseQuery_eq_ok_iff (text : String) (c : Chain) : parseQuery text = .ok c ↔
    ∃ gap body, trim text.toList = '?' :: gap ++ body ∧ allBlank gap = true ∧
      ChainText LinkText body c ∧ c.head ≠ .hidden ∧ c.head ≠ .any := by
  have trimmed := isTrimmed_trim text.toList
  unfold parseQuery
  split
  · next body sigil =>
      rw [sigil] at trimmed ⊢
      simp only [bind_eq_ok_iff, readQueryChain_eq_ok_iff]
      constructor
      · rintro ⟨c', ⟨gap, core, after, blank, blank', denoted, rfl⟩, ⟨⟩, anchored, done⟩
        obtain rfl := Except.ok.inj done
        have back : isTrimmed (('?' :: gap ++ core) ++ after) = true := by simpa using trimmed
        obtain rfl := eq_nil_of_isTrimmed_append back blank'
        exact ⟨gap, core, by simp, blank, denoted, checkQuery_eq_ok_iff.mp anchored⟩
      · rintro ⟨gap, core, whole, blank, denoted, anchored⟩
        obtain rfl : body = gap ++ core := by simpa using whole
        exact ⟨c, ⟨gap, core, [], blank, rfl, denoted, by simp⟩, (),
          checkQuery_eq_ok_iff.mpr anchored, rfl⟩
  · next noSigil =>
      constructor
      · nofun
      · rintro ⟨gap, body, whole, -⟩
        exact absurd whole (noSigil _)

example : parseQuery "?('db (old)' : T2 or t1) <=[e]= ()" = .ok
    ⟨.describedTyped "db (old)" ["t1", "t2"],
      [⟨⟨.typed, .path, true, false, ["e"], .anyOf⟩, .hidden⟩]⟩ := by rfl

/-- White space before the first node is none around a link, and yet it is passed over. -/
theorem parseQuery_gap_before_head :
    parseQuery "? (a)" = .ok ⟨.typed ["a"], []⟩ ∧
      ∀ body c, trim "? (a)".toList = '?' :: body → ¬ChainText LinkText body c := by
  refine ⟨by rfl, fun body c whole denoted => ?_⟩
  have trimmed : trim "? (a)".toList = ['?', ' ', '(', 'a', ')'] := by decide
  obtain rfl := (List.cons.inj (whole.symm.trans trimmed)).2
  generalize same : [' ', '(', 'a', ')'] = text at denoted
  cases denoted
  cases same

end Trellis.Pattern
