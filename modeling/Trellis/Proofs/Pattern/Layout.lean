/-
# Trellis.Proofs.Pattern.Layout — how a text that splits is laid out

A layout is a text taken apart: link texts without parentheses in turn with the insides of
groups, each balanced, which means that it has an even number of quotes and no parenthesis
but behind an odd number of them. The splitter finds the layout of a text exactly when it
has one. Its tokens are the pieces of the layout in order, the insides of groups as they
stand, the link texts trimmed, and the blank ones left out; so the text is the tokens as
they are written with white space put back between them.

A group that was split off holds an even number of quotes. A search term that opens in it
is therefore closed in it, and no reader that splits its text first ever meets one that is
not (`termsClosed_parseQuery` and its siblings for the halves of a rule).
-/
import Mathlib.Algebra.Ring.Parity
import Trellis.Pattern.Rule
import Trellis.Proofs.Pattern.Node
import Trellis.Proofs.Pattern.Token

namespace Trellis.Pattern

set_option autoImplicit false

open Text

/-! ## Balanced insides -/

/-- An even number of quotes, and no parenthesis but behind an odd number of them. -/
structure Balanced (body : List Char) : Prop where
  even : Even (body.count '\'')
  sheltered : ∀ front c back, body = front ++ c :: back → c = '(' ∨ c = ')' →
    Odd (front.count '\'')

/-- The same of a text behind a point where a search term is open or not: one that is
open counts as a quote. -/
@[mk_iff]
structure BalancedFrom (quoted : Bool) (body : List Char) : Prop where
  even : Even (quoted.toNat + body.count '\'')
  sheltered : ∀ front c back, body = front ++ c :: back → c = '(' ∨ c = ')' →
    Odd (quoted.toNat + front.count '\'')

variable {quoted : Bool} {c : Char} {body text : List Char}

/-- What holds wherever a text is cut before a character, by the first character. -/
theorem forall_cut_cons {holds : List Char → Char → Prop} :
    (∀ front d back, c :: body = front ++ d :: back → holds front d) ↔
      holds [] c ∧ ∀ front d back, body = front ++ d :: back → holds (c :: front) d := by
  constructor
  · intro everywhere
    refine ⟨everywhere [] c body rfl, fun front d back cut => ?_⟩
    exact everywhere (c :: front) d back (by rw [cut]; rfl)
  · rintro ⟨first, later⟩ front d back cut
    cases front with
    | nil =>
        obtain ⟨rfl, -⟩ := List.cons.inj cut
        exact first
    | cons e front =>
        obtain ⟨rfl, rest⟩ := List.cons.inj cut
        exact later front d back rest

theorem even_quote_iff (quoted : Bool) (n : Nat) :
    Even (quoted.toNat + (n + 1)) ↔ Even ((!quoted).toNat + n) := by
  cases quoted <;> simp [Nat.even_add_one, Nat.add_comm 1]

theorem odd_quote_iff (quoted : Bool) (n : Nat) :
    Odd (quoted.toNat + (n + 1)) ↔ Odd ((!quoted).toNat + n) := by
  rw [← Nat.not_even_iff_odd, even_quote_iff, Nat.not_even_iff_odd]

namespace BalancedFrom

theorem nil : BalancedFrom false [] := ⟨by simp, by simp⟩

theorem quote_iff :
    BalancedFrom quoted ('\'' :: body) ↔ BalancedFrom (!quoted) body := by
  rw [balancedFrom_iff, balancedFrom_iff, forall_cut_cons]
  simp only [List.count_cons_self, even_quote_iff, odd_quote_iff]
  have noParen : ¬('\'' = '(' ∨ '\'' = ')') := by decide
  simp only [noParen, false_imp_iff, true_and]

theorem text_iff (noQuote : c ≠ '\'') : BalancedFrom quoted (c :: body) ↔
    (quoted = false → c ≠ '(' ∧ c ≠ ')') ∧ BalancedFrom quoted body := by
  rw [balancedFrom_iff, balancedFrom_iff, forall_cut_cons]
  simp only [List.count_cons_of_ne noQuote, List.count_nil, Nat.add_zero]
  have first : (c = '(' ∨ c = ')' → Odd quoted.toNat) ↔
      (quoted = false → c ≠ '(' ∧ c ≠ ')') := by
    cases quoted <;> simp [not_or]
  rw [first]
  exact and_left_comm

/-- What the scanner lets pass inside a group is what is balanced. -/
theorem iff_enclosed : BalancedFrom quoted body ↔ Enclosed quoted body := by
  constructor
  · intro balanced
    induction body generalizing quoted with
    | nil =>
        cases quoted with
        | false => exact .done
        | true => exact absurd balanced.even (by simp)
    | cons c body ih =>
        by_cases isQuote : c = '\''
        · subst isQuote
          exact .quote (ih (quote_iff.mp balanced))
        · obtain ⟨noParen, later⟩ := (text_iff isQuote).mp balanced
          exact .text isQuote noParen (ih later)
  · intro enclosed
    induction enclosed with
    | done => exact .nil
    | quote _ ih => exact quote_iff.mpr ih
    | text noQuote noParen _ ih => exact (text_iff noQuote).mpr ⟨noParen, ih⟩

end BalancedFrom

theorem balanced_iff_enclosed : Balanced body ↔ Enclosed false body := by
  rw [← BalancedFrom.iff_enclosed]
  constructor
  · rintro ⟨even, sheltered⟩
    exact ⟨by simpa using even, by simpa using sheltered⟩
  · rintro ⟨even, sheltered⟩
    exact ⟨by simpa using even, by simpa using sheltered⟩

/-! ## Layouts -/

namespace Token

/-- A token as it stands in a text. -/
def written : Token → List Char
  | .node body => '(' :: body ++ [')']
  | .link text => text

/-- A piece of a text as a token: nodes as they are, links trimmed, blank ones dropped. -/
def tidy : Token → Option Token
  | .node body => some (.node body)
  | .link text => if trim text = [] then none else some (.link (trim text))

/-- No two links side by side. -/
def Alternate (tokens : List Token) : Prop :=
  tokens.IsChain fun t t' => ∀ link link', ¬(t = .link link ∧ t' = .link link')

/-- The tokens as they are written, with white space before, between and after them. -/
inductive Writes : List Token → List Char → Prop
  | done {gap : List Char} : allBlank gap = true → Writes [] gap
  | token {gap rest : List Char} {t : Token} {tokens : List Token} :
      allBlank gap = true → Writes tokens rest → Writes (t :: tokens) (gap ++ t.written ++ rest)

end Token

/-- Link texts without parentheses in turn with balanced groups. -/
structure Layout where
  /-- The groups by their insides, each with the link text before it. -/
  groups : List (List Char × List Char)
  /-- The link text behind the last group. -/
  last : List Char
  plain : ∀ group ∈ groups, '(' ∉ group.1 ∧ ')' ∉ group.1
  plain_last : '(' ∉ last ∧ ')' ∉ last
  balanced : ∀ group ∈ groups, Balanced group.2

namespace Layout

/-- Links and nodes in order. -/
def pieces (l : Layout) : List Token :=
  l.groups.flatMap (fun group => [.link group.1, .node group.2]) ++ [.link l.last]

def written (l : Layout) : List Char := l.pieces.flatMap (·.written)

def tokens (l : Layout) : List Token := l.pieces.filterMap (·.tidy)

end Layout

namespace Token

variable {tokens : List Token}

theorem tidy_link_toList (link : List Char) : (tidy (.link link)).toList = ofLink link := by
  cases blank : allBlank link with
  | true => simp [tidy, ofLink, blank, (trim_eq_nil_iff link).mpr blank]
  | false =>
      have solid : trim link ≠ [] := fun none_ => by simp [(trim_eq_nil_iff link).mp none_] at blank
      simp [tidy, ofLink, blank, solid]

theorem filterMap_tidy_link (link : List Char) (pieces : List Token) :
    (.link link :: pieces).filterMap tidy = ofLink link ++ pieces.filterMap tidy := by
  rw [← tidy_link_toList, List.filterMap_cons]
  cases tidy (.link link) <;> rfl

theorem filterMap_tidy_node (body : List Char) (pieces : List Token) :
    (.node body :: pieces).filterMap tidy = .node body :: pieces.filterMap tidy := rfl

/-- A text splits as it is laid out. -/
theorem splits_iff_layout :
    Splits text tokens ↔ ∃ l : Layout, l.written = text ∧ l.tokens = tokens := by
  constructor
  · intro splits
    induction splits with
    | @last link noOpen noClose =>
        refine ⟨⟨[], link, by simp, ⟨noOpen, noClose⟩, by simp⟩, ?_, ?_⟩
        · simp [Layout.written, Layout.pieces, written]
        · simp [Layout.tokens, Layout.pieces, filterMap_tidy_link]
    | @group link body rest tokens noOpen noClose enclosed _ ih =>
        obtain ⟨⟨groups, last, plain, plain_last, balanced⟩, rfl, rfl⟩ := ih
        refine ⟨⟨(link, body) :: groups, last, ?_, plain_last, ?_⟩, ?_, ?_⟩
        · exact List.forall_mem_cons.mpr ⟨⟨noOpen, noClose⟩, plain⟩
        · exact List.forall_mem_cons.mpr ⟨balanced_iff_enclosed.mpr enclosed, balanced⟩
        · simp [Layout.written, Layout.pieces, written]
        · simp [Layout.tokens, Layout.pieces, filterMap_tidy_link, filterMap_tidy_node]
  · rintro ⟨⟨groups, last, plain, plain_last, balanced⟩, rfl, rfl⟩
    induction groups with
    | nil =>
        have splits := Splits.last plain_last.1 plain_last.2
        simpa [Layout.written, Layout.tokens, Layout.pieces, written, filterMap_tidy_link]
          using splits
    | cons group groups ih =>
        obtain ⟨link, body⟩ := group
        obtain ⟨⟨noOpen, noClose⟩, plain⟩ := List.forall_mem_cons.mp plain
        obtain ⟨isBalanced, balanced⟩ := List.forall_mem_cons.mp balanced
        have splits := Splits.group noOpen noClose (balanced_iff_enclosed.mp isBalanced)
          (ih plain balanced)
        simpa [Layout.written, Layout.tokens, Layout.pieces, written, filterMap_tidy_link,
          filterMap_tidy_node] using splits

/-! ## White space put back -/

/-- More white space may come first. -/
theorem Writes.gap_append {gap : List Char} (blank : allBlank gap = true)
    (later : Writes tokens text) : Writes tokens (gap ++ text) := by
  cases later with
  | done blank' => exact .done (by simp [blank, blank'])
  | @token gap' rest t tokens blank' later =>
      have blankBoth : allBlank (gap ++ gap') = true := by simp [blank, blank']
      have whole := Writes.token (t := t) blankBoth later
      simpa using whole

/-- Pieces of a text are its tokens when they are tidied, apart from white space. -/
theorem writes_filterMap_tidy (pieces : List Token) :
    Writes (pieces.filterMap tidy) (pieces.flatMap written) := by
  induction pieces with
  | nil => exact .done rfl
  | cons piece pieces ih =>
      cases piece with
      | node body =>
          rw [filterMap_tidy_node, List.flatMap_cons]
          have noGap : allBlank [] = true := rfl
          exact .token noGap ih
      | link link =>
          obtain ⟨-, before, after, blank, blank', whole⟩ :=
            trim_eq_iff.mp (rfl : trim link = trim link)
          rw [List.flatMap_cons, written, List.filterMap_cons]
          have behind := ih.gap_append blank'
          by_cases none_ : trim link = []
          · rw [tidy, if_pos none_]
            exact ih.gap_append ((trim_eq_nil_iff link).mp none_)
          · rw [tidy, if_neg none_]
            have token := Writes.token (t := .link (trim link)) blank behind
            rw [written, ← List.append_assoc, ← whole] at token
            exact token

theorem alternate_node_cons (later : Alternate tokens) : Alternate (.node body :: tokens) := by
  cases tokens with
  | nil => exact .singleton _
  | cons t tokens => exact List.isChain_cons_cons.mpr ⟨fun _ _ => nofun, later⟩

/-- Between two links there is a group. -/
theorem alternate_of_splits (splits : Splits text tokens) : Alternate tokens := by
  induction splits with
  | @last link _ _ =>
      unfold ofLink
      split
      · exact .nil
      · exact .singleton _
  | @group link body rest tokens _ _ _ _ ih =>
      have fromNode : Alternate (.node body :: tokens) := alternate_node_cons ih
      unfold ofLink
      split
      · exact fromNode
      · exact List.isChain_cons_cons.mpr ⟨fun _ _ => nofun, fromNode⟩

end Token

/-! ## Search terms in groups are closed -/

/-- A reading that does not fail for a search term without a closing quote. -/
def TermsClosed {α : Type} (reading : Except PatternError α) : Prop :=
  ∀ body, reading ≠ .error (.unterminatedTerm body)

namespace TermsClosed

variable {α β : Type}

theorem ok (a : α) : TermsClosed (.ok a) := by
  intro body failed
  cases failed

theorem error {cause : PatternError} (other : ∀ body, cause ≠ .unterminatedTerm body) :
    TermsClosed (.error cause : Except PatternError α) := by
  intro body failed
  exact other body (Except.error.inj failed)

theorem bind {x : Except PatternError α} {f : α → Except PatternError β} (first : TermsClosed x)
    (next : ∀ a, x = .ok a → TermsClosed (f a)) : TermsClosed (x >>= f) := by
  cases x with
  | error cause => exact fun body failed => first body (congrArg _ (Except.error.inj failed))
  | ok a => exact next a rfl

theorem map {x : Except PatternError α} (f : α → β) (first : TermsClosed x) :
    TermsClosed (f <$> x) := by
  cases x with
  | error cause => exact fun body failed => first body (congrArg _ (Except.error.inj failed))
  | ok a => exact .ok _

theorem mapM {f : α → Except PatternError β} {xs : List α}
    (each : ∀ x ∈ xs, TermsClosed (f x)) : TermsClosed (xs.mapM f) := by
  intro body failed
  obtain ⟨before, x, after, rfl, -, rejected⟩ := exists_of_mapM_error failed
  exact each x (by simp) body rejected

end TermsClosed

theorem termsClosed_readTag (word : List Char) : TermsClosed (readTag word) := by
  unfold readTag
  split
  · exact .ok _
  · exact .error (by simp)

theorem termsClosed_readAlternatives (turn : Turn) (words : List (List Char)) :
    TermsClosed (readAlternatives turn words) := by
  induction turn, words using readAlternatives.induct with
  | case1 turn => simp only [readAlternatives]; exact .ok _
  | case2 word rest ih =>
      rw [readAlternatives]
      exact .bind (termsClosed_readTag word) fun tag _ => .bind ih fun _ _ => .ok _
  | case3 word rest isKeyword ih => rwa [readAlternatives, if_pos isKeyword]
  | case4 word rest noKeyword =>
      rw [readAlternatives, if_neg noKeyword]
      exact .error (by simp)

theorem termsClosed_readOrList (list : List Char) : TermsClosed (readOrList list) := by
  refine .bind (termsClosed_readAlternatives _ _) fun found _ => ?_
  dsimp only
  split
  · exact .error (by simp)
  · exact .ok _

theorem termsClosed_readCommaList (list : List Char) : TermsClosed (readCommaList list) := by
  unfold readCommaList
  split
  · exact .ok _
  · exact .map _ (.mapM fun word _ => termsClosed_readTag _)

/-- Where a search term opens in a balanced text, a second quote closes it. -/
theorem quote_mem_of_trim {rest : List Char} (balanced : Balanced body)
    (opens : trim body = '\'' :: rest) : '\'' ∈ rest := by
  obtain ⟨-, before, after, blank, blank', whole⟩ :=
    trim_eq_iff.mp (rfl : trim body = trim body)
  have noQuote := List.count_eq_zero.mpr (not_mem_of_allBlank blank (c := '\'') (by decide))
  have noQuote' := List.count_eq_zero.mpr (not_mem_of_allBlank blank' (c := '\'') (by decide))
  have counted : body.count '\'' = rest.count '\'' + 1 := by
    rw [whole, opens, List.count_append, List.count_append, noQuote, noQuote',
      List.count_cons_self]
    omega
  have even := balanced.even
  rw [counted] at even
  by_contra absent
  rw [List.count_eq_zero.mpr absent] at even
  exact absurd even (by decide)

theorem termsClosed_readDescribed {rest : List Char} (closes : '\'' ∈ rest) (body : List Char) :
    TermsClosed (readDescribed body rest) := by
  rcases span_cases '\'' rest with cut | ⟨term, after, -, rfl, cut⟩
  · obtain ⟨front, back, rfl, free⟩ := List.eq_append_cons_of_mem closes
    rw [span_append free] at cut
    exact absurd (Prod.ext_iff.mp cut).2 (by simp)
  · rw [readDescribed, cut]
    dsimp only
    split
    · exact .error (by simp)
    split
    · exact .ok _
    · exact .map _ (termsClosed_readOrList _)
    · exact .error (by simp)

theorem termsClosed_readNode (balanced : Balanced body) : TermsClosed (readNode body) := by
  unfold readNode
  split
  · exact .ok _
  · exact .ok _
  · next rest opens => exact termsClosed_readDescribed (quote_mem_of_trim balanced opens) _
  · exact .map _ (termsClosed_readOrList _)

/-- A text that was not split off may hold a search term that nothing closes. -/
example : readNode ['\'', 'a'] = .error (.unterminatedTerm "'a") := by rfl

/-! ### Texts in groups -/

theorem termsClosed_scan (region : Token.Region) (read cs : List Char) :
    TermsClosed (Token.scan region read cs) := by
  induction region, read, cs using Token.scan.induct with
  | case1 read => simp only [Token.scan]; exact .ok _
  | case2 quoted read => simp only [Token.scan]; exact .error (by simp)
  | case3 read cs ih => rw [Token.scan, if_pos rfl]; exact .map _ ih
  | case4 read cs notOpen =>
      rw [Token.scan, if_neg notOpen, if_pos rfl]
      exact .error (by simp)
  | case5 read c cs notOpen notClose ih => rwa [Token.scan, if_neg notOpen, if_neg notClose]
  | case6 quoted read cs ih => rwa [Token.scan, if_pos rfl]
  | case7 quoted read c cs notQuote opens =>
      rw [Token.scan, if_neg notQuote, if_pos opens]
      exact .error (by simp)
  | case8 quoted read c cs notQuote notOpen closes ih =>
      rw [Token.scan, if_neg notQuote, if_neg notOpen, if_pos closes]
      exact .map _ ih
  | case9 quoted read c cs notQuote notOpen notClose ih =>
      rwa [Token.scan, if_neg notQuote, if_neg notOpen, if_neg notClose]

theorem termsClosed_pairs (tokens : List Token) : TermsClosed (Skeleton.pairs tokens) := by
  induction tokens using Skeleton.pairs.induct with
  | case1 => exact .ok _
  | case2 => exact .error (by simp)
  | case3 link body rest ih => rw [Skeleton.pairs]; exact .map _ ih
  | case4 link rest lonely =>
      rw [Skeleton.pairs]
      · exact .error (by simp)
      · exact lonely

theorem termsClosed_ofTokens (tokens : List Token) : TermsClosed (Skeleton.ofTokens tokens) := by
  unfold Skeleton.ofTokens
  split
  · exact .error (by simp)
  · exact .error (by simp)
  · exact .map _ (termsClosed_pairs _)

theorem termsClosed_ofText (text : List Char) : TermsClosed (Skeleton.ofText text) :=
  .bind (termsClosed_scan _ _ _) fun tokens _ => termsClosed_ofTokens tokens

/-- The nodes of a skeleton are balanced. -/
theorem balanced_of_laid {hops : List (List Char × List Char)} (laid : Skeleton.Laid text hops) :
    ∀ hop ∈ hops, Balanced hop.2 := by
  induction laid with
  | done => simp
  | hop _ _ _ enclosed _ ih =>
      exact List.forall_mem_cons.mpr ⟨balanced_iff_enclosed.mpr enclosed, ih⟩

theorem balanced_of_ofText {s : Skeleton} (read : Skeleton.ofText text = .ok s) :
    Balanced s.head ∧ ∀ hop ∈ s.hops, Balanced hop.2 := by
  obtain ⟨_, _, _, _, _, enclosed, laid, _⟩ := Skeleton.ofText_eq_ok_iff.mp read
  exact ⟨balanced_iff_enclosed.mpr enclosed, balanced_of_laid laid⟩

/-- A chain in any dialect whose links are read without such a failure. -/
theorem termsClosed_readChain {readLink : List Char → Except PatternError Link}
    (links : ∀ link, TermsClosed (readLink link)) (text : List Char) :
    TermsClosed (readChain readLink text) := by
  refine .bind (termsClosed_ofText text) fun s read => ?_
  obtain ⟨balanced, balancedHops⟩ := balanced_of_ofText read
  refine .bind (.mapM fun hop here => ?_) fun hops _ => ?_
  · exact .bind (links hop.1) fun l _ =>
      .bind (termsClosed_readNode (balancedHops hop here)) fun n _ => .ok _
  · exact .bind (termsClosed_readNode balanced) fun head _ => .ok _

/-! ### Links, and what is checked of a chain -/

theorem termsClosed_readQueryLink (link : List Char) : TermsClosed (readQueryLink link) := by
  unfold readQueryLink
  split
  · unfold readTypedLink
    split
    · exact .error (by simp)
    split
    · exact .error (by simp)
    split
    · exact .error (by simp)
    · exact .map _ (termsClosed_readOrList _)
  · unfold readShortLink
    split
    · exact .ok _
    · exact .error (by simp)

theorem termsClosed_readRuleLink (link : List Char) : TermsClosed (readRuleLink link) := by
  unfold readRuleLink
  split
  · exact .error (by simp)
  · exact .bind (termsClosed_readCommaList _) fun types _ => .ok _

theorem termsClosed_checkQuery (c : Chain) : TermsClosed c.checkQuery := by
  unfold Chain.checkQuery
  split
  · exact .ok _
  split
  · exact .error (by simp)
  · exact .error (by simp)

theorem termsClosed_checkAntecedent (c : Chain) : TermsClosed c.checkAntecedent := by
  unfold Chain.checkAntecedent
  split
  · exact .error (by simp)
  split
  · exact .error (by simp)
  · exact .ok _

theorem termsClosed_ofPosition (position : Nat) : TermsClosed (Slot.ofPosition position) := by
  unfold Slot.ofPosition
  split
  · exact .ok _
  · exact .ok _
  · exact .ok _
  · exact .error (by simp)

theorem termsClosed_readSlot (body : List Char) : TermsClosed (readSlot body) := by
  unfold readSlot
  split
  · exact termsClosed_ofPosition _
  · exact .error (by simp)

theorem termsClosed_parseQuery (text : String) : TermsClosed (parseQuery text) := by
  unfold parseQuery
  split
  · exact .bind (termsClosed_readChain termsClosed_readQueryLink _) fun c _ =>
      .bind (termsClosed_checkQuery c) fun _ _ => .ok _
  · exact .error (by simp)

theorem termsClosed_parseAntecedent (text : String) : TermsClosed (parseAntecedent text) :=
  .bind (termsClosed_readChain termsClosed_readRuleLink _) fun c _ =>
    .bind (termsClosed_checkAntecedent c) fun _ _ => .ok _

/-- The nodes of a production are numbers, where a quote is no more than another character. -/
theorem termsClosed_parseProduction (text : String) : TermsClosed (parseProduction text) := by
  refine .bind (termsClosed_ofText _) fun s _ => ?_
  split
  · split
    · refine .bind (termsClosed_readCommaList _) fun types _ => ?_
      split
      · exact .error (by simp)
      · exact .bind (termsClosed_readSlot _) fun source _ =>
          .bind (termsClosed_readSlot _) fun target _ => .ok _
    · exact .error (by simp)
  · exact .error (by simp)

/-! ## The splitter is exact -/

/-- **The splitter is exact.** A text splits into tokens exactly when it is laid out so; it is
then its tokens with white space put back, and no two links are side by side. No query,
antecedent or production fails for a search term that is not closed. -/
theorem split_exact :
    (∀ text tokens, Token.split text = .ok tokens ↔
      ∃ l : Layout, l.written = text ∧ l.tokens = tokens) ∧
    (∀ text tokens, Token.split text = .ok tokens →
      Token.Writes tokens text ∧ Token.Alternate tokens) ∧
    ∀ text : String, TermsClosed (parseQuery text) ∧ TermsClosed (parseAntecedent text) ∧
      TermsClosed (parseProduction text) := by
  refine ⟨fun text tokens => ?_, fun text tokens done => ?_, fun text => ⟨?_, ?_, ?_⟩⟩
  · rw [Token.split_eq_ok_iff, Token.splits_iff_layout]
  · have splits := Token.split_eq_ok_iff.mp done
    obtain ⟨l, rfl, rfl⟩ := Token.splits_iff_layout.mp splits
    exact ⟨Token.writes_filterMap_tidy l.pieces, Token.alternate_of_splits splits⟩
  · exact termsClosed_parseQuery text
  · exact termsClosed_parseAntecedent text
  · exact termsClosed_parseProduction text

/-- Two groups whose search terms hold parentheses, a link with white space around it and a
blank one behind the second group; and a query whose only quote stands alone. -/
theorem split_exact_quoted :
    Token.split "('a) -> (b' : t) <- (')')  ".toList = .ok
      [.node "'a) -> (b' : t".toList, .link "<-".toList, .node "')'".toList] ∧
    (∃ l : Layout, l.written = "('a) -> (b' : t) <- (')')  ".toList ∧
      l.tokens = [.node "'a) -> (b' : t".toList, .link "<-".toList, .node "')'".toList]) ∧
    Token.Writes [.node "'a) -> (b' : t".toList, .link "<-".toList, .node "')'".toList]
      "('a) -> (b' : t) <- (')')  ".toList ∧
    parseQuery "?('a)" ≠ .error (.unterminatedTerm "'a") := by
  have done : Token.split "('a) -> (b' : t) <- (')')  ".toList = .ok
      [.node "'a) -> (b' : t".toList, .link "<-".toList, .node "')'".toList] := by rfl
  exact ⟨done, (split_exact.1 _ _).mp done, (split_exact.2.1 _ _ done).1, (split_exact.2.2 _).1 _⟩

end Trellis.Pattern
