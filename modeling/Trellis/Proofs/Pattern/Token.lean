/-
# Trellis.Proofs.Pattern.Token — the splitter reads groups and links exactly

A text is split when it is link texts, without parentheses, in turn with groups whose
insides are enclosed: each search term that is opened is closed, and a parenthesis stands
in a search term only. What the scanner does in either region, between groups or inside
one, is read off its recursion (`scan_sound`), and a text that is split so is scanned so
(`split_of_splits`); hence `split_eq_ok_iff`. A skeleton is read off a text when the
tokens are its nodes and links in alternation, that is, when the text is a group and
then its hops (`ofText_eq_ok_iff`).
-/
import Trellis.Pattern.Token
import Trellis.Proofs.Except
import Trellis.Proofs.Text.Blank

namespace Trellis.Pattern

set_option autoImplicit false

open Text

/-! ## The inside of a group -/

/-- The text may stand before the parenthesis that closes a group, after a point where a
search term is open or not: it closes what it opens, and has parentheses in search terms
only. -/
inductive Enclosed : Bool → List Char → Prop
  | done : Enclosed false []
  | quote {quoted : Bool} {body : List Char} :
      Enclosed (!quoted) body → Enclosed quoted ('\'' :: body)
  | text {quoted : Bool} {c : Char} {body : List Char} :
      c ≠ '\'' → (quoted = false → c ≠ '(' ∧ c ≠ ')') → Enclosed quoted body →
      Enclosed quoted (c :: body)

namespace Enclosed

variable {text rest term : List Char}

/-- Text without quotes and parentheses may come first. -/
theorem append (plain : ∀ c ∈ text, c ≠ '\'' ∧ c ≠ '(' ∧ c ≠ ')')
    (later : Enclosed false rest) : Enclosed false (text ++ rest) := by
  induction text with
  | nil => exact later
  | cons c cs ih =>
      obtain ⟨⟨noQuote, noParenthesis⟩, plain⟩ := List.forall_mem_cons.mp plain
      exact .text noQuote (fun _ => noParenthesis) (ih plain)

/-- A search term may come first, whatever parentheses it has. -/
theorem term_append (whole : '\'' ∉ term) (later : Enclosed false rest) :
    Enclosed false ('\'' :: term ++ '\'' :: rest) := by
  apply quote
  induction term with
  | nil => exact .quote later
  | cons c cs ih =>
      obtain ⟨different, whole⟩ := List.ne_and_not_mem_of_not_mem_cons whole
      exact .text (Ne.symm different) nofun (ih whole)

end Enclosed

namespace Token

/-! ## Splitting a text -/

/-- Link texts in turn with groups, and the tokens that they make. -/
inductive Splits : List Char → List Token → Prop
  | last {link : List Char} : '(' ∉ link → ')' ∉ link → Splits link (ofLink link)
  | group {link body rest : List Char} {tokens : List Token} :
      '(' ∉ link → ')' ∉ link → Enclosed false body → Splits rest tokens →
      Splits (link ++ '(' :: body ++ ')' :: rest) (ofLink link ++ .node body :: tokens)

variable {link body cs read : List Char} {tokens : List Token} {quoted : Bool}

theorem scan_between (noOpen : '(' ∉ link) (noClose : ')' ∉ link) :
    scan .between read (link ++ cs) = scan .between (link.reverse ++ read) cs := by
  induction link generalizing read with
  | nil => rfl
  | cons c link ih =>
      obtain ⟨notOpen, noOpen⟩ := List.ne_and_not_mem_of_not_mem_cons noOpen
      obtain ⟨notClose, noClose⟩ := List.ne_and_not_mem_of_not_mem_cons noClose
      rw [List.cons_append, scan, if_neg (Ne.symm notOpen), if_neg (Ne.symm notClose),
        ih noOpen noClose]
      simp

theorem scan_inside (enclosed : Enclosed quoted body) :
    scan (.inside quoted) read (body ++ ')' :: cs) =
      (.node (read.reverse ++ body) :: ·) <$> scan .between [] cs := by
  induction enclosed generalizing read with
  | done => simp [scan]
  | quote _ ih => rw [List.cons_append, scan, if_pos rfl, ih]; simp
  | @text quoted c body noQuote noParenthesis _ ih =>
      have notOpen : ¬(c = '(' ∧ (!quoted) = true) := by
        rintro ⟨is, outside⟩
        exact (noParenthesis (by simpa using outside)).1 is
      have notClose : ¬(c = ')' ∧ (!quoted) = true) := by
        rintro ⟨is, outside⟩
        exact (noParenthesis (by simpa using outside)).2 is
      rw [List.cons_append, scan, if_neg noQuote, if_neg notOpen, if_neg notClose, ih]
      simp

theorem split_of_splits {text : List Char} (splits : Splits text tokens) :
    split text = .ok tokens := by
  rw [split]
  induction splits with
  | @last link noOpen noClose =>
      rw [← List.append_nil link, scan_between noOpen noClose]
      simp [scan]
  | @group link body rest tokens noOpen noClose enclosed _ ih =>
      rw [List.append_assoc, scan_between noOpen noClose, List.cons_append, scan, if_pos rfl,
        scan_inside enclosed, ih]
      simp

/-- What it means to have read on from a region: between groups, the link text and what
follows are split; in a group, it is closed somewhere and what follows is split. -/
def Region.Reads (read cs : List Char) (tokens : List Token) : Region → Prop
  | .between => '(' ∉ read → ')' ∉ read → Splits (read.reverse ++ cs) tokens
  | .inside quoted => ∃ body rest later, cs = body ++ ')' :: rest ∧ Enclosed quoted body ∧
      Splits rest later ∧ tokens = .node (read.reverse ++ body) :: later

/-- By the recursion of the scanner. -/
theorem scan_sound {region : Region} (done : scan region read cs = .ok tokens) :
    region.Reads read cs tokens := by
  induction region, read, cs using scan.induct generalizing tokens with
  | case1 read =>
      obtain rfl := Except.ok.inj done
      intro noOpen noClose
      rw [List.append_nil]
      exact .last (by simpa using noOpen) (by simpa using noClose)
  | case2 quoted read => cases done
  | case3 read cs ih =>
      rw [scan, if_pos rfl] at done
      obtain ⟨inner, doneInner, rfl⟩ := map_eq_ok_iff.mp done
      obtain ⟨body, rest, later, rfl, enclosed, splits, rfl⟩ := ih doneInner
      intro noOpen noClose
      rw [← List.mem_reverse] at noOpen noClose
      have whole := Splits.group noOpen noClose enclosed splits
      simpa using whole
  | case4 read cs notOpen => rw [scan, if_neg notOpen, if_pos rfl] at done; cases done
  | case5 read c cs notOpen notClose ih =>
      rw [scan, if_neg notOpen, if_neg notClose] at done
      intro noOpen noClose
      have whole := ih done (List.not_mem_cons_of_ne_of_not_mem (Ne.symm notOpen) noOpen)
        (List.not_mem_cons_of_ne_of_not_mem (Ne.symm notClose) noClose)
      simpa using whole
  | case6 quoted read cs ih =>
      rw [scan, if_pos rfl] at done
      obtain ⟨body, rest, later, rfl, enclosed, splits, rfl⟩ := ih done
      exact ⟨'\'' :: body, rest, later, rfl, .quote enclosed, splits, by simp⟩
  | case7 quoted read c cs notQuote opens =>
      rw [scan, if_neg notQuote, if_pos opens] at done; cases done
  | case8 quoted read c cs notQuote notOpen closes ih =>
      rw [scan, if_neg notQuote, if_neg notOpen, if_pos closes] at done
      obtain ⟨later, doneLater, rfl⟩ := map_eq_ok_iff.mp done
      obtain ⟨rfl, outside⟩ := closes
      obtain rfl : quoted = false := by simpa using outside
      exact ⟨[], cs, later, rfl, .done, ih doneLater (by simp) (by simp), by simp⟩
  | case9 quoted read c cs notQuote notOpen notClose ih =>
      rw [scan, if_neg notQuote, if_neg notOpen, if_neg notClose] at done
      obtain ⟨body, rest, later, rfl, enclosed, splits, rfl⟩ := ih done
      refine ⟨c :: body, rest, later, rfl, .text notQuote ?_ enclosed, splits, by simp⟩
      rintro rfl
      exact ⟨fun is => notOpen ⟨is, rfl⟩, fun is => notClose ⟨is, rfl⟩⟩

/-- **The splitter reads groups and links exactly.** -/
theorem split_eq_ok_iff {text : List Char} : split text = .ok tokens ↔ Splits text tokens :=
  ⟨fun done => by simpa using scan_sound done (by simp) (by simp), split_of_splits⟩

/-! ## The token of the text between two groups -/

/-- The text of a link as a token holds it. -/
structure IsLinkText (link : List Char) : Prop where
  trimmed : isTrimmed link = true
  ne_nil : link ≠ []
  noOpen : '(' ∉ link
  noClose : ')' ∉ link

theorem ofLink_eq_nil_iff : ofLink link = [] ↔ allBlank link = true := by
  cases blank : allBlank link <;> simp [ofLink, blank]

theorem ofLink_append_eq_node_iff {body' : List Char} {later : List Token} :
    ofLink link ++ .node body :: tokens = .node body' :: later ↔
      ofLink link = [] ∧ body = body' ∧ tokens = later := by
  unfold ofLink
  split <;> simp

theorem ofLink_append_eq_link_iff {link' : List Char} {later : List Token} :
    ofLink link ++ .node body :: tokens = .link link' :: later ↔
      ofLink link = [.link link'] ∧ .node body :: tokens = later := by
  unfold ofLink
  split <;> simp

/-- A text makes a link exactly when it is that link between white space. -/
theorem ofLink_eq_link_iff {text : List Char} :
    ofLink text = [.link link] ∧ '(' ∉ text ∧ ')' ∉ text ↔
      IsLinkText link ∧ ∃ before after, allBlank before = true ∧ allBlank after = true ∧
        text = before ++ link ++ after := by
  constructor
  · rintro ⟨made, noOpen, noClose⟩
    have solid : allBlank text = false := by
      cases blank : allBlank text with
      | false => rfl
      | true => rw [ofLink_eq_nil_iff.mpr blank] at made; cases made
    have isLink : trim text = link := by simpa [ofLink, solid] using made
    obtain ⟨trimmed, before, after, blank, blank', rfl⟩ := trim_eq_iff.mp isLink
    refine ⟨⟨trimmed, ?_, ?_, ?_⟩, before, after, blank, blank', rfl⟩
    · rintro rfl
      rw [trim_eq_nil_iff, solid] at isLink
      cases isLink
    · exact fun here => noOpen (by simp [here])
    · exact fun here => noClose (by simp [here])
  · rintro ⟨isLink, before, after, blank, blank', rfl⟩
    have isTrim : trim (before ++ link ++ after) = link :=
      trim_eq_iff.mpr ⟨isLink.trimmed, before, after, blank, blank', rfl⟩
    have solid : allBlank (before ++ link ++ after) = false := by
      rw [← Bool.not_eq_true, ← trim_eq_nil_iff, isTrim]
      exact isLink.ne_nil
    have outside : ∀ c, isBlank c = false → c ∉ link → c ∉ before ++ link ++ after := by
      intro c visible here
      simp [not_mem_of_allBlank blank visible, not_mem_of_allBlank blank' visible, here]
    refine ⟨by rw [ofLink, solid, isTrim]; rfl, ?_, ?_⟩
    · exact outside '(' (by decide) isLink.noOpen
    · exact outside ')' (by decide) isLink.noClose

end Token

/-! ## Nodes and links in alternation -/

namespace Skeleton

open Token

variable {text : List Char} {tokens : List Token} {hops : List (List Char × List Char)}

def hopTokens (hops : List (List Char × List Char)) : List Token :=
  hops.flatMap fun hop => [.link hop.1, .node hop.2]

/-- The hops of a skeleton as a text has them: a link between white space, and a group. -/
inductive Laid : List Char → List (List Char × List Char) → Prop
  | done : Laid [] []
  | hop {before link after body rest : List Char} {hops : List (List Char × List Char)} :
      allBlank before = true → IsLinkText link → allBlank after = true → Enclosed false body →
      Laid rest hops →
      Laid (before ++ link ++ after ++ '(' :: body ++ ')' :: rest) ((link, body) :: hops)

theorem pairs_eq_ok_iff : pairs tokens = .ok hops ↔ tokens = hopTokens hops := by
  induction tokens using pairs.induct generalizing hops with
  | case1 => cases hops <;> simp [pairs, hopTokens]
  | case2 body rest => cases hops <;> simp [pairs, hopTokens]
  | case3 link body rest ih =>
      rw [pairs, map_eq_ok_iff]
      constructor
      · rintro ⟨later, read, rfl⟩
        simp [hopTokens, ih.mp read]
      · intro same
        cases hops with
        | nil => cases same
        | cons hop hops =>
            obtain ⟨link', body'⟩ := hop
            obtain ⟨rfl, rfl, later⟩ : link = link' ∧ body = body' ∧ rest = hopTokens hops := by
              simpa [hopTokens] using same
            exact ⟨hops, ih.mpr later, rfl⟩
  | case4 link rest lonely =>
      rw [pairs]
      · constructor
        · nofun
        · intro same
          cases hops with
          | nil => cases same
          | cons hop hops =>
              obtain ⟨-, rfl⟩ : link = hop.1 ∧ rest = .node hop.2 :: hopTokens hops := by
                simpa [hopTokens] using same
              exact absurd rfl (lonely _ _)
      · exact lonely

theorem ofTokens_eq_ok_iff {s : Skeleton} :
    ofTokens tokens = .ok s ↔ tokens = .node s.head :: hopTokens s.hops := by
  obtain ⟨head, hops⟩ := s
  cases tokens with
  | nil => simp [ofTokens]
  | cons token rest =>
      cases token with
      | link link => simp [ofTokens]
      | node body =>
          rw [ofTokens, map_eq_ok_iff]
          simp only [Skeleton.mk.injEq, List.cons.injEq, Token.node.injEq, pairs_eq_ok_iff]
          constructor
          · rintro ⟨hops, rfl, rfl, rfl⟩
            exact ⟨rfl, rfl⟩
          · rintro ⟨rfl, rfl⟩
            exact ⟨hops, rfl, rfl, rfl⟩

/-- Text that splits into hops only is hops, and white space after them. -/
theorem laid_of_splits (splits : Splits text (hopTokens hops)) :
    ∃ core gap, Laid core hops ∧ allBlank gap = true ∧ text = core ++ gap := by
  generalize same : hopTokens hops = tokens at splits
  induction splits generalizing hops with
  | @last link noOpen noClose =>
      cases hops with
      | nil => exact ⟨[], link, .done, ofLink_eq_nil_iff.mp same.symm, rfl⟩
      | cons hop hops =>
          have short := congrArg List.length same
          cases blank : allBlank link <;> simp [ofLink, blank, hopTokens] at short
  | @group link body rest tokens noOpen noClose enclosed _ ih =>
      cases hops with
      | nil => simpa [hopTokens] using congrArg List.length same
      | cons hop hops =>
          obtain ⟨made, node⟩ := ofLink_append_eq_link_iff.mp same.symm
          obtain ⟨isBody, later⟩ := List.cons.inj node
          obtain rfl := Token.node.inj isBody
          obtain ⟨isLink, before, after, blank, blank', rfl⟩ :=
            ofLink_eq_link_iff.mp ⟨made, noOpen, noClose⟩
          obtain ⟨core, gap, laid, blankGap, rfl⟩ := ih later.symm
          exact ⟨_, gap, .hop blank isLink blank' enclosed laid, blankGap, by simp⟩

theorem splits_of_laid {core gap : List Char} (laid : Laid core hops)
    (blankGap : allBlank gap = true) : Splits (core ++ gap) (hopTokens hops) := by
  induction laid with
  | done =>
      have splits := Splits.last (not_mem_of_allBlank blankGap (c := '(') (by decide))
        (not_mem_of_allBlank blankGap (c := ')') (by decide))
      rwa [ofLink_eq_nil_iff.mpr blankGap] at splits
  | @hop before link after body rest hops blank isLink blank' enclosed _ ih =>
      obtain ⟨made, noOpen, noClose⟩ :=
        ofLink_eq_link_iff.mpr ⟨isLink, before, after, blank, blank', rfl⟩
      have splits := Splits.group noOpen noClose enclosed ih
      rw [made] at splits
      simpa [hopTokens] using splits

/-- **A skeleton is read off a text exactly when the text is its head and its hops**,
with white space at the ends. -/
theorem ofText_eq_ok_iff {s : Skeleton} : ofText text = .ok s ↔
    ∃ before core after, allBlank before = true ∧ allBlank after = true ∧
      Enclosed false s.head ∧ Laid core s.hops ∧
      text = before ++ '(' :: s.head ++ ')' :: core ++ after := by
  rw [ofText, bind_eq_ok_iff]
  constructor
  · rintro ⟨tokens, done, alternate⟩
    have splits := split_eq_ok_iff.mp done
    rw [ofTokens_eq_ok_iff] at alternate
    cases splits with
    | last noOpen noClose =>
        cases blank : allBlank text <;> simp [ofLink, blank] at alternate
    | @group before body rest later noOpen noClose enclosed splits =>
        obtain ⟨none_, rfl, rfl⟩ := ofLink_append_eq_node_iff.mp alternate
        obtain ⟨core, after, laid, blank', rfl⟩ := laid_of_splits splits
        exact ⟨before, core, after, ofLink_eq_nil_iff.mp none_, blank', enclosed, laid, by simp⟩
  · rintro ⟨before, core, after, blank, blank', enclosed, laid, rfl⟩
    refine ⟨_, split_eq_ok_iff.mpr ?_, ofTokens_eq_ok_iff.mpr rfl⟩
    have splits := Splits.group (not_mem_of_allBlank blank (c := '(') (by decide))
      (not_mem_of_allBlank blank (c := ')') (by decide)) enclosed
      (splits_of_laid laid blank')
    rw [ofLink_eq_nil_iff.mpr blank] at splits
    simpa using splits

end Skeleton

end Trellis.Pattern
