/-
# Trellis.Proofs.Pattern.RuleDialect — rules are read exactly by their grammar

A link that begins with `<[` is never taken for one that ends with `]>`, since no list holds
a bracket, so the spellings of an antecedent's links can be told apart
(`ruleHop_eq_some_iff`), and with their lists the links are read by the grammar
(`readRuleLink_eq_ok_iff`). The value of a numeral is that of a slot when its digits are
zeros and then the digit of the slot (`digits_iff`, `readSlot_eq_ok_iff`). Groups and links
come as in a query; so the two halves of a rule, and the rule that they make, are read
exactly when the grammar has them (`ruleDialect_exact`).
-/
import Mathlib.Data.List.Induction
import Trellis.Proofs.Pattern.CommaList
import Trellis.Proofs.Pattern.Query
import Trellis.Proofs.Rule

namespace Trellis.Pattern

set_option autoImplicit false

open Text Grammar
open Token (IsLinkText)

variable {text link list : List Char} {types : List String}

/-! ## Links -/

/-- The two spellings exclude each other: one begins with an arrow and the other does not. -/
theorem ruleHop_eq_some_iff {left right : Bool} : ruleHop? link = some (list, left, right) ↔
    (link = '<' :: '[' :: list ++ [']'] ∧ left = true ∧ right = false) ∨
      (link = '[' :: list ++ [']', '>'] ∧ left = false ∧ right = true) := by
  unfold ruleHop?
  cases inbound : ['<', '['].isPrefixOf? link with
  | some rest =>
      obtain rfl := List.isPrefixOf?_eq_some_iff_append_eq.mp inbound
      simp only [Option.map_eq_map, Option.map_eq_some_iff,
        List.isSuffixOf?_eq_some_iff_append_eq, Prod.mk.injEq]
      constructor
      · rintro ⟨_, rfl, rfl, rfl, rfl⟩
        exact .inl ⟨rfl, rfl, rfl⟩
      · rintro (⟨same, rfl, rfl⟩ | ⟨same, -⟩)
        · exact ⟨list, by simpa using same.symm, rfl, rfl, rfl⟩
        · cases same
  | none =>
      simp only [Option.bind_eq_bind, Option.bind_eq_some_iff, Option.map_eq_map,
        Option.map_eq_some_iff, List.isPrefixOf?_eq_some_iff_append_eq,
        List.isSuffixOf?_eq_some_iff_append_eq, Prod.mk.injEq]
      constructor
      · rintro ⟨_, rfl, _, rfl, rfl, rfl, rfl⟩
        exact .inr ⟨rfl, rfl, rfl⟩
      · rintro (⟨rfl, -⟩ | ⟨rfl, rfl, rfl⟩)
        · have found : ['<', '['].isPrefixOf? ('<' :: '[' :: list ++ [']']) = some (list ++ [']']) :=
            List.isPrefixOf?_eq_some_iff_append_eq.mpr rfl
          rw [found] at inbound
          cases inbound
        · exact ⟨'[' :: list, rfl, list, rfl, rfl, rfl, rfl⟩

theorem Grammar.RuleList.commaList {kind : LinkKind} (listed : RuleList list kind types) :
    CommaList list types := by
  cases listed with
  | short blank => exact .blank blank
  | typed listed lowered => exact .tags listed lowered

theorem types_ne_nil {tags : List (List Char)} (listed : CommaTags list tags)
    (lowered : LowerTags tags types) : types ≠ [] := by
  rw [ne_eq, (CommaList.tags listed lowered).eq_nil_iff, not_allBlank_of_commaTags listed]
  exact Bool.false_ne_true

/-- A list is read for its types, and whether there are any tells the kind of the link. -/
theorem ruleList_iff {kind : LinkKind} : RuleList list kind types ↔
    readCommaList list = .ok types ∧ kind = if types.isEmpty then .short else .typed := by
  rw [readCommaList_eq_ok_iff]
  constructor
  · intro listed
    refine ⟨listed.commaList, ?_⟩
    cases listed with
    | short blank => rfl
    | typed listed lowered => simp [types_ne_nil listed lowered]
  · rintro ⟨listed, rfl⟩
    cases listed with
    | blank blank => exact .short blank
    | tags listed lowered =>
        have typed := RuleList.typed listed lowered
        simpa [types_ne_nil listed lowered] using typed

/-- **A link of an antecedent is read exactly when the grammar has it.** -/
theorem readRuleLink_eq_ok_iff {l : Link} : readRuleLink link = .ok l ↔ RuleLinkText link l := by
  rw [readRuleLink_eq_ok_iff_steps]
  constructor
  · rintro ⟨list, left, right, types, spelled, listed, rfl⟩
    rcases ruleHop_eq_some_iff.mp spelled with ⟨rfl, rfl, rfl⟩ | ⟨rfl, rfl, rfl⟩
    · exact .inbound (ruleList_iff.mpr ⟨listed, rfl⟩)
    · exact .outbound (ruleList_iff.mpr ⟨listed, rfl⟩)
  · intro denoted
    cases denoted with
    | @outbound list kind types denoted =>
        obtain ⟨listed, rfl⟩ := ruleList_iff.mp denoted
        have spelled : ruleHop? ('[' :: list ++ [']', '>']) = some (list, false, true) :=
          ruleHop_eq_some_iff.mpr (.inr ⟨rfl, rfl, rfl⟩)
        exact ⟨list, false, true, types, spelled, listed, rfl⟩
    | @inbound list kind types denoted =>
        obtain ⟨listed, rfl⟩ := ruleList_iff.mp denoted
        have spelled : ruleHop? ('<' :: '[' :: list ++ [']']) = some (list, true, false) :=
          ruleHop_eq_some_iff.mpr (.inl ⟨rfl, rfl, rfl⟩)
        exact ⟨list, true, false, types, spelled, listed, rfl⟩

/-- A list between texts that begin and end a link. -/
theorem isLinkText_of_list (denoted : CommaList list types) (front back : List Char)
    (spelling : isTrimmed front = true ∧ isTrimmed back = true ∧ front ≠ [] ∧ back ≠ [] ∧
      '(' ∉ front ++ back ∧ ')' ∉ front ++ back) :
    IsLinkText (front ++ list ++ back) := by
  obtain ⟨trimmed, trimmed', some_, some', noOpening, noClosing⟩ := spelling
  rw [List.mem_append, not_or] at noOpening noClosing
  refine ⟨isTrimmed_append trimmed list trimmed' some_ some', by simp [some_], ?_, ?_⟩
  · simp [noOpening, denoted.not_mem (c := '(') (by decide)]
  · simp [noClosing, denoted.not_mem (c := ')') (by decide)]

theorem isLinkText_of_ruleLinkText {l : Link} (denoted : RuleLinkText link l) : IsLinkText link := by
  cases denoted with
  | outbound listed =>
      exact isLinkText_of_list listed.commaList ['['] [']', '>'] (by decide)
  | inbound listed =>
      exact isLinkText_of_list listed.commaList ['<', '['] [']'] (by decide)

/-- A link points away from its first node when it begins with the bracket, and towards it
when it begins with the arrow. -/
theorem direction_of_ruleLinkText {l : Link} (denoted : RuleLinkText link l) :
    l.direction = if link.head? = some '[' then .outbound else .inbound := by
  cases denoted <;> rfl

/-! ## Antecedents -/

theorem checkAntecedent_eq_ok_iff {c : Chain} : c.checkAntecedent = .ok () ↔
    c.hops.length = 2 ∧ ∀ hop ∈ c.hops, hop.link.direction ≠ .both := by
  unfold Chain.checkAntecedent Chain.links
  split
  · next other => simp [other]
  · next two =>
      rw [not_not] at two
      split
      · next both => simpa [two] using both
      · next directed => simpa [two] using directed

/-- **The texts that are antecedents, and what they denote.** -/
theorem parseAntecedent_eq_ok_iff (text : String) (c : Chain) :
    parseAntecedent text = .ok c ↔ AntecedentText (trim text.toList) c := by
  have reads : readChain readRuleLink (trim text.toList) = .ok c ↔
      ChainText RuleLinkText (trim text.toList) c :=
    readChain_eq_ok_iff_of_isTrimmed (fun _ _ _ => readRuleLink_eq_ok_iff)
      (fun _ _ denoted => isLinkText_of_ruleLinkText denoted) (isTrimmed_trim _)
  rw [parseAntecedent_eq_ok_iff_checked, AntecedentText, ← reads, checkAntecedent_eq_ok_iff]
  constructor
  · rintro ⟨read, two, -⟩
    exact ⟨read, two⟩
  · rintro ⟨read, two⟩
    refine ⟨read, two, fun hop here => ?_⟩
    obtain ⟨link, readLink⟩ := exists_readLink_of_mem_hops read here
    rw [direction_of_ruleLinkText (readRuleLink_eq_ok_iff.mp readLink)]
    split <;> decide

/-! ## Slots -/

theorem toNat_of_isDigit {c : Char} (digit : c.isDigit = true) : 48 ≤ c.toNat ∧ c.toNat ≤ 57 := by
  simpa [Char.isDigit, UInt32.le_iff_toNat_le] using digit

theorem value_append (digits : List Char) (c : Char) :
    Numeral.value (digits ++ [c]) = 10 * Numeral.value digits + (c.toNat - 48) := by
  simp [Numeral.value]

theorem value_zeros (zeros : Nat) : Numeral.value (List.replicate zeros '0') = 0 := by
  induction zeros with
  | zero => rfl
  | succ zeros ih => rw [List.replicate_succ', value_append, ih]; rfl

/-- By the digits from the last one: each of them adds nothing. -/
theorem eq_zeros_of_value {digits : List Char} (areDigits : ∀ c ∈ digits, c.isDigit = true)
    (nothing : Numeral.value digits = 0) : ∃ zeros, digits = List.replicate zeros '0' := by
  induction digits using List.reverseRecOn with
  | nil => exact ⟨0, rfl⟩
  | append_singleton digits c ih =>
      rw [List.forall_mem_append, List.forall_mem_singleton] at areDigits
      obtain ⟨above, below⟩ := toNat_of_isDigit areDigits.2
      rw [value_append] at nothing
      obtain ⟨zeros, rfl⟩ := ih areDigits.1 (by omega)
      obtain rfl : c = '0' := Char.toNat_inj.mp (show c.toNat = 48 by omega)
      exact ⟨zeros + 1, List.replicate_succ'.symm⟩

theorem isDigit_slotDigit (s : Slot) : (slotDigit s).isDigit = true := by
  cases s <;> rfl

theorem toNat_slotDigit (s : Slot) : (slotDigit s).toNat = 48 + s.position := by
  cases s <;> rfl

theorem position_le (s : Slot) : s.position ≤ 3 := by
  cases s <;> decide

/-- Digits have a slot's number as their value when they are its digit behind zeros. -/
theorem digits_iff {digits : List Char} {s : Slot} :
    digits ≠ [] ∧ digits.all Char.isDigit = true ∧ Numeral.value digits = s.position ↔
      ∃ zeros, digits = List.replicate zeros '0' ++ [slotDigit s] := by
  have few := position_le s
  have last := toNat_slotDigit s
  constructor
  · rintro ⟨some_, areDigits, number⟩
    rcases List.eq_nil_or_concat' digits with none_ | ⟨digits, c, rfl⟩
    · exact absurd none_ some_
    · rw [List.all_eq_true, List.forall_mem_append, List.forall_mem_singleton] at areDigits
      obtain ⟨above, below⟩ := toNat_of_isDigit areDigits.2
      rw [value_append] at number
      obtain ⟨zeros, rfl⟩ := eq_zeros_of_value areDigits.1 (by omega)
      obtain rfl : c = slotDigit s := Char.toNat_inj.mp (by omega)
      exact ⟨zeros, rfl⟩
  · rintro ⟨zeros, rfl⟩
    have areZeros : ∀ c ∈ List.replicate zeros '0', c.isDigit = true := by
      intro c here
      rw [List.eq_of_mem_replicate here]
      rfl
    refine ⟨by simp, ?_, ?_⟩
    · rw [List.all_eq_true, List.forall_mem_append, List.forall_mem_singleton]
      exact ⟨areZeros, isDigit_slotDigit s⟩
    · rw [value_append, value_zeros]
      omega

theorem unsigned_of_digits {digits : List Char} (areDigits : digits.all Char.isDigit = true) :
    Numeral.unsigned digits = digits := by
  rw [Numeral.unsigned, if_neg]
  intro sign
  have here := List.all_eq_true.mp areDigits '+' (List.mem_of_mem_head? sign)
  cases here

theorem read_eq_some_iff {s : Slot} :
    Numeral.read? text = some s.position ↔ SlotText text s := by
  have read : Numeral.read? text = some s.position ↔
      ∃ zeros, Numeral.unsigned text = List.replicate zeros '0' ++ [slotDigit s] := by
    rw [← digits_iff, Numeral.read?, Option.ite_none_right_eq_some, Option.some.injEq, and_assoc]
  rw [read]
  constructor
  · rintro ⟨zeros, same⟩
    unfold Numeral.unsigned at same
    split at same
    · next sign =>
        cases text with
        | nil => cases sign
        | cons c rest =>
            obtain rfl : c = '+' := Option.some.inj sign
            obtain rfl : rest = _ := same
            exact .signed zeros s
    · rw [same]
      exact .plain zeros s
  · intro denoted
    cases denoted with
    | plain zeros =>
        obtain ⟨-, areDigits, -⟩ := digits_iff.mpr ⟨zeros, rfl⟩
        exact ⟨zeros, unsigned_of_digits areDigits⟩
    | signed zeros => exact ⟨zeros, rfl⟩

theorem ofPosition_eq_ok_iff {position : Nat} {s : Slot} :
    Slot.ofPosition position = .ok s ↔ position = s.position := by
  constructor
  · intro read
    unfold Slot.ofPosition at read
    split at read <;> cases read <;> rfl
  · rintro rfl
    exact Slot.ofPosition_position s

/-- **The node of a production is read exactly when it is the number of a slot.** -/
theorem readSlot_eq_ok_iff {s : Slot} : readSlot text = .ok s ↔ SlotText (trim text) s := by
  have few := position_le s
  have read : readSlot text = .ok s ↔ Numeral.readUpTo? 255 (trim text) = some s.position := by
    unfold readSlot
    split
    · next position found => rw [found, ofPosition_eq_ok_iff, Option.some.injEq]
    · next none_ => simp [none_]
  rw [read, ← read_eq_some_iff, Numeral.readUpTo?, Option.filter_eq_some_iff, decide_eq_true_eq]
  exact and_iff_left (by omega)

/-! ## Productions -/

theorem bracketed_eq_some_iff : bracketed? link = some list ↔ link = '[' :: list ++ [']'] := by
  simp only [bracketed?, Option.bind_eq_bind, Option.bind_eq_some_iff,
    List.isPrefixOf?_eq_some_iff_append_eq, List.isSuffixOf?_eq_some_iff_append_eq]
  constructor
  · rintro ⟨_, rfl, rfl⟩
    rfl
  · rintro rfl
    exact ⟨_, rfl, rfl⟩

/-- The number of a slot holds no mark, so it may stand in a group. -/
theorem enclosed_of_slotText {s : Slot} (denoted : SlotText (trim text) s) : Enclosed false text := by
  have noDigit : ∀ mark ∈ marks, mark ≠ '+' ∧ mark ≠ '0' ∧ ∀ s : Slot, mark ≠ slotDigit s := by
    intro mark here
    refine ⟨?_, ?_, fun s => ?_⟩
    · rintro rfl; exact absurd here (by decide)
    · rintro rfl; exact absurd here (by decide)
    · rintro rfl; cases s <;> exact absurd here (by decide)
  have free : ∀ mark ∈ marks, mark ∉ trim text := by
    intro mark here
    obtain ⟨noSign, noZero, noDigit⟩ := noDigit mark here
    generalize trim text = number at denoted
    cases denoted <;> simp [List.mem_replicate, noSign, noZero, noDigit]
  exact enclosed_of_trimmed fun _ => enclosed_append free

/-- **The texts that are productions, and what they denote.** -/
theorem parseProduction_eq_ok_iff (text : String) (p : Production) :
    parseProduction text = .ok p ↔ ProductionText (trim text.toList) p := by
  have trimmed := isTrimmed_trim text.toList
  simp only [parseProduction_eq_ok_iff_steps, Skeleton.ofText_eq_ok_iff, bracketed_eq_some_iff,
    readCommaList_eq_ok_iff, readSlot_eq_ok_iff]
  constructor
  · rintro ⟨source, link, target, list, ⟨gap, core, gap', blank, blank', -, laid, whole⟩, spelled,
      listed, some_, from_, to_⟩
    rw [whole] at trimmed ⊢
    obtain rfl := eq_nil_of_isTrimmed_append trimmed blank'
    rw [List.append_nil] at trimmed ⊢
    obtain rfl := eq_nil_of_isTrimmed_append_left (by simpa using trimmed) blank
    have solid : allBlank list = false := by
      rw [← Bool.not_eq_true, ← listed.eq_nil_iff]
      exact some_
    cases laid with
    | @hop before _ after _ rest _ blank _ blank' _ later =>
        cases later
        subst spelled
        simpa using ProductionText.production from_ blank listed solid blank' to_
  · intro denoted
    generalize trim text.toList = whole at denoted
    cases denoted with
    | @production source before list after target _ from_ blank listed solid blank' to_ =>
        have isText : IsLinkText ('[' :: list ++ [']']) :=
          isLinkText_of_list listed ['['] [']'] (by decide)
        have laid := Skeleton.Laid.hop blank isText blank' (enclosed_of_slotText to_) .done
        have some_ : p.types ≠ [] := by
          rw [ne_eq, listed.eq_nil_iff, solid]
          exact Bool.false_ne_true
        exact ⟨source, _, target, list, ⟨[], _, [], rfl, rfl, enclosed_of_slotText from_, laid,
          by simp⟩, rfl, listed, some_, from_, to_⟩

end Trellis.Pattern

namespace Trellis

open Text Pattern Pattern.Grammar

/-! ## Rules -/

/-- **Two texts make a rule exactly when they are an antecedent and a production.** -/
theorem Rule.parse_eq_ok_iff (antecedent production : String) (r : Rule) :
    Rule.parse antecedent production = .ok r ↔ ∃ c p,
      AntecedentText (trim antecedent.toList) c ∧ ProductionText (trim production.toList) p ∧
        r = ⟨trimmed antecedent ++ " => " ++ trimmed production, ⟨.ofChain c⟩, p⟩ := by
  simp only [Rule.parse_eq_ok_iff_halves, parseAntecedent_eq_ok_iff, parseProduction_eq_ok_iff]

/-- **The dialect of rules is read exactly.** An antecedent and a production are read when
they are texts of the grammar, and denote what it says; two texts make a rule when both are;
the links of an antecedent lead the way of their arrow; and every other text is refused. -/
theorem ruleDialect_exact :
    (∀ text c, parseAntecedent text = .ok c ↔ AntecedentText (trim text.toList) c) ∧
      (∀ text p, parseProduction text = .ok p ↔ ProductionText (trim text.toList) p) ∧
      (∀ antecedent production r, Rule.parse antecedent production = .ok r ↔ ∃ c p,
        AntecedentText (trim antecedent.toList) c ∧ ProductionText (trim production.toList) p ∧
          r = ⟨trimmed antecedent ++ " => " ++ trimmed production, ⟨.ofChain c⟩, p⟩) ∧
      (∀ list l, (RuleLinkText ('[' :: list ++ [']', '>']) l → l.direction = .outbound) ∧
        (RuleLinkText ('<' :: '[' :: list ++ [']']) l → l.direction = .inbound)) ∧
      (∀ text, (¬∃ c, AntecedentText (trim text.toList) c) →
        ∃ cause : PatternError, parseAntecedent text = .error cause) ∧
      (∀ text, (¬∃ p, ProductionText (trim text.toList) p) →
        ∃ cause : PatternError, parseProduction text = .error cause) ∧
      ∀ antecedent production, ¬((∃ c, AntecedentText (trim antecedent.toList) c) ∧
          ∃ p, ProductionText (trim production.toList) p) →
        ∃ cause : PatternError, Rule.parse antecedent production = .error cause := by
  refine ⟨parseAntecedent_eq_ok_iff, parseProduction_eq_ok_iff, Rule.parse_eq_ok_iff,
    fun _ _ => ⟨direction_of_ruleLinkText, direction_of_ruleLinkText⟩,
    fun text other => exists_error ?_, fun text other => exists_error ?_,
    fun antecedent production other => exists_error ?_⟩
  · simpa only [parseAntecedent_eq_ok_iff] using other
  · simpa only [parseProduction_eq_ok_iff] using other
  · rintro ⟨r, read⟩
    obtain ⟨c, p, isAntecedent, isProduction, -⟩ := (Rule.parse_eq_ok_iff _ _ _).mp read
    exact other ⟨⟨c, isAntecedent⟩, p, isProduction⟩

/-- Links with a list and without one, in either direction, and white space around one of
them. -/
def spacedAntecedent : String := "(a)[e1, E2]>() <[ ] ('c (d)')"

def spacedChain : Chain where
  head := .typed ["a"]
  hops :=
    [⟨⟨.typed, .path, false, true, ["e1", "e2"], .anyOf⟩, .hidden⟩,
      ⟨⟨.short, .path, true, false, [], .anyOf⟩, .described "c (d)"⟩]

def spacedProduction : String := "( +3 )[Linked, peer](01)"

/-- White space may not stand before an arrow, and a production needs a type. -/
theorem ruleDialect_exact_spaced :
    AntecedentText (trim spacedAntecedent.toList) spacedChain ∧
      spacedChain.links.map (·.direction) = [.outbound, .inbound] ∧
      ProductionText (trim spacedProduction.toList) ⟨.third, .first, ["linked", "peer"]⟩ ∧
      Rule.parse spacedAntecedent spacedProduction =
        .ok ⟨trimmed spacedAntecedent ++ " => " ++ trimmed spacedProduction,
          ⟨.ofChain spacedChain⟩, ⟨.third, .first, ["linked", "peer"]⟩⟩ ∧
      (¬∃ c, AntecedentText (trim "(a)[e1] >()<[]()".toList) c) ∧
      ¬∃ p, ProductionText (trim "(3)[ ](1)".toList) p := by
  obtain ⟨antecedents, productions, rules, -⟩ := ruleDialect_exact
  have read : parseAntecedent spacedAntecedent = .ok spacedChain := by decide +kernel
  have made : parseProduction spacedProduction = .ok ⟨.third, .first, ["linked", "peer"]⟩ := by
    decide +kernel
  have apart : parseAntecedent "(a)[e1] >()<[]()" = .error (.invalidRuleHop "[e1] >") := by
    decide +kernel
  have untyped : parseProduction "(3)[ ](1)" = .error .untypedProduction := by decide +kernel
  have isAntecedent := (antecedents _ _).mp read
  have isProduction := (productions _ _).mp made
  refine ⟨isAntecedent, rfl, isProduction,
    (rules _ _ _).mpr ⟨_, _, isAntecedent, isProduction, rfl⟩, ?_, ?_⟩
  · rintro ⟨c, isText⟩
    rw [(antecedents _ c).mpr isText] at apart
    cases apart
  · rintro ⟨p, isText⟩
    rw [(productions _ p).mpr isText] at untyped
    cases untyped

end Trellis
