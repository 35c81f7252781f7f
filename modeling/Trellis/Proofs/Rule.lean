/-
# Trellis.Proofs.Rule — what a compiled rule is like

The antecedent of a compiled rule is a walk of two triples that follow derived
edges as well as asserted ones, and its production has at least one type and the
types in normal form (`WellFormed`). The halves of a compiled rule are what its texts are
read as (`halves_of_compile`), so compiling gives only such rules, whatever the texts
(`wellFormed_of_compile`).
-/
import Trellis.Plan
import Trellis.Proofs.Tag

namespace Trellis

set_option autoImplicit false

/-! ## Antecedents -/

namespace Pattern

/-- The steps of reading a link: the arrow, and the list in the brackets. -/
theorem readRuleLink_eq_ok_iff_steps {link : List Char} {l : Link} :
    readRuleLink link = .ok l ↔ ∃ list left right types,
      ruleHop? link = some (list, left, right) ∧ readCommaList list = .ok types ∧
        l = ⟨if types.isEmpty then .short else .typed, .path, left, right, types, .anyOf⟩ := by
  constructor
  · intro read
    unfold readRuleLink at read
    split at read
    · cases read
    · next list left right spelled =>
        obtain ⟨types, listed, done⟩ := bind_eq_ok_iff.mp read
        exact ⟨list, left, right, types, spelled, listed, (Except.ok.inj done).symm⟩
  · rintro ⟨list, left, right, types, spelled, listed, rfl⟩
    rw [readRuleLink, spelled]
    simp only [listed]
    rfl

theorem isPath_of_readRuleLink {text : List Char} {l : Link} (read : readRuleLink text = .ok l) :
    l.isPath = true := by
  obtain ⟨_, _, _, _, -, -, rfl⟩ := readRuleLink_eq_ok_iff_steps.mp read
  rfl

theorem exists_readLink_of_mem_hops {readLink : List Char → Except PatternError Link}
    {text : List Char} {c : Chain} (read : readChain readLink text = .ok c) {hop : Hop}
    (here : hop ∈ c.hops) : ∃ link, readLink link = .ok hop.link := by
  obtain ⟨skeleton, -, read⟩ := bind_eq_ok_iff.mp read
  obtain ⟨hops, readHops, read⟩ := bind_eq_ok_iff.mp read
  obtain ⟨head, -, read⟩ := bind_eq_ok_iff.mp read
  obtain rfl := Except.ok.inj read
  obtain ⟨⟨link, body⟩, -, readHop⟩ := exists_of_mem_mapM readHops here
  obtain ⟨l, readThis, readHop⟩ := bind_eq_ok_iff.mp readHop
  obtain ⟨node, -, readHop⟩ := bind_eq_ok_iff.mp readHop
  obtain rfl := Except.ok.inj readHop
  exact ⟨link, readThis⟩

theorem length_hops_of_checkAntecedent {c : Chain} (checked : c.checkAntecedent = .ok ()) :
    c.hops.length = 2 := by
  unfold Chain.checkAntecedent at checked
  split at checked
  · cases checked
  · next two => exact not_not.mp two

theorem parseAntecedent_eq_ok_iff_checked {text : String} {c : Chain} :
    parseAntecedent text = .ok c ↔
      readChain readRuleLink (Text.trim text.toList) = .ok c ∧ c.checkAntecedent = .ok () := by
  simp only [parseAntecedent, bind_eq_ok_iff]
  constructor
  · rintro ⟨c', read, ⟨⟩, checked, done⟩
    obtain rfl := Except.ok.inj done
    exact ⟨read, checked⟩
  · rintro ⟨read, checked⟩
    exact ⟨c, read, (), checked, rfl⟩

theorem path_of_parseAntecedent {text : String} {c : Chain} (read : parseAntecedent text = .ok c) :
    c.hops.length = 2 ∧ ∀ hop ∈ c.hops, hop.link.isPath = true := by
  obtain ⟨readThis, checked⟩ := parseAntecedent_eq_ok_iff_checked.mp read
  refine ⟨length_hops_of_checkAntecedent checked, fun hop here => ?_⟩
  obtain ⟨link, readLink⟩ := exists_readLink_of_mem_hops readThis here
  exact isPath_of_readRuleLink readLink

/-! ## Productions -/

/-- The steps of reading a production: groups and links, the brackets, the list, the slots. -/
theorem parseProduction_eq_ok_iff_steps {text : String} {p : Production} :
    parseProduction text = .ok p ↔ ∃ source link target list,
      Skeleton.ofText (Text.trim text.toList) = .ok ⟨source, [(link, target)]⟩ ∧
        bracketed? link = some list ∧ readCommaList list = .ok p.types ∧ p.types ≠ [] ∧
        readSlot source = .ok p.source ∧ readSlot target = .ok p.target := by
  constructor
  · intro read
    obtain ⟨⟨source, hops⟩, laid, read⟩ := bind_eq_ok_iff.mp read
    split at read
    · next link target two =>
        obtain rfl : hops = [(link, target)] := two
        split at read
        · next list inner =>
            obtain ⟨types, readTypes, read⟩ := bind_eq_ok_iff.mp read
            split at read
            · cases read
            · next some_ =>
                obtain ⟨from_, readSource, read⟩ := bind_eq_ok_iff.mp read
                obtain ⟨to_, readTarget, read⟩ := bind_eq_ok_iff.mp read
                obtain rfl := Except.ok.inj read
                exact ⟨source, link, target, list, laid, inner, readTypes, by simpa using some_,
                  readSource, readTarget⟩
        · cases read
    · cases read
  · rintro ⟨source, link, target, list, laid, inner, readTypes, some_, readSource, readTarget⟩
    have some_ : p.types.isEmpty = false := by simpa using some_
    simp only [parseProduction, laid, inner, readTypes, some_, readSource, readTarget, bind,
      Except.bind]
    rfl

theorem clean_of_parseProduction {text : String} {p : Production}
    (read : parseProduction text = .ok p) :
    p.types ≠ [] ∧ p.types.Pairwise (· < ·) ∧ ∀ tag ∈ p.types, Tag.Clean tag := by
  obtain ⟨_, _, _, _, -, -, readTypes, some_, -⟩ := parseProduction_eq_ok_iff_steps.mp read
  exact ⟨some_, clean_of_readCommaList readTypes⟩

end Pattern

/-! ## Rules -/

/-- What compiling establishes of a rule. -/
structure Rule.WellFormed (r : Rule) : Prop where
  walk : ∃ t u, r.antecedent.plan = .walk [t, u] ∧ t.link.isPath = true ∧ u.link.isPath = true
  typed : r.production.types ≠ []
  ascending : r.production.types.Pairwise (· < ·)
  clean : ∀ tag ∈ r.production.types, Tag.Clean tag

/-- A rule is made of its two halves; the shape of the antecedent has been checked when it
was read. -/
theorem Rule.parse_eq_ok_iff_halves {antecedent production : String} {r : Rule} :
    Rule.parse antecedent production = .ok r ↔ ∃ c p,
      Pattern.parseAntecedent antecedent = .ok c ∧ Pattern.parseProduction production = .ok p ∧
        r = ⟨Text.trimmed antecedent ++ " => " ++ Text.trimmed production, ⟨.ofChain c⟩, p⟩ := by
  simp only [Rule.parse, Antecedent.ofChain, bind_eq_ok_iff]
  constructor
  · rintro ⟨c, readChain, compiled, ⟨⟨⟩, -, done⟩, p, readProduction, done'⟩
    obtain rfl := Except.ok.inj done
    exact ⟨c, p, readChain, readProduction, (Except.ok.inj done').symm⟩
  · rintro ⟨c, p, readChain, readProduction, rfl⟩
    have checked := (Pattern.parseAntecedent_eq_ok_iff_checked.mp readChain).2
    exact ⟨c, readChain, _, ⟨(), checked, rfl⟩, p, readProduction, rfl⟩

theorem walk_of_parseAntecedent {text : String} {c : Pattern.Chain}
    (read : Pattern.parseAntecedent text = .ok c) :
    ∃ t u, Plan.ofChain c = .walk [t, u] ∧ t.link.isPath = true ∧ u.link.isPath = true := by
  obtain ⟨two, paths⟩ := Pattern.path_of_parseAntecedent read
  obtain ⟨head, hops⟩ := c
  obtain ⟨first, second, rfl⟩ := List.length_eq_two.mp two
  exact ⟨_, _, rfl, paths first (by simp), paths second (by simp)⟩

/-- **The halves of a compiled rule are those of its texts**; a name of its own changes
nothing else. -/
theorem halves_of_compile {s : RuleSpec} {r : Rule} (compiled : s.compile = .ok r) :
    ∃ c, Pattern.parseAntecedent s.antecedent = .ok c ∧
      Pattern.parseProduction s.production = .ok r.production ∧ r.antecedent = ⟨.ofChain c⟩ := by
  obtain ⟨rule, parsed, compiled⟩ := bind_eq_ok_iff.mp compiled
  obtain ⟨c, p, readChain, readProduction, rfl⟩ := Rule.parse_eq_ok_iff_halves.mp parsed
  obtain rfl := Except.ok.inj compiled
  cases s.name with
  | none => exact ⟨c, readChain, readProduction, rfl⟩
  | some name => exact ⟨c, readChain, readProduction, rfl⟩

/-- **Compiling gives well-formed rules only.** -/
theorem wellFormed_of_compile {s : RuleSpec} {r : Rule} (compiled : s.compile = .ok r) :
    r.WellFormed := by
  obtain ⟨c, readChain, readProduction, antecedent⟩ := halves_of_compile compiled
  obtain ⟨typed, ascending, clean⟩ := Pattern.clean_of_parseProduction readProduction
  have walk := walk_of_parseAntecedent readChain
  exact ⟨by rwa [antecedent], typed, ascending, clean⟩

theorem wellFormed_of_compiled {rules : List Rule}
    (compiled : ∀ r ∈ rules, ∃ s : RuleSpec, s.compile = .ok r) : ∀ r ∈ rules, r.WellFormed := by
  intro r rule
  obtain ⟨s, compiles⟩ := compiled r rule
  exact wellFormed_of_compile compiles

end Trellis
