/-
# Trellis.Proofs.Transitivity — a rule that doubles its reach in each generation

The rule `()[e]>()[e]>()` with the production `(1)[e](3)` puts an edge across any two that
follow one another and carry the type (`compile_transitivity`). So what one stage of the
consequence operator joins, the next joins again, and whatever two vertices it can join in
two steps (`joins_consequences_iff`).

A walk of at most 2^(n + 1) edges is one of at most 2^n, or falls into two of them, the
first of which has just 2^n (`walkWithin_double_iff`). By induction stage n joins what
walks of at most 2^n edges join (`joins_stage_iff`), and derivation computes the stages:
after n generations an edge stands for each such walk (`deriveEdges_transitivity`).
-/
import Trellis.Proofs.Pattern.RuleDialect
import Trellis.Proofs.Stages

namespace Trellis

set_option autoImplicit false

open Text

/-! ## The rule as it is written -/

/-- The rule that puts an edge with a type across two edges with that type. -/
def transitivity (name : Option String) (word : String) : RuleSpec where
  name := name
  antecedent := "()[" ++ word ++ "]>()[" ++ word ++ "]>()"
  production := "(1)[" ++ word ++ "](3)"

namespace Pattern

open Grammar

/-- The link of a path along edges with a type. -/
def Link.along (type : String) : Link := ⟨.typed, .path, false, true, [type], .anyOf⟩

variable {word : String}

/-- A word with white space around it is a list of one tag. -/
theorem commaList_of_isTagWord (accepted : isTagWord (trim word.toList) = true) :
    CommaList word.toList [Tag.canonical word] := by
  have isTag := isTagWord_iff.mp accepted
  obtain ⟨before, after, blank, blank', whole⟩ := (trim_eq_tag_iff isTag).mp rfl
  have single := CommaTags.last blank isTag blank'
  rw [← whole] at single
  refine .tags single ⟨List.pairwise_singleton _ _, fun type => ?_⟩
  rw [List.mem_singleton, ← String.toList_inj, Tag.toList_canonical]
  simp only [List.mem_singleton, exists_eq_left, ← String.toList_inj, String.toList_ofList]
  exact eq_comm

theorem not_allBlank_of_isTagWord (accepted : isTagWord (trim word.toList) = true) :
    allBlank word.toList = false := by
  have isTag := isTagWord_iff.mp accepted
  rw [← Bool.not_eq_true, ← trim_eq_nil_iff]
  exact isTag.ne_nil

theorem parseAntecedent_transitivity (accepted : isTagWord (trim word.toList) = true)
    (name : Option String) : parseAntecedent (transitivity name word).antecedent =
      .ok ⟨.hidden, [⟨.along (Tag.canonical word), .hidden⟩, ⟨.along (Tag.canonical word), .hidden⟩]⟩ := by
  rw [parseAntecedent_eq_ok_iff]
  have link : RuleLinkText ('[' :: word.toList ++ [']', '>']) (.along (Tag.canonical word)) := by
    cases commaList_of_isTagWord accepted with
    | tags listed lowered => exact .outbound (.typed listed lowered)
  have empty : NodeText (trim []) .hidden := trim_nil ▸ .hidden
  have whole : (transitivity name word).antecedent.toList = '(' :: [] ++ ')' :: ([] ++
      ('[' :: word.toList ++ [']', '>']) ++ [] ++ '(' :: [] ++ ')' :: ([] ++
        ('[' :: word.toList ++ [']', '>']) ++ [] ++ '(' :: [] ++ ')' :: [])) := by
    simp [transitivity]
  have trimmed : isTrimmed (transitivity name word).antecedent.toList = true := by
    simpa [transitivity] using isTrimmed_between
      (by decide : isBlank '(' = false) (by decide : isBlank ')' = false)
      (")[".toList ++ word.toList ++ "]>()[".toList ++ word.toList ++ "]>(".toList)
  rw [trim_of_isTrimmed trimmed, whole]
  exact ⟨.chain empty (.hop rfl link rfl empty (.hop rfl link rfl empty .done)), rfl⟩

theorem parseProduction_transitivity (accepted : isTagWord (trim word.toList) = true)
    (name : Option String) : parseProduction (transitivity name word).production =
      .ok ⟨.first, .third, [Tag.canonical word]⟩ := by
  rw [parseProduction_eq_ok_iff]
  have slot (s : Slot) : SlotText (trim [slotDigit s]) s := by
    have digit : trim [slotDigit s] = [slotDigit s] := by cases s <;> decide
    rw [digit]
    exact .plain 0 s
  have whole : (transitivity name word).production.toList = '(' :: [slotDigit .first] ++
      ')' :: [] ++ '[' :: word.toList ++ ']' :: [] ++ '(' :: [slotDigit .third] ++ [')'] := by
    simp [transitivity, slotDigit]
  have trimmed : isTrimmed (transitivity name word).production.toList = true := by
    simpa [transitivity] using isTrimmed_between
      (by decide : isBlank '(' = false) (by decide : isBlank ')' = false)
      ("1)[".toList ++ word.toList ++ "](3".toList)
  rw [trim_of_isTrimmed trimmed, whole]
  exact .production (slot .first) rfl (commaList_of_isTagWord accepted)
    (not_allBlank_of_isTagWord accepted) rfl (slot .third)

end Pattern

/-! ## The rule as it is run -/

/-- Any vertex, an edge with a type, and any vertex. -/
def Plan.Triple.along (type : String) : Plan.Triple where
  source := .ofPattern .hidden
  link := .ofPattern (.along type)
  target := .ofPattern .hidden

/-- What the rule is like, whatever its name. -/
structure Rule.IsTransitivity (r : Rule) (type : String) : Prop where
  plan : r.antecedent.plan = .walk [.along type, .along type]
  production : r.production = ⟨.first, .third, [type]⟩

theorem compile_transitivity {word : String}
    (accepted : Pattern.isTagWord (trim word.toList) = true) (name : Option String) :
    ∃ r, (transitivity name word).compile = .ok r ∧ r.IsTransitivity (Tag.canonical word) := by
  have parsed := Rule.parse_eq_ok_iff_halves.mpr
    ⟨_, _, Pattern.parseAntecedent_transitivity accepted name,
      Pattern.parseProduction_transitivity accepted name, rfl⟩
  refine ⟨_, bind_eq_ok_iff.mpr ⟨_, parsed, rfl⟩, ?_⟩
  -- a name of its own changes nothing else
  cases name with
  | none => exact ⟨rfl, rfl⟩
  | some name => exact ⟨rfl, rfl⟩

/-! ## What it makes of a set of edges -/

/-- Some edge of a set carries a type from one vertex to another. -/
def Joins (edges : Set Edge.Identity) (type : String) (u v : Vertex) : Prop :=
  ∃ i ∈ edges, type ∈ i.types ∧ i.source = u.id ∧ i.target = v.id

section

variable {type : String} {r : Rule} {vertices : List Vertex} {edges : Set Edge.Identity} {u v w : Vertex}

theorem connects_along_iff (clean : Tag.Clean type) :
    (Plan.Triple.along type).link.Connects edges u v ↔ Joins edges type u v := by
  have types : (Plan.Triple.along type).link.edgeFilter.types = [type] :=
    Tag.normalize_eq_self (List.forall_mem_singleton.mpr clean) (List.pairwise_singleton _ _)
  have admits (i : Edge.Identity) :
      (Plan.Triple.along type).link.edgeFilter.Admits i.types ↔ type ∈ i.types := by
    have anyOf : (Plan.Triple.along type).link.edgeFilter.inclusive = false := rfl
    simp [EdgeFilter.Admits, types, anyOf]
  have leads (i : Edge.Identity) : (Plan.Triple.along type).link.direction.Leads i.source i.target u.id v.id ↔
      i.source = u.id ∧ i.target = v.id := by
    have outbound : (Plan.Triple.along type).link.direction = .outbound := rfl
    simp [outbound, Pattern.Direction.Leads]
  simp only [Plan.Link.Connects, Joins, admits, leads]

/-- The antecedent asks nothing of the vertices, only that they are stored. -/
theorem Rule.IsTransitivity.matches_iff (rule : r.IsTransitivity type) (clean : Tag.Clean type) :
    r.Matches vertices edges u v w ↔ (u ∈ vertices ∧ v ∈ vertices ∧ w ∈ vertices) ∧
      Joins edges type u v ∧ Joins edges type v w := by
  have any (x : Vertex) : (Plan.Node.ofPattern .hidden).filter.accepts x = true := by
    simp [Plan.Node.ofPattern, Plan.Node.filter, VertexFilter.accepts, VertexFilter.activeTerm,
      Pattern.Node.types, Pattern.Node.term]
  refine and_congr_right fun _ => ?_
  rw [← connects_along_iff clean, ← connects_along_iff clean, rule.plan]
  constructor
  · rintro ⟨t, s, plan, -, first, second⟩
    obtain ⟨rfl, rfl⟩ : Plan.Triple.along type = t ∧ Plan.Triple.along type = s := by simpa using plan
    exact ⟨first, second⟩
  · rintro ⟨first, second⟩
    exact ⟨_, _, rfl, ⟨any u, any v, any w⟩, first, second⟩

theorem Rule.IsTransitivity.product_eq (rule : r.IsTransitivity type) (u v w : Vertex) :
    r.product u v w = ⟨u.id, [type].toFinset, w.id⟩ := by
  rw [product, rule.production]
  rfl

/-- **One step joins what was joined, and what two edges in a row join.** -/
theorem joins_consequences_iff (rule : r.IsTransitivity type) (clean : Tag.Clean type)
    (left : u ∈ vertices) (right : w ∈ vertices) :
    Joins (consequences [r] vertices edges) type u w ↔ Joins edges type u w ∨
      ∃ v ∈ vertices, Joins edges type u v ∧ Joins edges type v w := by
  constructor
  · rintro ⟨i, old | ⟨_, here, a, b, c, matched, rfl⟩, carries, leaves, enters⟩
    · exact .inl ⟨i, old, carries, leaves, enters⟩
    · obtain rfl := List.mem_singleton.mp here
      obtain ⟨⟨-, stored, -⟩, ⟨i, first, carries, leaves', enters'⟩, ⟨j, second, carries', leaves'',
        enters''⟩⟩ := (rule.matches_iff clean).mp matched
      rw [rule.product_eq] at leaves enters
      exact .inr ⟨b, stored, ⟨i, first, carries, leaves'.trans leaves, enters'⟩,
        ⟨j, second, carries', leaves'', enters''.trans enters⟩⟩
  · rintro (⟨i, old, carries, leaves, enters⟩ | ⟨v, stored, first, second⟩)
    · exact ⟨i, .inl old, carries, leaves, enters⟩
    · have matched := (rule.matches_iff clean).mpr ⟨⟨left, stored, right⟩, first, second⟩
      refine ⟨_, .inr ⟨r, List.mem_singleton_self r, u, v, w, matched, rfl⟩, ?_⟩
      rw [rule.product_eq]
      exact ⟨List.mem_toFinset.mpr (List.mem_singleton_self type), rfl, rfl⟩

end

namespace Graph

variable {g : Graph} {type : String} {k l : Nat} {u v w : Vertex}

/-! ## Walks -/

/-- Some edge carries a type from one vertex to another, whatever types it carries besides. -/
def Carries (g : Graph) (type : String) (u v : Vertex) : Prop :=
  ∃ e ∈ g.edges, type ∈ e.types ∧ e.source = u.id ∧ e.target = v.id

/-- A walk through stored vertices along so many edges that carry a type. -/
inductive TypedWalk (g : Graph) (type : String) : Nat → Vertex → Vertex → Prop
  | stay {v : Vertex} (stored : v ∈ g.vertices) : TypedWalk g type 0 v v
  | step {k : Nat} {u v w : Vertex} (stored : u ∈ g.vertices) (carries : g.Carries type u v)
      (rest : TypedWalk g type k v w) : TypedWalk g type (k + 1) u w

theorem joins_identities_iff : Joins g.identities type u v ↔ g.Carries type u v := by
  constructor
  · rintro ⟨_, ⟨e, stored, rfl⟩, carries, leaves, enters⟩
    exact ⟨e, stored, List.mem_toFinset.mp carries, leaves, enters⟩
  · rintro ⟨e, stored, carries, leaves, enters⟩
    exact ⟨e.identity, ⟨e, stored, rfl⟩, List.mem_toFinset.mpr carries, leaves, enters⟩

theorem TypedWalk.start_mem (walk : g.TypedWalk type k u w) : u ∈ g.vertices := by
  cases walk with
  | stay stored => exact stored
  | step stored _ _ => exact stored

theorem typedWalk_one_iff (left : u ∈ g.vertices) (right : w ∈ g.vertices) :
    g.TypedWalk type 1 u w ↔ g.Carries type u w := by
  constructor
  · intro walk
    cases walk with
    | step _ carries rest =>
        cases rest
        exact carries
  · exact fun carries => .step left carries (.stay right)

/-- A walk can be continued where it ends. -/
theorem TypedWalk.append (first : g.TypedWalk type k u v) (second : g.TypedWalk type l v w) :
    g.TypedWalk type (k + l) u w := by
  induction first with
  | stay _ => rwa [Nat.zero_add]
  | step stored carries _ ih =>
      rw [Nat.add_right_comm]
      exact .step stored carries (ih second)

/-- A walk can be cut after any number of edges. -/
theorem TypedWalk.split (walk : g.TypedWalk type (k + l) u w) :
    ∃ v, g.TypedWalk type k u v ∧ g.TypedWalk type l v w := by
  induction k generalizing u with
  | zero => exact ⟨u, .stay walk.start_mem, by rwa [Nat.zero_add] at walk⟩
  | succ k ih =>
      rw [Nat.add_right_comm] at walk
      cases walk with
      | step stored carries rest =>
          obtain ⟨v, first, second⟩ := ih rest
          exact ⟨v, .step stored carries first, second⟩

/-- Walks of at least one edge and at most so many. -/
def WalkWithin (g : Graph) (type : String) (bound : Nat) (u w : Vertex) : Prop :=
  ∃ k, 1 ≤ k ∧ k ≤ bound ∧ g.TypedWalk type k u w

/-- **Twice as many edges reach what two walks reach, one after the other.** -/
theorem walkWithin_double_iff {bound : Nat} (some_ : 1 ≤ bound) :
    g.WalkWithin type (2 * bound) u w ↔ g.WalkWithin type bound u w ∨
      ∃ v ∈ g.vertices, g.WalkWithin type bound u v ∧ g.WalkWithin type bound v w := by
  constructor
  · rintro ⟨k, atLeast, atMost, walk⟩
    by_cases short : k ≤ bound
    · exact .inl ⟨k, atLeast, short, walk⟩
    · -- the first half is as long as it may be, and something is left
      obtain ⟨rest, rfl⟩ : ∃ rest, k = bound + rest := ⟨k - bound, by omega⟩
      obtain ⟨v, first, second⟩ := walk.split
      exact .inr ⟨v, second.start_mem, ⟨bound, some_, le_rfl, first⟩, ⟨rest, by omega, by omega, second⟩⟩
  · rintro (⟨k, atLeast, atMost, walk⟩ | ⟨v, -, ⟨k, atLeast, atMost, first⟩, l, -, atMost', second⟩)
    · exact ⟨k, atLeast, by omega, walk⟩
    · exact ⟨k + l, by omega, by omega, first.append second⟩

/-! ## Generations -/

/-- **Stage n joins what walks of at most 2^n edges join.** -/
theorem joins_stage_iff {r : Rule} (rule : r.IsTransitivity type) (clean : Tag.Clean type) (n : Nat)
    (left : u ∈ g.vertices) (right : w ∈ g.vertices) :
    Joins (stage [r] g.vertices g.identities n) type u w ↔ g.WalkWithin type (2 ^ n) u w := by
  induction n generalizing u w with
  | zero =>
      rw [show stage [r] g.vertices g.identities 0 = g.identities from rfl, joins_identities_iff,
        ← typedWalk_one_iff left right]
      constructor
      · exact fun walk => ⟨1, le_rfl, le_rfl, walk⟩
      · rintro ⟨k, atLeast, atMost, walk⟩
        obtain rfl : k = 1 := by omega
        exact walk
  | succ n ih =>
      rw [stage_succ, joins_consequences_iff rule clean left right, ih left right, Nat.pow_succ',
        walkWithin_double_iff Nat.one_le_two_pow]
      refine or_congr_right (exists_congr fun v => and_congr_right fun stored => ?_)
      rw [ih left stored, ih stored right]

/-- **The transitivity rule doubles its reach in each generation.** For every tag that rules
accept the rule compiles and n generations of it succeed; afterwards an edge carries the type
from one stored vertex to another just when there was a walk between them along at least one
and at most 2^n edges with the type. -/
theorem deriveEdges_transitivity (reachable : g.Reachable)
    (asserted : ∀ e ∈ g.edges, e.isDerived = false) {word : String}
    (accepted : Pattern.isTagWord (trim word.toList) = true) (name : Option String) (n : Nat) :
    ∃ r, (transitivity name word).compile = .ok r ∧
      (∃ report, (g.deriveEdges [r] Edge.derived n).1 = .ok report) ∧
      (g.deriveEdges [r] Edge.derived n).2.vertices = g.vertices ∧
      ∀ u ∈ g.vertices, ∀ v ∈ g.vertices,
        (g.deriveEdges [r] Edge.derived n).2.Carries (Tag.canonical word) u v ↔
          ∃ k, 1 ≤ k ∧ k ≤ 2 ^ n ∧ g.TypedWalk (Tag.canonical word) k u v := by
  obtain ⟨r, compiled, rule⟩ := compile_transitivity accepted name
  have wellFormed : ∀ s ∈ [r], s.WellFormed := by
    simpa using wellFormed_of_compile compiled
  have clean : Tag.Clean (Tag.canonical word) := by
    have typed := (wellFormed r (List.mem_singleton_self r)).clean
    rw [rule.production] at typed
    exact typed _ (List.mem_singleton_self _)
  obtain ⟨succeeds, staged⟩ :=
    (Staged.zero reachable.coherent [r]).deriveThrough asserted wellFormed n {}
  rw [Nat.zero_add] at staged succeeds
  refine ⟨r, compiled, succeeds, staged.vertices, fun u left v right => ?_⟩
  rw [← joins_identities_iff]
  exact staged.identities ▸ joins_stage_iff rule clean n left right

/-- Six people in a row, each of whom knows the next; one of them likes the next as well. -/
def lineUp : Graph :=
  (empty.calls [
    .addVertices (["ann", "bob", "cyd", "dan", "eve", "fay"].map fun id => .of id ["person"] id),
    .addEdges [.asserted "ann" ["knows"] "bob", .asserted "bob" ["Likes", "Knows"] "cyd",
      .asserted "cyd" ["knows"] "dan", .asserted "dan" ["knows"] "eve",
      .asserted "eve" ["knows"] "fay"]]).2

theorem lineUp_reachable : lineUp.Reachable := Reachable.empty.calls _

def knowsRule : Rule where
  name := "()[ Knows ]>()[ Knows ]>() => (1)[ Knows ](3)"
  antecedent := ⟨.walk [.along "knows", .along "knows"]⟩
  production := ⟨.first, .third, ["knows"]⟩

/-- Two generations lead as far as four edges, and so from the first to the fifth. -/
theorem deriveEdges_transitivity_lineUp :
    lineUp.Reachable ∧ (∀ e ∈ lineUp.edges, e.isDerived = false) ∧
      Pattern.isTagWord (trim " Knows ".toList) = true ∧ Tag.canonical " Knows " = "knows" ∧
      (transitivity none " Knows ").compile = .ok knowsRule ∧
      (∀ u ∈ lineUp.vertices, ∀ v ∈ lineUp.vertices,
        (lineUp.deriveEdges [knowsRule] Edge.derived 2).2.Carries "knows" u v ↔
          ∃ k, 1 ≤ k ∧ k ≤ 2 ^ 2 ∧ lineUp.TypedWalk "knows" k u v) ∧
      (lineUp.deriveEdges [knowsRule] Edge.derived 2).2.edges.map
          (fun e => (e.source, e.types, e.target)) =
        [("ann", ["knows"], "bob"), ("bob", ["knows", "likes"], "cyd"), ("cyd", ["knows"], "dan"),
          ("dan", ["knows"], "eve"), ("eve", ["knows"], "fay"), ("ann", ["knows"], "cyd"),
          ("bob", ["knows"], "dan"), ("cyd", ["knows"], "eve"), ("dan", ["knows"], "fay"),
          ("ann", ["knows"], "dan"), ("ann", ["knows"], "eve"), ("bob", ["knows"], "eve"),
          ("bob", ["knows"], "fay"), ("cyd", ["knows"], "fay")] := by
  have asserted : ∀ e ∈ lineUp.edges, e.isDerived = false := by decide +kernel
  have accepted : Pattern.isTagWord (trim " Knows ".toList) = true := by decide +kernel
  have spelled : Tag.canonical " Knows " = "knows" := by decide +kernel
  have compiled : (transitivity none " Knows ").compile = .ok knowsRule := by decide +kernel
  obtain ⟨r, compiled', -, -, joined⟩ :=
    deriveEdges_transitivity lineUp_reachable asserted accepted none 2
  obtain rfl : r = knowsRule := Except.ok.inj (compiled'.symm.trans compiled)
  rw [spelled] at joined
  exact ⟨lineUp_reachable, asserted, accepted, spelled, compiled, joined, by decide +kernel⟩

end Graph

end Trellis
