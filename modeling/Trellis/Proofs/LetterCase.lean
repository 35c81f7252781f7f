/-
# Trellis.Proofs.LetterCase — queries are blind to the case of ASCII letters

Two query texts with the same letters are read as chains alike, which differ in the letter
case of their terms at most (`Pattern.exists_parseQuery`). A term is compared in lower case,
so nodes alike accept the same vertices (`Pattern.Node.Alike.accepts_eq`), and the strides of
hops alike lead along the same edges to the same vertices. So they have the same walks
(`walks_congr`), and whatever the graph the two queries have the same rows in the same order
(`run_of_sameLetters`).
-/
import Trellis.Proofs.NameSearch
import Trellis.Proofs.Pattern.LetterCase
import Trellis.Proofs.Query

namespace Trellis

set_option autoImplicit false

open Text
open Pattern (Chain Hop)

/-! ## Vertices and strides -/

theorem Vertex.nameContains_of_toLower {term term' : String} (same : term.toLower = term'.toLower)
    (v : Vertex) : v.nameContains term = v.nameContains term' := by
  rw [nameContains, nameContains, (sameLetters_iff.mpr same).lower_eq]

namespace Pattern

/-- A node asks for its types and for its term in the name. -/
theorem Node.accepts_asks (n : Node) (v : Vertex) : n.asks.accepts v =
    ((n.types.isEmpty || v.hasAnyType n.types) && n.term.all v.nameContains) := by
  have byTerm := VertexFilter.accepts_term n.term v
  simp only [VertexFilter.accepts, asks, List.isEmpty_nil, Bool.true_or, Bool.true_and] at byTerm ⊢
  rw [← byTerm]
  rfl

/-- **Nodes alike accept the same vertices.** -/
theorem Node.Alike.accepts_eq {n n' : Node} (alike : n.Alike n') : n.asks.accepts = n'.asks.accepts := by
  funext v
  have terms : n.term.all v.nameContains = n'.term.all v.nameContains := by
    have same := alike.term
    cases left : n.term <;> cases right : n'.term <;> simp only [left, right, Option.map_some,
      Option.map_none, Option.some.injEq, reduceCtorEq] at same
    · rfl
    · exact v.nameContains_of_toLower same
  rw [accepts_asks, accepts_asks, alike.types, terms]

theorem Node.Alike.isShown_eq {n n' : Node} (alike : n.Alike n') :
    decide (n ≠ .hidden) = decide (n' ≠ .hidden) := by
  rw [← Stride.isShown_ofPattern, ← Stride.isShown_ofPattern]
  exact congrArg Role.isShown alike.role

end Pattern

/-- Strides along the same edges to the same vertices. -/
structure Stride.Alike (s t : Stride) : Prop where
  edges : s.edges = t.edges
  direction : s.direction = t.direction
  target : s.target.accepts = t.target.accepts
  isShown : s.isShown = t.isShown

theorem Pattern.Hop.Alike.stride {h h' : Hop} (alike : h.Alike h') (limit? : Option Nat) :
    (Stride.ofHop limit? h).Alike (Stride.ofHop limit? h') where
  edges := by rw [Stride.ofHop, alike.link]; rfl
  direction := congrArg Pattern.Link.direction alike.link
  target := alike.node.accepts_eq
  isShown := alike.node.isShown_eq

namespace Graph

variable {g : Graph} {s t : Stride}

/-! ## Walks -/

theorem fits_congr (alike : s.Alike t) : g.fits s = g.fits t := by
  funext e next
  simp only [fits, isEndpoint, alike.edges, Option.all_some, alike.target]

theorem ways_congr (alike : s.Alike t) (id : String) : g.ways s id = g.ways t id := by
  simp only [ways, waysOut, waysIn, waysAlong, fits_congr alike, alike.direction]

theorem continuations_congr {strides strides' : List Stride}
    (alike : List.Forall₂ Stride.Alike strides strides') (id : String) :
    g.continuations strides id = g.continuations strides' id := by
  induction alike generalizing id with
  | nil => rfl
  | cons first _ ih => simp only [continuations, ways_congr first, ih, first.isShown]

theorem walks_congr {head head' : VertexFilter} (sameHead : head.accepts = head'.accepts)
    (shown : Bool) {strides strides' : List Stride}
    (alike : List.Forall₂ Stride.Alike strides strides') :
    g.walks head shown strides = g.walks head' shown strides' := by
  simp only [walks, sameHead, continuations_congr alike]

/-! ## Queries -/

theorem Coherent.run_of_alike (coherent : g.Coherent) {c c' : Chain} (alike : c.Alike c')
    (limit? : Option Nat) : g.run limit? (.ofChain c) = g.run limit? (.ofChain c') := by
  have head := alike.head.accepts_eq
  have bothSingle : c.hops = [] ↔ c'.hops = [] := by
    rw [← List.length_eq_zero_iff, ← List.length_eq_zero_iff, alike.hops.length_eq]
  by_cases single : c.hops = []
  · rw [coherent.run_ofChain_of_single single,
      coherent.run_ofChain_of_single (bothSingle.mp single), head]
  · rw [coherent.run_ofChain single, coherent.run_ofChain (bothSingle.not.mp single), matchesOf,
      matchesOf, alike.head.isShown_eq]
    refine walks_congr head _ ?_
    rw [List.forall₂_map_left_iff, List.forall₂_map_right_iff]
    exact alike.hops.imp fun _ _ hop => hop.stride limit?

/-- **Queries are insensitive to ASCII letter case.** Of two texts with the same letters the
one is read when the other is; the chains have the same links, and the same nodes but for the
letter case of the terms; and in every reachable graph they have the same rows, in the same
order. -/
theorem run_of_sameLetters {p q : String} (same : p.toLower = q.toLower) :
    ((∃ c, Pattern.parseQuery p = .ok c) ↔ ∃ c', Pattern.parseQuery q = .ok c') ∧
      ∀ c c', Pattern.parseQuery p = .ok c → Pattern.parseQuery q = .ok c' →
        c.links = c'.links ∧
          List.Forall₂ (fun n n' => n.role = n'.role ∧ n.types = n'.types ∧
            n.term.map String.toLower = n'.term.map String.toLower) c.nodes c'.nodes ∧
          ∀ g : Graph, g.Reachable → ∀ limit?,
            g.run limit? (.ofChain c) = g.run limit? (.ofChain c') := by
  have letters := sameLetters_iff.mpr same
  refine ⟨⟨?_, ?_⟩, fun c c' read read' => ?_⟩
  · rintro ⟨c, read⟩
    obtain ⟨c', read', -⟩ := Pattern.exists_parseQuery letters read
    exact ⟨c', read'⟩
  · rintro ⟨c', read'⟩
    obtain ⟨c, read, -⟩ := Pattern.exists_parseQuery letters.symm read'
    exact ⟨c, read⟩
  · obtain ⟨found, readFound, alike⟩ := Pattern.exists_parseQuery letters read
    obtain rfl : found = c' := Except.ok.inj (readFound.symm.trans read')
    exact ⟨alike.links, alike.nodes.imp fun _ _ node => ⟨node.role, node.types, node.term⟩,
      fun g reachable limit? => reachable.coherent.run_of_alike alike limit?⟩

/-- A name that ends in a capital sigma, which has a letter before it. -/
def signpost : Graph :=
  (empty.calls [
    .addVertices [.of "a" ["person"] "Odos X\u03A3", .of "b" ["host"] "Bob"],
    .addEdge (.asserted "a" ["Knows"] "b")]).2

theorem signpost_reachable : signpost.Reachable := Reachable.empty.calls _

def inAnyCase : String := "?('oS X\u03A3' : Person oR HOST) -[Likes OR knows]-> (*)"

def inOtherCase : String := "?('Os x\u03A3' : pERSON or host) -[lIKES or KNOWS]-> (*)"

/-- The chain of both, with its term as it is written. -/
def toSomebody (term : String) : Chain where
  head := .describedTyped term ["host", "person"]
  hops := [⟨⟨.typed, .bonded, false, true, ["knows", "likes"], .anyOf⟩, .any⟩]

theorem run_of_sameLetters_signpost :
    inAnyCase.toLower = inOtherCase.toLower ∧ inAnyCase ≠ inOtherCase ∧
      Pattern.parseQuery inAnyCase = .ok (toSomebody "oS X\u03A3") ∧
      Pattern.parseQuery inOtherCase = .ok (toSomebody "Os x\u03A3") ∧
      signpost.Reachable ∧
      signpost.run none (.ofChain (toSomebody "oS X\u03A3")) =
        signpost.run none (.ofChain (toSomebody "Os x\u03A3")) ∧
      (signpost.run none (.ofChain (toSomebody "Os x\u03A3"))).map (·.ids) =
        [["a", "a>knows>b", "b"]] := by
  have same : inAnyCase.toLower = inOtherCase.toLower :=
    sameLetters_iff.mp (by decide +kernel)
  have read : Pattern.parseQuery inAnyCase = .ok (toSomebody "oS X\u03A3") := by decide +kernel
  have read' : Pattern.parseQuery inOtherCase = .ok (toSomebody "Os x\u03A3") := by decide +kernel
  obtain ⟨-, alike⟩ := run_of_sameLetters same
  exact ⟨same, by decide +kernel, read, read', signpost_reachable,
    (alike _ _ read read').2.2 signpost signpost_reachable none, by decide +kernel⟩

end Graph

end Trellis
