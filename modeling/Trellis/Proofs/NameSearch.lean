/-
# Trellis.Proofs.NameSearch — which terms a search by name is sure to find

A search by name compares the lower case of a term with that of a name. A name that has the
term in it, letter by letter, is found if the lower case of the term is in that of the name,
and this is so for every name exactly if the term is steady, that is, each capital sigma in
it is settled by the characters around it in the term (`Text.isSteady_iff_occurs`). A term
without a capital sigma is steady (`nameContains_of_occurs`). One that ends in a sigma after a letter is not: on its
own it ends in the final form, and within a longer word it does not (`search_misses_sigma`).

A filter by a term, and a query of one node with a term between quotes, give the vertices
whose names match (`Linked.mem_filterVertices_ofTerm`, `search_described`). So they find
every vertex with the term in its name, in every graph, for the steady terms and no others
(`search_finds_iff_isSteady`).
-/
import Trellis.Proofs.EdgeIdentity
import Trellis.Proofs.Graph.Lookup
import Trellis.Proofs.Graph.Reachable
import Trellis.Proofs.Pattern.Query
import Trellis.Proofs.Text.Sigma
import Trellis.Query

namespace Trellis

set_option autoImplicit false

open Text

/-! ## Filters -/

theorem Vertex.nameContains_iff {v : Vertex} {term : String} :
    v.nameContains term = true ↔ lower term.toList <:+: lower v.name.toList :=
  occursIn_iff _ _

theorem Vertex.nameContains_empty (v : Vertex) : v.nameContains "" = true :=
  nameContains_iff.mpr (List.nil_infix)

/-- A filter on nothing but the name. -/
theorem VertexFilter.accepts_term (term : Option String) (v : Vertex) :
    VertexFilter.accepts ⟨[], [], term⟩ v = term.all v.nameContains := by
  cases term with
  | none => rfl
  | some term =>
      by_cases none_ : term = ""
      · subst none_
        simp [accepts, activeTerm, v.nameContains_empty]
      · simp [accepts, activeTerm, none_]

theorem VertexFilter.accepts_ofTerm (term : String) (v : Vertex) :
    (VertexFilter.ofTerm term).accepts v = v.nameContains term := by
  refine (accepts_term _ v).trans ?_
  split
  · next none_ => rw [none_, v.nameContains_empty, Option.all_none]
  · rfl

/-- A node with a term between quotes, wherever it stands in a pattern. -/
theorem Plan.Node.accepts_described (term : String) (v : Vertex) :
    (Plan.Node.ofPattern (.described term)).filter.accepts v = v.nameContains term :=
  VertexFilter.accepts_term (some term) v

/-! ## Queries -/

namespace Pattern

open Grammar

/-- The query of one node with a term between quotes. -/
def termQuery (term : String) : String := "?('" ++ term ++ "')"

theorem parseSearch_termQuery {term : String} (isTerm : SearchTerm term.toList) :
    parseSearch (termQuery term) = .ok ⟨.described term, []⟩ := by
  have text : (termQuery term).toList = '?' :: ('(' :: '\'' :: term.toList ++ ['\''] ++ [')']) := by
    simp [termQuery]
  have trimmed : trim (termQuery term).toList = (termQuery term).toList := by
    rw [text]
    exact trim_of_isTrimmed (isTrimmed_between (by decide) (by decide) _)
  have inside : trim ('\'' :: (term.toList ++ ['\''])) = '\'' :: (term.toList ++ ['\'']) :=
    trim_of_isTrimmed (isTrimmed_between (by decide) (by decide) _)
  have node : NodeText (trim ('\'' :: (term.toList ++ ['\'']))) (.described term) := by
    rw [inside]
    simpa using NodeText.described isTerm
  have sigil : withSigil (termQuery term).toList = (termQuery term).toList := by
    rw [text]
    rfl
  rw [parseSearch, trimmed, sigil, String.ofList_toList]
  refine parseQuery_of_chainText (trimmed.trans text) ?_ ⟨nofun, nofun⟩
  simpa using ChainText.chain node (.done : HopsText LinkText [] [])

end Pattern

namespace Graph

variable {g : Graph} {term : String}

theorem Linked.mem_filterVertices_ofTerm (linked : g.Linked) {v : Vertex} :
    v ∈ g.filterVertices (.ofTerm term) ↔ v ∈ g.vertices ∧ v.nameContains term = true := by
  rw [linked.filterVertices_eq, List.mem_filter, VertexFilter.accepts_ofTerm]

/-- **A query of one node with a term gives the vertices whose names match.** -/
theorem Linked.search_described (linked : g.Linked) (isTerm : Pattern.Grammar.SearchTerm term.toList) :
    g.search (Pattern.termQuery term) =
      .ok ((g.vertices.filter (·.nameContains term)).map fun v => .start v.id true) := by
  have same : (Plan.Node.ofPattern (.described term)).filter.accepts = (·.nameContains term) :=
    funext (Plan.Node.accepts_described term)
  rw [search, planOf, Pattern.parseSearch_termQuery isTerm, ← same, ← linked.filterVertices_eq]
  rfl

/-! ## Terms that are found -/

/-- A graph of one vertex, with a given name. -/
def ofName (name : String) : Graph := (empty.call (.addVertex (.of "a" ["t"] name))).2

theorem reachable_ofName (name : String) : (ofName name).Reachable := Reachable.empty.call _

theorem vertices_ofName (name : String) : (ofName name).vertices = [⟨"a", ["t"], name⟩] := by
  have types : (Vertex.of "a" ["t"] name).normalized = ⟨"a", ["t"], name⟩ := by
    have same : Tag.normalize (Tag.normalize ["t"]) = ["t"] := by decide +kernel
    rw [Vertex.normalized, Vertex.of, same]
  have checked : (Vertex.of "a" ["t"] name).normalized.check = .ok () := by
    have id : Vertex.checkId "a" = .ok () := by decide +kernel
    have tags : Tag.check .vertex ["t"] = .ok () := by decide +kernel
    rw [types, Vertex.check_eq_ok_iff]
    exact ⟨id, tags⟩
  have fresh : empty.hasVertex (Vertex.of "a" ["t"] name).normalized = false := by
    rw [types]
    rfl
  rw [ofName, call_addVertex_of_checked checked, fresh, if_neg Bool.false_ne_true,
    vertices_storeVertex, types]
  rfl

/-- A row of the query has the vertex exactly if its name matches. -/
theorem Linked.exists_row_iff (linked : g.Linked) (isTerm : Pattern.Grammar.SearchTerm term.toList)
    {v : Vertex} (stored : v ∈ g.vertices) :
    (∃ rows, g.search (Pattern.termQuery term) = .ok rows ∧ .start v.id true ∈ rows) ↔
      v.nameContains term = true := by
  rw [linked.search_described isTerm]
  constructor
  · rintro ⟨rows, found, here⟩
    obtain rfl := Except.ok.inj found
    obtain ⟨w, kept, row⟩ := List.mem_map.mp here
    obtain ⟨stored', matches_⟩ := List.mem_filter.mp kept
    have id : w.id = v.id := by simpa [Row.start] using row
    rwa [← linked.vertex_eq_of_id stored' stored id]
  · intro matches_
    exact ⟨_, rfl, List.mem_map_of_mem (List.mem_filter.mpr ⟨stored, matches_⟩)⟩

theorem isSteady_iff_nameContains : isSteady term.toList = true ↔
    ∀ v : Vertex, term.toList <:+: v.name.toList → v.nameContains term = true := by
  rw [isSteady_iff_occurs]
  constructor
  · intro found v inside
    exact Vertex.nameContains_iff.mpr (found _ inside)
  · intro found text inside
    have named := found ⟨"", [], String.ofList text⟩
    rw [Vertex.nameContains_iff, String.toList_ofList] at named
    exact named inside

/-- A term without a capital sigma is found wherever it is. -/
theorem nameContains_of_occurs (noSigma : '\u03A3' ∉ term.toList) {v : Vertex}
    (inside : term.toList <:+: v.name.toList) : v.nameContains term = true :=
  isSteady_iff_nameContains.mp (isSteadyFrom_of_notMem noSigma) v inside

/-- Whatever selects the vertices whose names match is sure to select those with the term
in their names exactly if the term is steady. -/
theorem isSteady_iff_selects {Selects : Graph → Vertex → Prop}
    (selects : ∀ g : Graph, g.Reachable → ∀ v ∈ g.vertices,
      (Selects g v ↔ v.nameContains term = true)) :
    isSteady term.toList = true ↔ ∀ g : Graph, g.Reachable → ∀ v ∈ g.vertices,
      term.toList <:+: v.name.toList → Selects g v := by
  rw [isSteady_iff_nameContains]
  constructor
  · intro found g reachable v stored inside
    exact (selects g reachable v stored).mpr (found v inside)
  · intro found v inside
    have stored : ⟨"a", ["t"], v.name⟩ ∈ (ofName v.name).vertices := by simp [vertices_ofName]
    have reachable := reachable_ofName v.name
    exact (selects _ reachable _ stored).mp (found _ reachable _ stored inside)

/-- **Search by name is sure to find the steady terms, and no others.** For a steady term,
a name with the term in it matches; hence in every graph a filter by the term, and a query of
one node with the term between quotes if it can stand there, give all vertices with such
names. For any other term there is a name, and a graph with a vertex of this name, for which
they do not. -/
theorem search_finds_iff_isSteady (term : String) :
    (isSteady term.toList = true ↔
      ∀ v : Vertex, term.toList <:+: v.name.toList → v.nameContains term = true) ∧
    (isSteady term.toList = true ↔ ∀ g : Graph, g.Reachable → ∀ v ∈ g.vertices,
      term.toList <:+: v.name.toList → v ∈ g.filterVertices (.ofTerm term)) ∧
    (Pattern.Grammar.SearchTerm term.toList →
      (isSteady term.toList = true ↔ ∀ g : Graph, g.Reachable → ∀ v ∈ g.vertices,
        term.toList <:+: v.name.toList →
          ∃ rows, g.search (Pattern.termQuery term) = .ok rows ∧ .start v.id true ∈ rows)) := by
  refine ⟨isSteady_iff_nameContains, isSteady_iff_selects fun g reachable v stored => ?_,
    fun isTerm => isSteady_iff_selects fun g reachable v stored => ?_⟩
  · rw [reachable.coherent.toLinked.mem_filterVertices_ofTerm]
    exact and_iff_right stored
  · exact reachable.coherent.toLinked.exists_row_iff isTerm stored

/-- A sigma that a letter follows within the term. -/
theorem search_finds_iff_isSteady_sample :
    Pattern.Grammar.SearchTerm "ΟΣΤ".toList ∧ isSteady "ΟΣΤ".toList = true ∧
      "ΟΣΤ".toList <:+: "ΟΔΟΣΤΡΩΜΑ".toList ∧
      (Vertex.mk "a" ["t"] "ΟΔΟΣΤΡΩΜΑ").nameContains "ΟΣΤ" = true ∧
      ⟨"a", ["t"], "ΟΔΟΣΤΡΩΜΑ"⟩ ∈ (ofName "ΟΔΟΣΤΡΩΜΑ").filterVertices (.ofTerm "ΟΣΤ") ∧
      ∃ rows, (ofName "ΟΔΟΣΤΡΩΜΑ").search (Pattern.termQuery "ΟΣΤ") = .ok rows ∧
        .start "a" true ∈ rows := by
  obtain ⟨matches_, filter, query⟩ := search_finds_iff_isSteady "ΟΣΤ"
  have isTerm : Pattern.Grammar.SearchTerm "ΟΣΤ".toList := ⟨by decide +kernel, by decide +kernel⟩
  have steady : isSteady "ΟΣΤ".toList = true := by decide +kernel
  have inside : "ΟΣΤ".toList <:+: "ΟΔΟΣΤΡΩΜΑ".toList := by decide +kernel
  have stored : ⟨"a", ["t"], "ΟΔΟΣΤΡΩΜΑ"⟩ ∈ (ofName "ΟΔΟΣΤΡΩΜΑ").vertices := by
    rw [vertices_ofName]
    exact List.mem_singleton_self _
  have reachable := reachable_ofName "ΟΔΟΣΤΡΩΜΑ"
  exact ⟨isTerm, steady, inside, matches_.mp steady ⟨"a", ["t"], "ΟΔΟΣΤΡΩΜΑ"⟩ inside,
    filter.mp steady _ reachable _ stored inside, (query isTerm).mp steady _ reachable _ stored inside⟩

/-- **A term that ends in a capital sigma is missed inside a longer word**, although it is
there letter by letter: on its own it ends in the final form of the letter. -/
theorem search_misses_sigma :
    "ΟΔΟΣ".toList <:+: "ΟΔΟΣΤΡΩΜΑ".toList ∧
      (Vertex.mk "a" ["t"] "ΟΔΟΣΤΡΩΜΑ").nameContains "ΟΔΟΣ" = false ∧
      (ofName "ΟΔΟΣΤΡΩΜΑ").Reachable ∧
      (ofName "ΟΔΟΣΤΡΩΜΑ").vertices = [⟨"a", ["t"], "ΟΔΟΣΤΡΩΜΑ"⟩] ∧
      (ofName "ΟΔΟΣΤΡΩΜΑ").filterVertices (.ofTerm "ΟΔΟΣ") = [] ∧
      (ofName "ΟΔΟΣΤΡΩΜΑ").search (Pattern.termQuery "ΟΔΟΣ") = .ok [] := by
  have inside : "ΟΔΟΣ".toList <:+: "ΟΔΟΣΤΡΩΜΑ".toList := by decide +kernel
  have missed : (Vertex.mk "a" ["t"] "ΟΔΟΣΤΡΩΜΑ").nameContains "ΟΔΟΣ" = false := by decide +kernel
  have isTerm : Pattern.Grammar.SearchTerm "ΟΔΟΣ".toList := ⟨by decide +kernel, by decide +kernel⟩
  have reachable := reachable_ofName "ΟΔΟΣΤΡΩΜΑ"
  have linked := reachable.coherent.toLinked
  have none_ : (ofName "ΟΔΟΣΤΡΩΜΑ").vertices.filter (·.nameContains "ΟΔΟΣ") = [] := by
    rw [vertices_ofName, List.filter_singleton, missed]
    rfl
  refine ⟨inside, missed, reachable, vertices_ofName _, ?_, ?_⟩
  · rw [List.eq_nil_iff_forall_not_mem]
    intro v found
    have kept : v ∈ (ofName "ΟΔΟΣΤΡΩΜΑ").vertices.filter (·.nameContains "ΟΔΟΣ") :=
      List.mem_filter.mpr (linked.mem_filterVertices_ofTerm.mp found)
    rw [none_] at kept
    cases kept
  · rw [linked.search_described isTerm, none_, List.map_nil]

end Graph

end Trellis
