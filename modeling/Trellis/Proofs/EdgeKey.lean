/-
# Trellis.Proofs.EdgeKey — finding edges by their ids

The id of an edge is a key to it: edges that a graph accepts share an id exactly when they
join the same vertices with the same set of types, the id of a stored edge finds this edge
and removes it, and an id that has been read is in the spelling that the reader gives it
(`edge_ids_faithful`).

There are three ways to ask whether an edge is there: by its id as text, by inserting it,
or by a test of membership. An insertion puts the types into their normal form, and a
reader of ids spells them canonically, which gives the same id (`Edge.parse_id_of_checked`);
so the first two agree however the types of the edge are listed and spelled. The test of
membership takes the edge as it stands. Order and repetition of its types do not matter to
it, but their spelling does: it finds an edge only if every type is spelled canonically,
and is right about all of these (`membership_tests_agree`). An edge with a capital letter
in a type is not found by it, not even when it has just been inserted
(`hasEdge_misses_spelling`).
-/
import Trellis.Proofs.EdgeIdentity
import Trellis.Proofs.Graph.Reachable

namespace Trellis

set_option autoImplicit false

/-! ## Edges as they are given -/

namespace EdgeId

theorem of_ofList (source : String) (types : List String) (target : String) :
    of source (Ascending.ofList types) target = of source types target := by
  rw [of, of, Ascending.ofList_eq_self (Ascending.pairwise_ofList types)]

end EdgeId

namespace Edge

variable {e f : Edge}

theorem id_normalized (e : Edge) :
    e.normalized.id = .of e.source (e.types.map Tag.canonical) e.target :=
  EdgeId.of_ofList e.source (e.types.map Tag.canonical) e.target

theorem storable_normalized (checked : e.normalized.check = .ok ()) : e.normalized.Storable :=
  ⟨⟨e, rfl⟩, checked⟩

/-- An edge whose normal form has no fault can be told from its id as it is given. -/
theorem readable_of_checked (checked : e.normalized.check = .ok ()) :
    EdgeId.Readable e.source e.types e.target := by
  rw [← EdgeId.Readable.map_canonical_iff]
  exact (storable_normalized checked).readable.congr fun type => (Ascending.mem_ofList type _).symm

/-- **Reading the id of an edge gives the id of its normal form.** -/
theorem parse_id_of_checked (checked : e.normalized.check = .ok ()) :
    EdgeId.parse e.id.text = .ok e.normalized.id := by
  rw [Edge.id, (readable_of_checked checked).parse_of, id_normalized]

/-- An edge that has the id of a storable one is spelled like it. -/
theorem spelledCanonically_of_id_eq (checked : e.normalized.check = .ok ()) (storable : f.Storable)
    (same : e.id = f.id) : e.SpelledCanonically := by
  have text : EdgeId.written e.source (Ascending.ofList e.types) e.target =
      EdgeId.written f.source f.types f.target := by
    rw [← EdgeId.toList_of, ← Edge.id, same, storable.toList_id]
  have listed := (readable_of_checked checked).congr fun type => Ascending.mem_ofList type e.types
  obtain ⟨-, types, -⟩ := listed.parts_of_eq storable.readable text
  intro type owned
  apply storable.spelledCanonically type
  rw [← types]
  exact (Ascending.mem_ofList type e.types).mpr owned

theorem SpelledCanonically.id_normalized (spelled : e.SpelledCanonically) : e.normalized.id = e.id := by
  rw [Edge.id_normalized, spelled.map_canonical, Edge.id]

theorem id_normalized_eq_iff (left : e.normalized.check = .ok ()) (right : f.normalized.check = .ok ()) :
    e.normalized.id = f.normalized.id ↔ e.source = f.source ∧ e.target = f.target ∧
      ∀ type, type ∈ Tag.normalize e.types ↔ type ∈ Tag.normalize f.types := by
  rw [(storable_normalized left).id_eq_iff (storable_normalized right), identity, identity,
    Identity.mk.injEq, Finset.ext_iff]
  simp only [List.mem_toFinset]
  exact and_congr_right fun _ => and_comm

end Edge

namespace Graph

variable {g : Graph} {e : Edge}

/-! ## The id as a key -/

theorem Linked.findEdge_of_mem (linked : g.Linked) (stored : e ∈ g.edges) :
    g.findEdge e.id.text = .ok (some e) := by
  rw [findEdge, (linked.storable_of_mem_edges stored).parse_id,
    ← linked.edge?_eq_some_iff.mpr ⟨stored, rfl⟩]
  rfl

/-- **Ids are faithful keys of edges.** Two edges that a graph accepts have one id in their
normal forms exactly when they join the same vertices with the same set of types. Such an id
is read as itself, a stored edge is found and removed by it, and reading is a
canonicalisation: what has been read from any text is read as itself. -/
theorem edge_ids_faithful :
    (∀ (g h : Graph) (e f : Edge) (done done' : Bool × Graph), g.insertEdge e = .ok done →
      h.insertEdge f = .ok done' → (e.normalized.id = f.normalized.id ↔
        e.source = f.source ∧ e.target = f.target ∧
          ∀ type, type ∈ Tag.normalize e.types ↔ type ∈ Tag.normalize f.types)) ∧
    (∀ (g : Graph) (e : Edge) (done : Bool × Graph), g.insertEdge e = .ok done →
      EdgeId.parse e.normalized.id.text = .ok e.normalized.id) ∧
    (∀ g : Graph, g.Reachable → ∀ e ∈ g.edges, g.findEdge e.id.text = .ok (some e) ∧
      ∃ after, g.removeEdge e.id.text = .ok (some e, after)) ∧
    ∀ (raw : String) (id : EdgeId), EdgeId.parse raw = .ok id → EdgeId.parse id.text = .ok id := by
  refine ⟨?_, ?_, ?_, fun raw id read => EdgeId.parse_parse read⟩
  · intro g h e f done done' accepted accepted'
    exact Edge.id_normalized_eq_iff (checked_of_insertEdge accepted) (checked_of_insertEdge accepted')
  · intro g e done accepted
    exact (Edge.storable_normalized (checked_of_insertEdge accepted)).parse_id
  · intro g reachable e stored
    have linked := reachable.coherent.toLinked
    have read := (linked.storable_of_mem_edges stored).parse_id
    obtain ⟨after, removed, -⟩ := reachable.coherent.removeEdge_spec read
    rw [linked.edge?_eq_some_iff.mpr ⟨stored, rfl⟩] at removed
    exact ⟨linked.findEdge_of_mem stored, after, removed⟩

/-- Two spellings of one edge, an edge of the sample, and an id that is not in the spelling
that a reader gives it. -/
theorem edge_ids_faithful_sample :
    (∃ done, sample.insertEdge ⟨"a, b", "c", [" Likes", "KNOWS", "likes"], []⟩ = .ok done) ∧
      (∃ done, empty.insertEdge ⟨"a, b", "c", ["knows", "LIKES"], []⟩ = .ok done) ∧
      (Edge.mk "a, b" "c" [" Likes", "KNOWS", "likes"] []).normalized.id =
        (Edge.mk "a, b" "c" ["knows", "LIKES"] []).normalized.id ∧
      EdgeId.parse (Edge.mk "a, b" "c" [" Likes", "KNOWS", "likes"] []).normalized.id.text =
        .ok (Edge.mk "a, b" "c" [" Likes", "KNOWS", "likes"] []).normalized.id ∧
      sample.Reachable ∧ Edge.asserted "bob" ["likes", "knows"] "cyd" ∈ sample.edges ∧
      sample.findEdge (Edge.asserted "bob" ["likes", "knows"] "cyd").id.text =
        .ok (some (.asserted "bob" ["likes", "knows"] "cyd")) ∧
      EdgeId.parse " x>To Do ,B,b> y" = .ok ⟨" x>b,to do> y"⟩ ∧
      EdgeId.parse " x>b,to do> y" = .ok ⟨" x>b,to do> y"⟩ := by
  obtain ⟨same, own, found, again⟩ := edge_ids_faithful
  have accepted : sample.insertEdge ⟨"a, b", "c", [" Likes", "KNOWS", "likes"], []⟩ = .ok _ :=
    insertEdge_of_checked (by decide +kernel)
  have accepted' : empty.insertEdge ⟨"a, b", "c", ["knows", "LIKES"], []⟩ = .ok _ :=
    insertEdge_of_checked (by decide +kernel)
  have types : Tag.normalize [" Likes", "KNOWS", "likes"] = Tag.normalize ["knows", "LIKES"] := by
    decide +kernel
  have stored : Edge.asserted "bob" ["likes", "knows"] "cyd" ∈ sample.edges := by decide +kernel
  have read : EdgeId.parse " x>To Do ,B,b> y" = .ok ⟨" x>b,to do> y"⟩ := by decide +kernel
  exact ⟨⟨_, accepted⟩, ⟨_, accepted'⟩,
    (same _ _ _ _ _ _ accepted accepted').mpr ⟨rfl, rfl, fun type => by rw [types]⟩,
    own _ _ _ accepted, sample_reachable, stored, (found sample sample_reachable _ stored).1, read,
    again _ _ read⟩

/-! ## Tests of membership -/

theorem findEdge_of_checked (checked : e.normalized.check = .ok ()) :
    g.findEdge e.id.text = .ok (g.edge? e.normalized.id) := by
  rw [findEdge, Edge.parse_id_of_checked checked]
  rfl

theorem Linked.isSome_edge?_iff (linked : g.Linked) :
    (g.edge? e.id).isSome = true ↔ g.hasEdge e = true := by
  rw [linked.hasEdge_iff, Option.isSome_iff_exists]
  simp only [linked.edge?_eq_some_iff]

/-- **What the test of membership tells about an edge as it stands.** -/
theorem Linked.hasEdge_iff_spelled (linked : g.Linked) (checked : e.normalized.check = .ok ()) :
    g.hasEdge e = true ↔ (g.edge? e.normalized.id).isSome = true ∧ e.SpelledCanonically := by
  constructor
  · intro member
    obtain ⟨f, stored, same⟩ := linked.hasEdge_iff.mp member
    have spelled := Edge.spelledCanonically_of_id_eq checked (linked.storable_of_mem_edges stored) same.symm
    rw [spelled.id_normalized]
    exact ⟨linked.isSome_edge?_iff.mpr member, spelled⟩
  · rintro ⟨found, spelled⟩
    rw [spelled.id_normalized] at found
    exact linked.isSome_edge?_iff.mp found

/-- An insertion stores an edge unless its normal form can be found, and then it can. -/
theorem Coherent.isSome_edge?_insertEdge (coherent : g.Coherent) {isNew : Bool} {after : Graph}
    (done : g.insertEdge e = .ok (isNew, after)) :
    ((g.edge? e.normalized.id).isSome = true ↔ isNew = false) ∧
      (after.edge? e.normalized.id).isSome = true := by
  obtain ⟨later, -, edges⟩ := coherent.insertEdge done
  rw [insertEdge_of_checked (checked_of_insertEdge done)] at done
  rw [coherent.toLinked.isSome_edge?_iff, later.toLinked.isSome_edge?_iff]
  cases taken : g.hasEdge e.normalized with
  | true =>
      rw [taken, if_pos rfl] at done
      obtain ⟨rfl, rfl⟩ := Prod.mk.inj (Except.ok.inj done)
      exact ⟨iff_of_true rfl rfl, taken⟩
  | false =>
      rw [taken, if_neg Bool.false_ne_true] at done
      obtain ⟨rfl, -⟩ := Prod.mk.inj (Except.ok.inj done)
      refine ⟨by simp, later.toLinked.hasEdge_iff.mpr ⟨e.normalized, ?_, rfl⟩⟩
      rw [edges, if_pos rfl]
      exact List.mem_append_right _ List.mem_cons_self

/-- **The ways to ask for an edge agree on edges that are spelled canonically**, and all but
the test of membership agree on every edge. Let the normal form of an edge have no fault.
Then it can be looked up by its id and inserted, it is found exactly when the insertion
stores nothing, and afterwards it is found. The test of membership says the same as long as
every type of the edge is in its canonical spelling, and else it always says no. -/
theorem membership_tests_agree (reachable : g.Reachable) (valid : e.normalized.check = .ok ()) :
    ∃ found isNew after, g.findEdge e.id.text = .ok found ∧ g.insertEdge e = .ok (isNew, after) ∧
      (found.isSome = true ↔ isNew = false) ∧
      (g.hasEdge e = true ↔ found.isSome = true ∧ e.SpelledCanonically) ∧
      (∃ f, after.findEdge e.id.text = .ok (some f)) ∧
      (after.hasEdge e = true ↔ e.SpelledCanonically) := by
  have coherent := reachable.coherent
  obtain ⟨⟨isNew, after⟩, done⟩ : ∃ done, g.insertEdge e = .ok done :=
    ⟨_, insertEdge_of_checked valid⟩
  obtain ⟨found, stored⟩ := coherent.isSome_edge?_insertEdge done
  have later := (coherent.insertEdge done).1.toLinked
  refine ⟨g.edge? e.normalized.id, isNew, after, findEdge_of_checked valid, done, found,
    coherent.toLinked.hasEdge_iff_spelled valid, ?_, ?_⟩
  · obtain ⟨f, same⟩ := Option.isSome_iff_exists.mp stored
    exact ⟨f, same ▸ findEdge_of_checked valid⟩
  · rw [later.hasEdge_iff_spelled valid]
    exact and_iff_right stored

/-- The sample holds this edge, whose types are listed out of order and twice. -/
theorem membership_tests_agree_sample :
    sample.Reachable ∧ (Edge.mk "bob" "cyd" ["likes", "knows", "likes"] []).normalized.check = .ok () ∧
      sample.hasEdge ⟨"bob", "cyd", ["likes", "knows", "likes"], []⟩ = true ∧
      (∃ found, sample.findEdge (Edge.mk "bob" "cyd" ["likes", "knows", "likes"] []).id.text =
        .ok (some found)) ∧
      ∃ after, sample.insertEdge ⟨"bob", "cyd", ["likes", "knows", "likes"], []⟩ = .ok (false, after) := by
  have valid : (Edge.mk "bob" "cyd" ["likes", "knows", "likes"] []).normalized.check = .ok () := by
    decide +kernel
  have here : sample.hasEdge ⟨"bob", "cyd", ["likes", "knows", "likes"], []⟩ = true := by
    decide +kernel
  obtain ⟨found, isNew, after, looked, done, same, member, -⟩ :=
    membership_tests_agree sample_reachable valid
  have some_ := (member.mp here).1
  obtain rfl := same.mp some_
  obtain ⟨f, rfl⟩ := Option.isSome_iff_exists.mp some_
  exact ⟨sample_reachable, valid, here, ⟨f, looked⟩, after, done⟩

/-- **An edge with a capital letter in a type is not found by the test of membership.** The
sample holds it by its id and does not store it again. A graph that has just stored it does
not have it either. -/
theorem hasEdge_misses_spelling :
    sample.Reachable ∧ (Edge.mk "ann" "bob" ["Knows"] []).normalized.check = .ok () ∧
      sample.findEdge (Edge.mk "ann" "bob" ["Knows"] []).id.text =
        .ok (some (.asserted "ann" ["knows"] "bob")) ∧
      sample.insertEdge ⟨"ann", "bob", ["Knows"], []⟩ = .ok (false, sample) ∧
      sample.hasEdge ⟨"ann", "bob", ["Knows"], []⟩ = false ∧
      ∃ after, empty.insertEdge ⟨"ann", "bob", ["Knows"], []⟩ = .ok (true, after) ∧
        after.hasEdge ⟨"ann", "bob", ["Knows"], []⟩ = false := by
  have valid : (Edge.mk "ann" "bob" ["Knows"] []).normalized.check = .ok () := by decide +kernel
  refine ⟨sample_reachable, valid, by decide +kernel, ?_, by decide +kernel, ?_⟩
  · rw [insertEdge_of_checked valid, if_pos (by decide +kernel)]
  · rw [insertEdge_of_checked valid, if_neg (by decide +kernel)]
    exact ⟨_, rfl, by decide +kernel⟩

end Graph

end Trellis
