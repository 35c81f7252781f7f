/-
# Trellis.Proofs.EdgeIdentity — what the text of an edge id stands for

The identity of an edge is its source, its set of types and its target. The id
writes the three with marks between them. As long as the marks are in none of the
three (`EdgeId.Readable`) the text can be taken apart again: it determines them
(`Readable.parts_of_eq`), and reading it gives the id with the types in their canonical
spelling (`Readable.parse_of`). What is read from any text is readable, so that an id
that has been read is read as itself (`EdgeId.parse_parse`).

Validation makes storable edges readable. So they have one id exactly when they have one
identity (`Edge.Storable.id_eq_iff`), and their ids are read as themselves
(`Edge.Storable.parse_id`).
-/
import Trellis.Proofs.Except
import Trellis.Proofs.Graph.Coherence
import Trellis.Proofs.Tag
import Mathlib.Data.Finset.Dedup

namespace Trellis

set_option autoImplicit false

/-! ## What validation excludes -/

theorem Vertex.checkId_eq_ok_iff {id : String} :
    Vertex.checkId id = .ok () ↔ Text.allBlank id.toList = false ∧ '>' ∉ id.toList := by
  unfold checkId
  cases Text.allBlank id.toList <;> by_cases marked : '>' ∈ id.toList <;> simp [marked]

theorem Tag.check_eq_ok_iff {owner : Owner} {tags : List String} :
    Tag.check owner tags = .ok () ↔ tags ≠ [] ∧ ∀ tag ∈ tags, Tag.isStorable tag = true := by
  unfold check
  split
  · next none_ => simp [none_]
  · next some_ =>
      have all : (∀ tag ∈ tags, Tag.isStorable tag = true) ↔ tags.find? (!isStorable ·) = none := by
        simp
      rw [all]
      split
      · next tag found => simp [found]
      · next found => simp [some_, found]

theorem Vertex.check_eq_ok_iff {v : Vertex} :
    v.check = .ok () ↔ Vertex.checkId v.id = .ok () ∧ Tag.check .vertex v.types = .ok () :=
  checks_eq_ok_iff

theorem Edge.check_eq_ok_iff {e : Edge} :
    e.check = .ok () ↔ Vertex.checkId e.source = .ok () ∧ Vertex.checkId e.target = .ok () ∧
      Tag.check .edge e.types = .ok () :=
  checks_eq_ok_iff.trans (and_congr_right fun _ => checks_eq_ok_iff)

/-- A storable tag is not empty and has none of the marks of edge ids. -/
theorem Tag.marks_of_isStorable {tag : String} (storable : Tag.isStorable tag = true) :
    tag ≠ "" ∧ '>' ∉ tag.toList ∧ ',' ∉ tag.toList := by
  simp only [isStorable, Bool.and_eq_true, decide_eq_true_eq, List.all_eq_true] at storable
  exact ⟨storable.1, fun inside => (storable.2 _ inside).1.1 rfl,
    fun inside => (storable.2 _ inside).1.2 rfl⟩

/-- A storable tag is not blank. -/
theorem Tag.allBlank_of_isStorable {tag : String} (storable : Tag.isStorable tag = true) :
    Text.allBlank tag.toList = false := by
  obtain ⟨c, cs, text⟩ := List.exists_cons_of_ne_nil
    (mt String.toList_eq_nil_iff.mp (marks_of_isStorable storable).1)
  have solid := solid_of_isStorable storable c (text ▸ List.mem_cons_self)
  simp [text, Text.allBlank, solid]

/-! ## Taking the text apart -/

theorem notMem_intercalate {mark : Char} {sep : List Char} {parts : List (List Char)}
    (clean : mark ∉ sep) (cleanParts : ∀ part ∈ parts, mark ∉ part) :
    mark ∉ sep.intercalate parts := by
  induction parts with
  | nil => simp
  | cons part rest ih =>
      have first := cleanParts part List.mem_cons_self
      have later := ih fun part' here => cleanParts part' (List.mem_cons_of_mem _ here)
      cases rest with
      | nil => simpa using first
      | cons next rest =>
          rw [List.intercalate_cons_cons]
          simp only [List.mem_append, not_or]
          exact ⟨⟨first, clean⟩, later⟩

theorem mem_intercalate {sep part : List Char} {parts : List (List Char)} {c : Char}
    (member : part ∈ parts) (here : c ∈ part) : c ∈ sep.intercalate parts := by
  induction parts with
  | nil => cases member
  | cons first rest ih =>
      cases rest with
      | nil =>
          obtain rfl := List.mem_singleton.mp member
          simpa using here
      | cons next rest =>
          rw [List.intercalate_cons_cons, List.mem_append]
          rcases List.mem_cons.mp member with rfl | later
          · exact .inl (List.mem_append_left _ here)
          · exact .inr (ih later)

theorem notMem_of_mem_splitOn {mark : Char} {text part : List Char}
    (member : part ∈ text.splitOn mark) : mark ∉ part := by
  induction text generalizing part with
  | nil =>
      obtain rfl : part = [] := by simpa using member
      exact List.not_mem_nil
  | cons c cs ih =>
      obtain ⟨first, rest, parts⟩ := List.exists_cons_of_ne_nil (List.splitOn_ne_nil mark cs)
      rw [parts] at ih
      rw [List.splitOn_cons_eq_if_modifyHead, parts] at member
      split at member
      · rcases List.mem_cons.mp member with rfl | later
        · exact List.not_mem_nil
        · exact ih later
      · next other =>
          rcases List.mem_cons.mp member with rfl | later
          · have other : c ≠ mark := by simpa using other
            have later := ih List.mem_cons_self
            simp [other.symm, later]
          · exact ih (List.mem_cons_of_mem _ later)

theorem mem_of_mem_splitOn {mark c : Char} {text part : List Char}
    (member : part ∈ text.splitOn mark) (here : c ∈ part) : c ∈ text := by
  have whole := @mem_intercalate [mark] part (text.splitOn mark) c member here
  rwa [List.intercalate_splitOn] at whole

/-! ## Reading an id -/

namespace EdgeId

variable {source source' target target' : String} {types types' : List String}

/-- A source, a list of types and a target with the marks of an id between them. -/
def written (source : String) (types : List String) (target : String) : List Char :=
  ['>'].intercalate [source.toList, [','].intercalate (types.map String.toList), target.toList]

theorem toList_of (source : String) (types : List String) (target : String) :
    (of source types target).text.toList = written source (Ascending.ofList types) target := by
  have joined : (",".intercalate (Ascending.ofList types)).toList =
      [','].intercalate ((Ascending.ofList types).map String.toList) := String.toList_intercalate
  simp [of, written, joined, List.intercalate]

/-- The parts are such that they can be told apart again. -/
structure Readable (source : String) (types : List String) (target : String) : Prop where
  source : Vertex.checkId source = .ok ()
  target : Vertex.checkId target = .ok ()
  typed : types ≠ []
  solid : ∀ type ∈ types, Text.allBlank type.toList = false
  clear : ∀ type ∈ types, '>' ∉ type.toList ∧ ',' ∉ type.toList

namespace Readable

/-- Whether parts are readable does not depend on how the types are listed. -/
theorem congr (readable : Readable source types target) (same : ∀ type, type ∈ types' ↔ type ∈ types) :
    Readable source types' target where
  source := readable.source
  target := readable.target
  typed none_ := readable.typed (List.eq_nil_iff_forall_not_mem.mpr fun type owned =>
    List.not_mem_nil (none_ ▸ (same type).mpr owned))
  solid type owned := readable.solid type ((same type).mp owned)
  clear type owned := readable.clear type ((same type).mp owned)

theorem splitOn_written (readable : Readable source types target) :
    (written source types target).splitOn '>' =
      [source.toList, [','].intercalate (types.map String.toList), target.toList] := by
  refine List.splitOn_intercalate '>' (fun part here => ?_) (by simp)
  simp only [List.mem_cons, List.not_mem_nil, or_false] at here
  rcases here with rfl | rfl | rfl
  · exact (Vertex.checkId_eq_ok_iff.mp readable.source).2
  · exact notMem_intercalate (by decide)
      (List.forall_mem_map.mpr fun type owned => (readable.clear type owned).1)
  · exact (Vertex.checkId_eq_ok_iff.mp readable.target).2

theorem splitOn_types (readable : Readable source types target) :
    ([','].intercalate (types.map String.toList)).splitOn ',' = types.map String.toList :=
  List.splitOn_intercalate ','
    (List.forall_mem_map.mpr fun type owned => (readable.clear type owned).2)
    (by simpa using readable.typed)

theorem allBlank_types (readable : Readable source types target) :
    Text.allBlank ([','].intercalate (types.map String.toList)) = false := by
  obtain ⟨type, owned⟩ := List.exists_mem_of_ne_nil _ readable.typed
  have solid := readable.solid type owned
  rw [← Bool.not_eq_true, Text.allBlank_iff] at solid ⊢
  exact fun blank => solid fun c here => blank c (mem_intercalate (List.mem_map_of_mem owned) here)

/-- **What is written determines its parts.** -/
theorem parts_of_eq (left : Readable source types target) (right : Readable source' types' target')
    (same : written source types target = written source' types' target') :
    source = source' ∧ types = types' ∧ target = target' := by
  have parts := left.splitOn_written
  rw [same, right.splitOn_written] at parts
  simp only [List.cons.injEq, and_true, String.toList_inj] at parts
  obtain ⟨sources, joined, targets⟩ := parts
  have tags := left.splitOn_types
  rw [← joined, right.splitOn_types] at tags
  have tags := List.map_injective_iff.mpr (fun _ _ => String.toList_inj.mp) tags
  exact ⟨sources.symm, tags.symm, targets.symm⟩

/-- A list of types is as readable as its canonical spelling. -/
theorem map_canonical_iff : Readable source (types.map Tag.canonical) target ↔
    Readable source types target := by
  have solid : (∀ type ∈ types.map Tag.canonical, Text.allBlank type.toList = false) ↔
      ∀ type ∈ types, Text.allBlank type.toList = false := by
    simp only [List.forall_mem_map, Tag.allBlank_canonical]
  have clear : (∀ type ∈ types.map Tag.canonical, '>' ∉ type.toList ∧ ',' ∉ type.toList) ↔
      ∀ type ∈ types, '>' ∉ type.toList ∧ ',' ∉ type.toList := by
    simp only [List.forall_mem_map, Tag.mark_mem_canonical_iff (.inl rfl),
      Tag.mark_mem_canonical_iff (.inr rfl)]
  constructor
  · intro readable
    exact ⟨readable.source, readable.target, by simpa using readable.typed,
      solid.mp readable.solid, clear.mp readable.clear⟩
  · intro readable
    exact ⟨readable.source, readable.target, by simpa using readable.typed,
      solid.mpr readable.solid, clear.mpr readable.clear⟩

end Readable

/-- The types that a reader makes of the pieces between the commas. -/
theorem map_canonical_ofList (pieces : List (List Char)) :
    (pieces.map fun tag => String.ofList (Text.lower (Text.trim tag))) =
      (pieces.map String.ofList).map Tag.canonical := by
  rw [List.map_map]
  refine List.map_congr_left fun tag _ => ?_
  rw [Function.comp_apply, ← String.toList_inj, Tag.toList_canonical, String.toList_ofList,
    String.toList_ofList]

theorem contains_empty_iff : (types.map Tag.canonical).contains "" = false ↔
    ∀ type ∈ types, Text.allBlank type.toList = false := by
  rw [← Bool.not_eq_true, List.contains_iff_mem, List.mem_map]
  simp only [Tag.canonical_eq_empty_iff, not_exists, not_and, Bool.not_eq_true]

/-- A text is read when it has three parts, none of them blank, and no type in the middle is. -/
theorem parse_eq_ok_iff_parts {raw : String} {id : EdgeId} : parse raw = .ok id ↔
    ∃ source middle target, raw.toList.splitOn '>' = [source, middle, target] ∧
      Text.allBlank source = false ∧ Text.allBlank middle = false ∧ Text.allBlank target = false ∧
      (∀ piece ∈ middle.splitOn ',', Text.allBlank piece = false) ∧
      id = of (String.ofList source) (((middle.splitOn ',').map String.ofList).map Tag.canonical)
        (String.ofList target) := by
  have solid (middle : List Char) :
      (((middle.splitOn ',').map String.ofList).map Tag.canonical).contains "" = false ↔
        ∀ piece ∈ middle.splitOn ',', Text.allBlank piece = false := by
    simp only [contains_empty_iff, List.forall_mem_map, String.toList_ofList]
  constructor
  · intro read
    unfold parse at read
    split at read
    · next source middle target parts =>
        split at read
        · cases read
        · next nonblank =>
            simp only [Bool.or_eq_true, not_or, Bool.not_eq_true] at nonblank
            simp only [map_canonical_ofList] at read
            split at read
            · cases read
            · next noEmpty =>
                exact ⟨source, middle, target, parts, nonblank.1.1, nonblank.1.2, nonblank.2,
                  (solid middle).mp (by simpa only [Bool.not_eq_true] using noEmpty),
                  (Except.ok.inj read).symm⟩
    · cases read
  · rintro ⟨source, middle, target, parts, source_, middle_, target_, pieces, rfl⟩
    rw [parse, parts]
    simp only [source_, middle_, target_, map_canonical_ofList, (solid middle).mpr pieces]
    rfl

/-- **The texts that are read, and what they stand for**: readable parts with the marks
between them, for the id with the types in their canonical spelling. -/
theorem parse_eq_ok_iff {raw : String} {id : EdgeId} : parse raw = .ok id ↔
    ∃ source types target, Readable source types target ∧ raw.toList = written source types target ∧
      id = of source (types.map Tag.canonical) target := by
  rw [parse_eq_ok_iff_parts]
  constructor
  · rintro ⟨source, middle, target, parts, source_, -, target_, pieces, rfl⟩
    have clear : ∀ part ∈ [source, middle, target], '>' ∉ part := fun part here =>
      notMem_of_mem_splitOn (parts ▸ here)
    have joined : ((middle.splitOn ',').map String.ofList).map String.toList = middle.splitOn ',' := by
      simp
    refine ⟨_, _, _, ⟨?_, ?_, ?_, ?_, ?_⟩, ?_, rfl⟩
    · exact Vertex.checkId_eq_ok_iff.mpr (by simpa using ⟨source_, clear source (by simp)⟩)
    · exact Vertex.checkId_eq_ok_iff.mpr (by simpa using ⟨target_, clear target (by simp)⟩)
    · simp [List.splitOn_ne_nil]
    · simpa only [List.forall_mem_map, String.toList_ofList] using pieces
    · refine List.forall_mem_map.mpr fun piece cut => ?_
      rw [String.toList_ofList]
      exact ⟨fun inside => clear middle (by simp) (mem_of_mem_splitOn cut inside),
        notMem_of_mem_splitOn cut⟩
    · rw [written, joined, List.intercalate_splitOn, String.toList_ofList, String.toList_ofList,
        ← parts, List.intercalate_splitOn]
  · rintro ⟨source, types, target, readable, whole, rfl⟩
    refine ⟨_, _, _, by rw [whole, readable.splitOn_written],
      (Vertex.checkId_eq_ok_iff.mp readable.source).1, readable.allBlank_types,
      (Vertex.checkId_eq_ok_iff.mp readable.target).1, ?_, ?_⟩
    · rw [readable.splitOn_types]
      exact List.forall_mem_map.mpr readable.solid
    · rw [readable.splitOn_types]
      simp

/-- Reading an id spells its types canonically and leaves the rest as it is. -/
theorem Readable.parse_of (readable : Readable source types target) :
    parse (of source types target).text = .ok (of source (types.map Tag.canonical) target) := by
  have listed : Readable source (Ascending.ofList types) target :=
    readable.congr fun type => Ascending.mem_ofList type types
  have same : Ascending.ofList ((Ascending.ofList types).map Tag.canonical) =
      Ascending.ofList (types.map Tag.canonical) := by
    refine Ascending.eq_of_mem_iff (Ascending.pairwise_ofList _) (Ascending.pairwise_ofList _) ?_
    simp [Ascending.mem_ofList]
  refine parse_eq_ok_iff.mpr ⟨_, _, _, listed, toList_of _ _ _, ?_⟩
  rw [of, of, same]

/-- **Reading is a canonicalisation**: an id that has been read is read as itself. -/
theorem parse_parse {raw : String} {id : EdgeId} (read : parse raw = .ok id) :
    parse id.text = .ok id := by
  obtain ⟨source, types, target, readable, -, rfl⟩ := parse_eq_ok_iff.mp read
  have again : (types.map Tag.canonical).map Tag.canonical = types.map Tag.canonical := by
    rw [List.map_map]
    exact List.map_congr_left fun type _ => Tag.canonical_canonical type
  rw [(Readable.map_canonical_iff.mpr readable).parse_of, again]

end EdgeId

/-! ## Identities -/

namespace Edge

/-- What makes two edges one: the set of types counts, not how it is listed. -/
structure Identity where
  source : String
  types : Finset String
  target : String
  deriving DecidableEq

def identity (e : Edge) : Identity := ⟨e.source, e.types.toFinset, e.target⟩

/-- Each type is spelled as a reader of ids would spell it; the order may be any. -/
def SpelledCanonically (e : Edge) : Prop := ∀ type ∈ e.types, Tag.canonical type = type

instance (e : Edge) : Decidable e.SpelledCanonically :=
  inferInstanceAs (Decidable (∀ type ∈ e.types, Tag.canonical type = type))

theorem SpelledCanonically.map_canonical {e : Edge} (spelled : e.SpelledCanonically) :
    e.types.map Tag.canonical = e.types :=
  (List.map_congr_left spelled).trans (List.map_id e.types)

namespace Storable

variable {e f : Edge}

theorem types_ne_nil (storable : e.Storable) : e.types ≠ [] :=
  (Tag.check_eq_ok_iff.mp (check_eq_ok_iff.mp storable.checked).2.2).1

theorem isStorable_of_mem (storable : e.Storable) {tag : String} (owned : tag ∈ e.types) :
    Tag.isStorable tag = true :=
  (Tag.check_eq_ok_iff.mp (check_eq_ok_iff.mp storable.checked).2.2).2 tag owned

theorem spelledCanonically (storable : e.Storable) : e.SpelledCanonically := by
  obtain ⟨raw, rfl⟩ := storable.normal
  intro type owned
  obtain ⟨spelled, -, rfl⟩ := List.mem_map.mp ((Ascending.mem_ofList type _).mp owned)
  exact Tag.canonical_canonical spelled

theorem readable (storable : e.Storable) : EdgeId.Readable e.source e.types e.target where
  source := (check_eq_ok_iff.mp storable.checked).1
  target := (check_eq_ok_iff.mp storable.checked).2.1
  typed := storable.types_ne_nil
  solid _ owned := Tag.allBlank_of_isStorable (storable.isStorable_of_mem owned)
  clear _ owned := (Tag.marks_of_isStorable (storable.isStorable_of_mem owned)).2

theorem toList_id (storable : e.Storable) :
    e.id.text.toList = EdgeId.written e.source e.types e.target := by
  rw [Edge.id, EdgeId.toList_of, Ascending.ofList_eq_self storable.pairwise_types]

theorem parts_of_id_eq (left : e.Storable) (right : f.Storable) (same : e.id = f.id) :
    e.source = f.source ∧ e.types = f.types ∧ e.target = f.target := by
  refine left.readable.parts_of_eq right.readable ?_
  rw [← left.toList_id, ← right.toList_id, same]

/-- **One id stands for one identity.** -/
theorem id_eq_iff (left : e.Storable) (right : f.Storable) :
    e.id = f.id ↔ e.identity = f.identity := by
  constructor
  · intro same
    obtain ⟨sources, types, targets⟩ := left.parts_of_id_eq right same
    rw [identity, identity, sources, types, targets]
  · intro same
    obtain ⟨sources, types, targets⟩ := Identity.mk.inj same
    have types : e.types = f.types := by
      apply Ascending.eq_of_mem_iff left.pairwise_types right.pairwise_types
      intro tag
      rw [← List.mem_toFinset, types, List.mem_toFinset]
    rw [Edge.id, Edge.id, sources, types, targets]

/-- **The id of a storable edge is read as itself.** -/
theorem parse_id (storable : e.Storable) : EdgeId.parse e.id.text = .ok e.id := by
  rw [Edge.id, storable.readable.parse_of, storable.spelledCanonically.map_canonical]

end Storable

end Edge

/-! ## Stored edges -/

namespace Graph.Linked

variable {g : Graph}

theorem edge_eq_of_identity (linked : g.Linked) {e f : Edge} (stored : e ∈ g.edges)
    (stored' : f ∈ g.edges) (same : e.identity = f.identity) : e = f := by
  have left := linked.storable_of_mem_edges stored
  have right := linked.storable_of_mem_edges stored'
  exact linked.edge_eq_of_id stored stored' ((left.id_eq_iff right).mpr same)

theorem nodup_identities (linked : g.Linked) : (g.edges.map Edge.identity).Nodup :=
  linked.nodup_edges.map_on fun _ stored _ stored' same =>
    linked.edge_eq_of_identity stored stored' same

end Graph.Linked

end Trellis
