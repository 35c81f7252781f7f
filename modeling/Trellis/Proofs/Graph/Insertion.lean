/-
# Trellis.Proofs.Graph.Insertion — storing keeps the indexes true

Filing an edge changes its keys and nothing else (`fileEdge_cases`). Storing an
edge appends it and files it; storing a vertex appends it and then files the
edges that waited for it, which are just those whose keys the arrival changes.
So both keep a graph coherent, and a reader sees one element more at the end of
one list (`Coherent.storeVertex`, `Coherent.storeEdge`).
-/
import Trellis.Proofs.Graph.BucketKey
import Trellis.Proofs.Graph.Coherence

namespace Trellis.Graph

set_option autoImplicit false

variable {g : Graph}

/-! ## Filing one edge -/

theorem keysFor?_eq_some_iff {e : Edge} {keys : List BucketKey} :
    g.keysFor? e = some keys ↔
      ∃ source target, g.vertex? e.source = some source ∧ g.vertex? e.target = some target ∧
        BucketKey.ofEdge source.types e.types target.types e.provenance = keys := by
  simp only [keysFor?, Option.bind_eq_bind, Option.bind_eq_some_iff, Option.pure_def,
    Option.some.injEq]
  constructor
  · rintro ⟨source, fromHere, target, toThere, same⟩
    exact ⟨source, target, fromHere, toThere, same⟩
  · rintro ⟨source, target, fromHere, toThere, same⟩
    exact ⟨source, fromHere, target, toThere, same⟩

/-- What filing does: nothing, or the keys of one edge are set. -/
theorem fileEdge_cases (g : Graph) (slot : Nat) :
    (g.fileEdge slot = g ∧ ∀ e, g.edgeAt? slot = some e → g.keysFor? e = none) ∨
      ∃ entry keys, g.edgeArena.get? slot = some entry ∧ g.keysFor? entry.edge = some keys ∧
        g.fileEdge slot = { g with
          buckets := g.buckets.fileAll keys slot
          edgeArena := g.edgeArena.set slot { entry with keys } } := by
  unfold fileEdge
  cases held : g.edgeArena.get? slot with
  | none => exact Or.inl ⟨rfl, fun e here => by simp [edgeAt?, held] at here⟩
  | some entry =>
      cases known : g.keysFor? entry.edge with
      | none =>
          refine Or.inl ⟨by simp [known], fun e here => ?_⟩
          have same : entry.edge = e := by simpa [edgeAt?, held] using here
          rw [← same, known]
      | some keys => exact Or.inr ⟨entry, keys, rfl, known, by simp [known]⟩

theorem keysFor?_fileEdge (g : Graph) (slot : Nat) : (g.fileEdge slot).keysFor? = g.keysFor? := by
  rcases fileEdge_cases g slot with ⟨same, -⟩ | ⟨entry, keys, -, -, same⟩
  · rw [same]
  · rw [same]; rfl

theorem vertexArena_fileEdge (g : Graph) (slot : Nat) :
    (g.fileEdge slot).vertexArena = g.vertexArena := by
  rcases fileEdge_cases g slot with ⟨same, -⟩ | ⟨entry, keys, -, -, same⟩ <;> rw [same]

theorem size_edgeArena_fileEdge (g : Graph) (slot : Nat) :
    (g.fileEdge slot).edgeArena.size = g.edgeArena.size := by
  rcases fileEdge_cases g slot with ⟨same, -⟩ | ⟨entry, keys, -, -, same⟩ <;> rw [same]
  exact Arena.size_set _ _ _

theorem edgeAt?_fileEdge (g : Graph) (slot : Nat) : (g.fileEdge slot).edgeAt? = g.edgeAt? := by
  rcases fileEdge_cases g slot with ⟨same, -⟩ | ⟨entry, keys, held, -, same⟩ <;> rw [same]
  funext other
  simp only [edgeAt?, Arena.get?_set (Arena.lt_size_of_get? held)]
  split
  · next here => simp [here, held]
  · rfl

/-- A filed edge has the keys that its endpoints give it. -/
theorem keysAt_fileEdge {slot : Nat} {e : Edge} (held : g.edgeAt? slot = some e)
    (pending : g.keysAt slot = []) (other : Nat) :
    (g.fileEdge slot).keysAt other =
      if other = slot then (g.keysFor? e).getD [] else g.keysAt other := by
  rcases fileEdge_cases g slot with ⟨same, unknown⟩ | ⟨entry, keys, inArena, known, same⟩ <;> rw [same]
  · split
    · next here => rw [here, pending, unknown e held, Option.getD_none]
    · rfl
  · obtain rfl : entry.edge = e := by simpa [edgeAt?, inArena] using held
    simp only [keysAt, Arena.get?_set (Arena.lt_size_of_get? inArena), known]
    split <;> rfl

/-- The keys that a stored edge has from its endpoints are all different. -/
theorem Linked.nodup_keys (linked : g.Linked) {e : Edge} (storable : e.Storable)
    {keys : List BucketKey} (known : g.keysFor? e = some keys) : keys.Nodup := by
  obtain ⟨source, target, fromHere, toThere, rfl⟩ := keysFor?_eq_some_iff.mp known
  obtain ⟨stored, -⟩ := linked.vertex?_eq_some_iff.mp fromHere
  obtain ⟨stored', -⟩ := linked.vertex?_eq_some_iff.mp toThere
  obtain ⟨rawSource, rfl⟩ := (linked.storable_of_mem_vertices stored).normal
  obtain ⟨rawTarget, rfl⟩ := (linked.storable_of_mem_vertices stored').normal
  obtain ⟨rawEdge, rfl⟩ := storable.normal
  exact BucketKey.nodup_ofEdge_normalize _ _ _ _

theorem Linked.fileEdge (linked : g.Linked) {slot : Nat} (pending : g.keysAt slot = []) :
    (g.fileEdge slot).Linked := by
  rcases fileEdge_cases g slot with ⟨same, -⟩ | ⟨entry, keys, held, known, same⟩
  · rw [same]
    exact linked
  have here : g.edgeAt? slot = some entry.edge := by simp [edgeAt?, held]
  have edges := edgeAt?_fileEdge g slot
  have filed := keysAt_fileEdge here pending
  have apart := linked.nodup_keys (linked.edgeStorable slot entry.edge here) known
  rw [known, Option.getD_some] at filed
  rw [same] at edges filed ⊢
  constructor
  · exact linked.vertexSlots
  · rw [edges]
    exact linked.edgeSlots
  · exact linked.verticesByType
  · rw [edges]
    exact linked.outbound
  · rw [edges]
    exact linked.inbound
  · apply (linked.buckets.fileAll _ apart fun key _ => by simp [pending]).congr
    intro key other
    rw [filed]
    by_cases at_ : other = slot
    · simp [at_, pending]
    · simp [at_]
  · exact linked.vertexStorable
  · rw [edges]
    exact linked.edgeStorable

/-! ## Filing several edges -/

/-- What each step of a run leaves alone, the run leaves alone. -/
theorem foldl_frame {α β : Type} {step : Graph → α → Graph} (read : Graph → β)
    (frame : ∀ g x, read (step g x) = read g) (xs : List α) (g : Graph) :
    read (xs.foldl step g) = read g := by
  induction xs generalizing g with
  | nil => rfl
  | cons x xs ih => rw [List.foldl_cons, ih, frame]

theorem isPending_iff {slot : Nat} :
    g.isPending slot = true ↔ ∃ e, g.edgeAt? slot = some e ∧ g.keysAt slot = [] := by
  simp only [isPending, edgeAt?, keysAt]
  cases g.edgeArena.get? slot <;> simp

/-- The edges in different slots that wait are filed one by one, and none of them
changes what the others need. -/
theorem Linked.fileEdges (linked : g.Linked) {slots : List Nat} (apart : slots.Nodup)
    (pending : ∀ slot ∈ slots, g.isPending slot = true) :
    (slots.foldl Graph.fileEdge g).Linked ∧
      ∀ slot e, g.edgeAt? slot = some e → (slots.foldl Graph.fileEdge g).keysAt slot =
        if slot ∈ slots then (g.keysFor? e).getD [] else g.keysAt slot := by
  induction slots generalizing g with
  | nil => exact ⟨linked, fun slot e _ => by simp⟩
  | cons first rest ih =>
      obtain ⟨notLater, apart⟩ := List.nodup_cons.mp apart
      obtain ⟨f, atFirst, waits⟩ := isPending_iff.mp (pending first List.mem_cons_self)
      have filed := keysAt_fileEdge atFirst waits
      have stillPending : ∀ slot ∈ rest, (g.fileEdge first).isPending slot = true := by
        intro slot later
        obtain ⟨e, held, waits⟩ := isPending_iff.mp (pending slot (List.mem_cons_of_mem _ later))
        have other : slot ≠ first := fun same => notLater (same ▸ later)
        exact isPending_iff.mpr ⟨e, by rw [edgeAt?_fileEdge, held], by rw [filed, if_neg other, waits]⟩
      obtain ⟨restLinked, restKeys⟩ := ih (linked.fileEdge waits) apart stillPending
      refine ⟨restLinked, fun slot e held => ?_⟩
      rw [List.foldl_cons, restKeys slot e (by rw [edgeAt?_fileEdge, held]), keysFor?_fileEdge, filed]
      by_cases same : slot = first
      · subst same
        obtain rfl : f = e := Option.some.inj (atFirst.symm.trans held)
        simp [notLater]
      · simp [same]

theorem Linked.mem_touching (linked : g.Linked) {id : String} {slot : Nat} :
    slot ∈ g.touching id ↔ ∃ e, g.edgeAt? slot = some e ∧ (e.source = id ∨ e.target = id) := by
  rw [touching, Ascending.mem_ofList, List.mem_append, linked.outbound.mem_slots,
    linked.inbound.mem_slots]
  constructor
  · rintro (⟨e, held, leaves⟩ | ⟨e, held, enters⟩)
    · exact ⟨e, held, Or.inl leaves⟩
    · exact ⟨e, held, Or.inr enters⟩
  · rintro ⟨e, held, leaves | enters⟩
    · exact Or.inl ⟨e, held, leaves⟩
    · exact Or.inr ⟨e, held, enters⟩

/-! ## Storing a vertex -/

/-- The vertex is in its slot and in the indexes of vertices; no edge is filed yet. -/
def appendVertex (g : Graph) (v : Vertex) : Graph :=
  { g with
    vertexArena := g.vertexArena.push v
    vertexSlots := g.vertexSlots.insert v.id g.vertexArena.size
    verticesByType := g.verticesByType.fileAll v.types g.vertexArena.size }

theorem storeVertex_eq (g : Graph) (v : Vertex) :
    g.storeVertex v = (g.appendVertex v).filePending v.id := rfl

theorem vertices_appendVertex (g : Graph) (v : Vertex) :
    (g.appendVertex v).vertices = g.vertices ++ [v] :=
  Arena.live_push _ _

theorem vertexAt?_appendVertex (g : Graph) (v : Vertex) (slot : Nat) :
    (g.appendVertex v).vertexAt? slot =
      if slot = g.vertexArena.size then some v else g.vertexAt? slot :=
  Arena.get?_push _ _ _

theorem vertexAt?_size (g : Graph) : g.vertexAt? g.vertexArena.size = none := by
  cases held : g.vertexAt? g.vertexArena.size with
  | none => rfl
  | some v => exact absurd (Arena.lt_size_of_get? held) (Nat.lt_irrefl _)

theorem Linked.appendVertex (linked : g.Linked) {v : Vertex} (storable : v.Storable)
    (fresh : ∀ w ∈ g.vertices, w.id ≠ v.id) : (g.appendVertex v).Linked := by
  have empty := g.vertexAt?_size
  have locates : Locates g.vertexSlots g.vertexAt? Vertex.id := linked.vertexSlots
  constructor
  · apply locates.insert empty
    · exact fun slot w held => fresh w (mem_vertices.mpr ⟨slot, held⟩)
    · exact vertexAt?_appendVertex g v
  · exact linked.edgeSlots
  · have apart : v.types.Nodup := Ascending.nodup_of_pairwise storable.pairwise_types
    refine (linked.verticesByType.fileAll g.vertexArena.size apart
      (fun type _ => by simp [empty])).congr fun type slot => ?_
    simp only [vertexAt?_appendVertex]
    by_cases new : slot = g.vertexArena.size
    · simp [new, empty]
    · simp [new]
  · exact linked.outbound
  · exact linked.inbound
  · exact linked.buckets
  · intro slot w held
    rw [vertexAt?_appendVertex] at held
    split at held
    · cases held
      exact storable
    · exact linked.vertexStorable slot w held
  · exact linked.edgeStorable

theorem Linked.vertex?_appendVertex (linked : g.Linked) {v : Vertex} (storable : v.Storable)
    (fresh : ∀ w ∈ g.vertices, w.id ≠ v.id) (id : String) :
    (g.appendVertex v).vertex? id = if id = v.id then some v else g.vertex? id := by
  apply Option.ext
  intro w
  rw [(linked.appendVertex storable fresh).vertex?_eq_some_iff, vertices_appendVertex,
    List.mem_append, List.mem_singleton]
  by_cases named : id = v.id
  · rw [if_pos named, Option.some.injEq]
    constructor
    · rintro ⟨old | rfl, same⟩
      · exact absurd (same.trans named) (fresh w old)
      · rfl
    · rintro rfl
      exact ⟨Or.inr rfl, named.symm⟩
  · rw [if_neg named, linked.vertex?_eq_some_iff]
    constructor
    · rintro ⟨old | rfl, same⟩
      · exact ⟨old, same⟩
      · exact absurd same.symm named
    · rintro ⟨old, same⟩
      exact ⟨Or.inl old, same⟩

/-- **Storing a vertex keeps a graph coherent.** The edges at the vertex had no
keys as long as it was missing, and are filed now; the others keep their keys. -/
theorem Coherent.storeVertex (coherent : g.Coherent) {v : Vertex} (storable : v.Storable)
    (fresh : ∀ w ∈ g.vertices, w.id ≠ v.id) : (g.storeVertex v).Coherent := by
  have linked := coherent.toLinked.appendVertex storable fresh
  have reads := coherent.toLinked.vertex?_appendVertex storable fresh
  have missing : g.vertex? v.id = none := by
    apply Option.eq_none_iff_forall_ne_some.mpr
    intro w found
    obtain ⟨stored, named⟩ := coherent.toLinked.vertex?_eq_some_iff.mp found
    exact fresh w stored named
  have apart : (((g.appendVertex v).touching v.id).filter (g.appendVertex v).isPending).Nodup :=
    (Ascending.nodup_ofList _).filter _
  obtain ⟨filedLinked, filedKeys⟩ := linked.fileEdges apart fun slot member =>
    (List.mem_filter.mp member).2
  rw [storeVertex_eq, filePending]
  refine ⟨filedLinked, fun slot e held => ?_⟩
  rw [foldl_frame edgeAt? edgeAt?_fileEdge] at held
  rw [foldl_frame keysFor? keysFor?_fileEdge, filedKeys slot e held]
  split
  · rfl
  · next notFiled =>
      have old := coherent.keys slot e held
      change g.keysAt slot = _
      by_cases touches : e.source = v.id ∨ e.target = v.id
      · -- it was pending before, so it is among those that are filed
        have unknown : g.keysFor? e = none := by
          apply Option.eq_none_iff_forall_ne_some.mpr
          intro keys known
          obtain ⟨source, target, fromHere, toThere, -⟩ := keysFor?_eq_some_iff.mp known
          rcases touches with same | same
          · rw [same, missing] at fromHere
            cases fromHere
          · rw [same, missing] at toThere
            cases toThere
        rw [unknown, Option.getD_none] at old
        exact absurd (List.mem_filter.mpr ⟨linked.mem_touching.mpr ⟨e, held, touches⟩,
          isPending_iff.mpr ⟨e, held, old⟩⟩) notFiled
      · have same : (g.appendVertex v).keysFor? e = g.keysFor? e := by
          simp only [not_or] at touches
          simp only [keysFor?, reads, if_neg touches.1, if_neg touches.2]
        rw [same, old]

theorem vertices_storeVertex (g : Graph) (v : Vertex) :
    (g.storeVertex v).vertices = g.vertices ++ [v] := by
  rw [storeVertex_eq, filePending, vertices, foldl_frame vertexArena vertexArena_fileEdge]
  exact vertices_appendVertex g v

theorem edges_storeVertex (g : Graph) (v : Vertex) : (g.storeVertex v).edges = g.edges := by
  rw [storeVertex_eq, filePending, edges_eq,
    foldl_frame (·.edgeArena.size) size_edgeArena_fileEdge,
    foldl_frame edgeAt? edgeAt?_fileEdge]
  exact (edges_eq g).symm

theorem size_vertexArena_storeVertex (g : Graph) (v : Vertex) :
    (g.storeVertex v).vertexArena.size = g.vertexArena.size + 1 := by
  rw [storeVertex_eq, filePending, foldl_frame vertexArena vertexArena_fileEdge]
  exact Arena.size_push _ _

theorem size_edgeArena_storeVertex (g : Graph) (v : Vertex) :
    (g.storeVertex v).edgeArena.size = g.edgeArena.size := by
  rw [storeVertex_eq, filePending, foldl_frame (·.edgeArena.size) size_edgeArena_fileEdge]
  rfl

/-! ## Storing an edge -/

/-- The edge is in its slot and in the indexes by id and by endpoint, without keys. -/
def appendEdge (g : Graph) (e : Edge) : Graph :=
  { g with
    edgeArena := g.edgeArena.push ⟨e, []⟩
    edgeSlots := g.edgeSlots.insert e.id g.edgeArena.size
    outbound := g.outbound.file e.source g.edgeArena.size
    inbound := g.inbound.file e.target g.edgeArena.size }

theorem storeEdge_eq (g : Graph) (e : Edge) :
    g.storeEdge e = (g.appendEdge e).fileEdge g.edgeArena.size := rfl

theorem edges_appendEdge (g : Graph) (e : Edge) : (g.appendEdge e).edges = g.edges ++ [e] := by
  show (g.edgeArena.push ⟨e, []⟩).live.map _ = _
  rw [Arena.live_push, List.map_append]
  rfl

theorem edgeAt?_appendEdge (g : Graph) (e : Edge) (slot : Nat) :
    (g.appendEdge e).edgeAt? slot = if slot = g.edgeArena.size then some e else g.edgeAt? slot := by
  show ((g.edgeArena.push ⟨e, []⟩).get? slot).map _ = _
  rw [Arena.get?_push]
  split <;> rfl

theorem keysAt_appendEdge (g : Graph) (e : Edge) (slot : Nat) :
    (g.appendEdge e).keysAt slot = if slot = g.edgeArena.size then [] else g.keysAt slot := by
  show (((g.edgeArena.push ⟨e, []⟩).get? slot).map _).getD [] = _
  rw [Arena.get?_push]
  split <;> rfl

theorem vacant_size (g : Graph) :
    g.edgeAt? g.edgeArena.size = none ∧ g.keysAt g.edgeArena.size = [] := by
  have vacant : g.edgeArena.get? g.edgeArena.size = none := by
    cases held : g.edgeArena.get? g.edgeArena.size with
    | none => rfl
    | some e => exact absurd (Arena.lt_size_of_get? held) (Nat.lt_irrefl _)
  simp [edgeAt?, keysAt, vacant]

theorem Linked.appendEdge (linked : g.Linked) {e : Edge} (storable : e.Storable)
    (fresh : ∀ f ∈ g.edges, f.id ≠ e.id) : (g.appendEdge e).Linked := by
  obtain ⟨empty, noKeys⟩ := g.vacant_size
  have appended := edgeAt?_appendEdge g e
  have locates : Locates g.edgeSlots g.edgeAt? Edge.id := linked.edgeSlots
  constructor
  · exact linked.vertexSlots
  · apply locates.insert empty
    · exact fun slot f held => fresh f (mem_edges.mpr ⟨slot, held⟩)
    · exact appended
  · exact linked.verticesByType
  · exact linked.outbound.fill empty appended
  · exact linked.inbound.fill empty appended
  · apply linked.buckets.congr
    intro key slot
    rw [keysAt_appendEdge]
    split
    · next new => simp [new, noKeys]
    · rfl
  · exact linked.vertexStorable
  · intro slot f held
    rw [edgeAt?_appendEdge] at held
    split at held
    · cases held
      exact storable
    · exact linked.edgeStorable slot f held

/-- **Storing an edge keeps a graph coherent.** -/
theorem Coherent.storeEdge (coherent : g.Coherent) {e : Edge} (storable : e.Storable)
    (fresh : ∀ f ∈ g.edges, f.id ≠ e.id) : (g.storeEdge e).Coherent := by
  have linked := coherent.toLinked.appendEdge storable fresh
  have atEnd : (g.appendEdge e).edgeAt? g.edgeArena.size = some e := by simp [edgeAt?_appendEdge]
  have waits : (g.appendEdge e).keysAt g.edgeArena.size = [] := by simp [keysAt_appendEdge]
  rw [storeEdge_eq]
  refine ⟨linked.fileEdge waits, fun slot f held => ?_⟩
  rw [edgeAt?_fileEdge] at held
  rw [keysFor?_fileEdge, keysAt_fileEdge atEnd waits]
  split
  · next here =>
      obtain rfl : e = f := Option.some.inj (atEnd.symm.trans (here ▸ held))
      rfl
  · next elsewhere =>
      rw [edgeAt?_appendEdge, if_neg elsewhere] at held
      rw [keysAt_appendEdge, if_neg elsewhere]
      exact coherent.keys slot f held

theorem edges_storeEdge (g : Graph) (e : Edge) : (g.storeEdge e).edges = g.edges ++ [e] := by
  rw [storeEdge_eq, edges_eq, size_edgeArena_fileEdge, edgeAt?_fileEdge, ← edges_eq]
  exact edges_appendEdge g e

theorem vertices_storeEdge (g : Graph) (e : Edge) : (g.storeEdge e).vertices = g.vertices := by
  rw [storeEdge_eq, vertices, vertexArena_fileEdge]
  rfl

theorem size_edgeArena_storeEdge (g : Graph) (e : Edge) :
    (g.storeEdge e).edgeArena.size = g.edgeArena.size + 1 := by
  rw [storeEdge_eq, size_edgeArena_fileEdge]
  exact Arena.size_push _ _

theorem size_vertexArena_storeEdge (g : Graph) (e : Edge) :
    (g.storeEdge e).vertexArena.size = g.vertexArena.size := by
  rw [storeEdge_eq, vertexArena_fileEdge]
  rfl

/-! ## Checked insertion -/

theorem insertVertex_of_fault {v : Vertex} {cause : InputError}
    (fault : v.normalized.check = .error cause) : g.insertVertex v = .error cause := by
  rw [insertVertex, fault]
  rfl

theorem insertVertex_of_checked {v : Vertex} (checked : v.normalized.check = .ok ()) :
    g.insertVertex v =
      if g.hasVertex v.normalized then .error (.duplicateVertex v.id)
      else .ok (g.storeVertex v.normalized) := by
  rw [insertVertex, checked]
  cases g.hasVertex v.normalized <;> rfl

theorem insertEdge_of_fault {e : Edge} {cause : InputError}
    (fault : e.normalized.check = .error cause) : g.insertEdge e = .error cause := by
  rw [insertEdge, fault]
  rfl

theorem insertEdge_of_checked {e : Edge} (checked : e.normalized.check = .ok ()) :
    g.insertEdge e =
      .ok (if g.hasEdge e.normalized then (false, g) else (true, g.storeEdge e.normalized)) := by
  rw [insertEdge, checked]
  rfl

theorem checked_of_insertEdge {e : Edge} {done : Bool × Graph} (accepted : g.insertEdge e = .ok done) :
    e.normalized.check = .ok () := by
  cases checked : e.normalized.check with
  | ok => rfl
  | error cause =>
      rw [insertEdge_of_fault checked] at accepted
      cases accepted

/-- An accepted vertex is put at the end, in its normal form. -/
theorem Coherent.insertVertex (coherent : g.Coherent) {v : Vertex} {after : Graph}
    (done : g.insertVertex v = .ok after) :
    after.Coherent ∧ after.vertices = g.vertices ++ [v.normalized] ∧ after.edges = g.edges := by
  cases checked : v.normalized.check with
  | error cause =>
      rw [insertVertex_of_fault checked] at done
      cases done
  | ok =>
      rw [insertVertex_of_checked checked] at done
      split at done
      · cases done
      · next free =>
          have fresh : ∀ w ∈ g.vertices, w.id ≠ v.normalized.id := fun w stored same =>
            free (coherent.toLinked.hasVertex_iff.mpr ⟨w, stored, same⟩)
          obtain rfl := Except.ok.inj done
          exact ⟨coherent.storeVertex ⟨⟨v, rfl⟩, checked⟩ fresh, vertices_storeVertex _ _,
            edges_storeVertex _ _⟩

/-- An accepted edge is put at the end, in its normal form, if it is new. -/
theorem Coherent.insertEdge (coherent : g.Coherent) {e : Edge} {isNew : Bool} {after : Graph}
    (done : g.insertEdge e = .ok (isNew, after)) :
    after.Coherent ∧ after.vertices = g.vertices ∧
      after.edges = if isNew then g.edges ++ [e.normalized] else g.edges := by
  have checked := checked_of_insertEdge done
  rw [insertEdge_of_checked checked] at done
  split at done
  · obtain ⟨rfl, rfl⟩ := Prod.mk.inj (Except.ok.inj done)
    exact ⟨coherent, rfl, rfl⟩
  · next free =>
      have fresh : ∀ f ∈ g.edges, f.id ≠ e.normalized.id := fun f stored same =>
        free (coherent.toLinked.hasEdge_iff.mpr ⟨f, stored, same⟩)
      obtain ⟨rfl, rfl⟩ := Prod.mk.inj (Except.ok.inj done)
      exact ⟨coherent.storeEdge ⟨⟨e, rfl⟩, checked⟩ fresh, vertices_storeEdge _ _, edges_storeEdge _ _⟩

theorem Coherent.insertVertices (coherent : g.Coherent) (vs : List Vertex) :
    (g.insertVertices vs).2.Coherent := by
  induction vs generalizing g with
  | nil => exact coherent
  | cons v vs ih =>
      rw [Graph.insertVertices]
      split
      · exact coherent
      · next stored done => exact ih (coherent.insertVertex done).1

theorem Coherent.insertEdges (coherent : g.Coherent) (es : List Edge) :
    (g.insertEdges es).2.Coherent := by
  induction es generalizing g with
  | nil => exact coherent
  | cons e es ih =>
      rw [Graph.insertEdges]
      split
      · exact coherent
      · next isNew stored done => exact ih (coherent.insertEdge done).1

theorem insertEdges_cons {e : Edge} {isNew : Bool} {stored : Graph}
    (first : g.insertEdge e = .ok (isNew, stored)) (es : List Edge) :
    g.insertEdges (e :: es) =
      ((· + isNew.toNat) <$> (stored.insertEdges es).1, (stored.insertEdges es).2) := by
  rw [Graph.insertEdges, first]

/-- **A batch of edges without a fault is inserted whole**: the new ones are put at the
end, and afterwards each has an edge with its id. -/
theorem Coherent.insertEdges_of_checked (coherent : g.Coherent) {es : List Edge}
    (checked : ∀ e ∈ es, e.normalized.check = .ok ()) :
    ∃ added, (g.insertEdges es).1 = .ok added.length ∧
      (g.insertEdges es).2.vertices = g.vertices ∧ (g.insertEdges es).2.edges = g.edges ++ added ∧
      added.Sublist (es.map Edge.normalized) ∧
      ∀ e ∈ es, ∃ f ∈ g.edges ++ added, f.id = e.normalized.id := by
  induction es generalizing g with
  | nil => exact ⟨[], rfl, rfl, by simp [Graph.insertEdges], List.Sublist.refl _, by simp⟩
  | cons e es ih =>
      obtain ⟨first, later⟩ := List.forall_mem_cons.mp checked
      have done := insertEdge_of_checked (g := g) first
      cases taken : g.hasEdge e.normalized with
      | true =>
          -- nothing is stored for `e`, whose id is there already
          rw [taken, if_pos rfl] at done
          obtain ⟨added, count, vertices, edges, fromThese, kept⟩ := ih coherent later
          obtain ⟨f, stored, same⟩ := coherent.toLinked.hasEdge_iff.mp taken
          rw [insertEdges_cons done, count]
          exact ⟨added, rfl, vertices, edges, fromThese.cons _,
            List.forall_mem_cons.mpr ⟨⟨f, List.mem_append_left _ stored, same⟩, kept⟩⟩
      | false =>
          rw [taken, if_neg Bool.false_ne_true] at done
          obtain ⟨stored, sameVertices, newEdges⟩ := coherent.insertEdge done
          obtain ⟨added, count, vertices, edges, fromThese, kept⟩ := ih stored later
          rw [if_pos rfl] at newEdges
          rw [newEdges, List.append_assoc] at edges kept
          rw [insertEdges_cons done, count]
          have itself : ∃ f ∈ g.edges ++ e.normalized :: added, f.id = e.normalized.id :=
            ⟨e.normalized, List.mem_append_right _ List.mem_cons_self, rfl⟩
          exact ⟨e.normalized :: added, rfl, vertices.trans sameVertices, edges,
            fromThese.cons_cons _, List.forall_mem_cons.mpr ⟨itself, kept⟩⟩

/-- A batch of edges whose ids are all taken changes nothing. -/
theorem insertEdges_of_taken {es : List Edge}
    (taken : ∀ e ∈ es, e.normalized.check = .ok () ∧ g.hasEdge e.normalized = true) :
    g.insertEdges es = (.ok 0, g) := by
  induction es with
  | nil => rfl
  | cons e es ih =>
      obtain ⟨⟨checked, here⟩, later⟩ := List.forall_mem_cons.mp taken
      have first : g.insertEdge e = .ok (false, g) := by
        rw [insertEdge_of_checked checked, if_pos here]
      rw [insertEdges_cons first, ih later]
      rfl

theorem checked_of_insertEdges {es : List Edge} {count : Nat}
    (done : (g.insertEdges es).1 = .ok count) : ∀ e ∈ es, e.normalized.check = .ok () := by
  induction es generalizing g count with
  | nil => simp
  | cons e es ih =>
      cases checked : e.normalized.check with
      | error fault =>
          rw [Graph.insertEdges, insertEdge_of_fault checked] at done
          cases done
      | ok =>
          obtain ⟨⟨isNew, stored⟩, first⟩ : ∃ done, g.insertEdge e = .ok done :=
            ⟨_, insertEdge_of_checked checked⟩
          rw [insertEdges_cons first] at done
          obtain ⟨later, rest, -⟩ := map_eq_ok_iff.mp done
          exact List.forall_mem_cons.mpr ⟨checked, ih rest⟩

/-- **A batch of edges that fails has done what the edges before the fault do.** -/
theorem insertEdges_of_error {es : List Edge} {cause : InputError}
    (failed : (g.insertEdges es).1 = .error cause) :
    ∃ before e after, es = before ++ e :: after ∧ (∀ f ∈ before, f.normalized.check = .ok ()) ∧
      e.normalized.check = .error cause ∧ (g.insertEdges es).2 = (g.insertEdges before).2 := by
  induction es generalizing g with
  | nil => cases failed
  | cons e es ih =>
      cases checked : e.normalized.check with
      | error fault =>
          rw [Graph.insertEdges, insertEdge_of_fault checked] at failed ⊢
          obtain rfl := Except.error.inj failed
          exact ⟨[], e, es, rfl, by simp, checked, rfl⟩
      | ok =>
          obtain ⟨⟨isNew, stored⟩, first⟩ : ∃ done, g.insertEdge e = .ok done :=
            ⟨_, insertEdge_of_checked checked⟩
          rw [insertEdges_cons first] at failed ⊢
          cases rest : (stored.insertEdges es).1 with
          | ok count => simp [rest] at failed
          | error fault =>
              obtain rfl : fault = cause := by simpa [rest] using failed
              obtain ⟨before, f, after, rfl, passed, rejected, same⟩ := ih rest
              refine ⟨e :: before, f, after, rfl, List.forall_mem_cons.mpr ⟨checked, passed⟩,
                rejected, ?_⟩
              rw [insertEdges_cons first]
              exact same

end Trellis.Graph
