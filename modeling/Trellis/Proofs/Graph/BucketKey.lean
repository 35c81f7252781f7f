/-
# Trellis.Proofs.Graph.BucketKey — which lookups meet which edges

An edge has keys. Types in normal form give no key twice, and how many keys they give
is seen from the lengths of their lists (`length_ofEdge_normalize`). A lookup reads a
key of an edge exactly when its scope admits the provenance of the edge and each of its
three lists of types is empty or shares a type, in lower case, with the edge's
(`meets_iff`), in whatever form the lists are.
-/
import Trellis.Graph.BucketKey
import Trellis.Proofs.Distinct
import Trellis.Proofs.Tag
import Mathlib.Data.Option.Basic

namespace Trellis.Graph.BucketKey

set_option autoImplicit false

/-! ## Members -/

theorem mem_combine {provenances : List Provenance} {sources edges targets : List (Option String)}
    {key : BucketKey} :
    key ∈ combine provenances sources edges targets ↔
      key.provenance ∈ provenances ∧ key.source ∈ sources ∧ key.edge ∈ edges ∧
        key.target ∈ targets := by
  simp only [combine, List.mem_flatMap, List.mem_map]
  constructor
  · rintro ⟨p, hp, s, hs, e, he, t, ht, rfl⟩
    exact ⟨hp, hs, he, ht⟩
  · rintro ⟨hp, hs, he, ht⟩
    exact ⟨_, hp, _, hs, _, he, _, ht, rfl⟩

theorem mem_named {types : List String} {place : Option String} :
    place ∈ named types ↔ ∃ type ∈ types, place = some (Text.lowercase type) := by
  simp only [named, List.mem_map, Ascending.mem_ofList]
  constructor
  · rintro ⟨-, ⟨type, member, rfl⟩, rfl⟩
    exact ⟨type, member, rfl⟩
  · rintro ⟨type, member, rfl⟩
    exact ⟨_, ⟨type, member, rfl⟩, rfl⟩

theorem mem_openOrNamed {types : List String} {place : Option String} :
    place ∈ openOrNamed types ↔
      place = none ∨ ∃ type ∈ types, place = some (Text.lowercase type) := by
  rw [openOrNamed, mem_eraseReps, List.mem_cons, List.mem_map]
  simp only [eq_comm]

/-! ## The keys of an edge -/

theorem ofEdge_ne_nil (sourceTypes edgeTypes targetTypes : List String) (provenance : Provenance) :
    ofEdge sourceTypes edgeTypes targetTypes provenance ≠ [] := by
  have allOpen : (⟨none, none, none, provenance⟩ : BucketKey) ∈
      ofEdge sourceTypes edgeTypes targetTypes provenance :=
    mem_combine.mpr (by simp [mem_openOrNamed])
  exact List.ne_nil_of_mem allOpen

/-- Types in normal form are told apart in lower case as they are. -/
theorem nodup_none_cons_normalize (types : List String) :
    (none :: (Tag.normalize types).map some).Nodup := by
  refine List.nodup_cons.mpr ⟨by simp, ?_⟩
  exact (Ascending.nodup_of_pairwise (Tag.pairwise_normalize types)).map (Option.some_injective _)

theorem openOrNamed_normalize (types : List String) :
    openOrNamed (Tag.normalize types) = none :: (Tag.normalize types).map some := by
  have lowered : (Tag.normalize types).map (fun type => some (Text.lowercase type)) =
      (Tag.normalize types).map some := by
    rw [← Function.comp_def, ← List.map_map, Tag.map_lowercase_normalize]
  rw [openOrNamed, lowered, eraseReps_eq_self (nodup_none_cons_normalize types)]

theorem nodup_openOrNamed_normalize (types : List String) :
    (openOrNamed (Tag.normalize types)).Nodup :=
  openOrNamed_normalize types ▸ nodup_none_cons_normalize types

/-- Choices from lists without repetitions are all different. -/
theorem nodup_combine {sources edges targets : List (Option String)} (provenance : Provenance)
    (apartSources : sources.Nodup) (apartEdges : edges.Nodup) (apartTargets : targets.Nodup) :
    (combine [provenance] sources edges targets).Nodup := by
  simp only [combine, List.flatMap_singleton]
  refine List.nodup_flatMap.mpr ⟨fun s _ => List.nodup_flatMap.mpr ⟨fun e _ => ?_, ?_⟩, ?_⟩
  · exact apartTargets.map fun t u same => congrArg target same
  · refine apartEdges.imp fun {e f} apart key inE inF => ?_
    obtain ⟨t, -, rfl⟩ := List.mem_map.mp inE
    obtain ⟨u, -, same⟩ := List.mem_map.mp inF
    exact apart (congrArg edge same).symm
  · refine apartSources.imp fun {s r} apart key inS inR => ?_
    simp only [List.mem_flatMap, List.mem_map] at inS inR
    obtain ⟨_, _, _, _, rfl⟩ := inS
    obtain ⟨_, _, _, _, same⟩ := inR
    exact apart (congrArg source same).symm

theorem nodup_ofEdge_normalize (sourceTypes edgeTypes targetTypes : List String)
    (provenance : Provenance) :
    (ofEdge (Tag.normalize sourceTypes) (Tag.normalize edgeTypes) (Tag.normalize targetTypes)
      provenance).Nodup :=
  nodup_combine provenance (nodup_openOrNamed_normalize _) (nodup_openOrNamed_normalize _)
    (nodup_openOrNamed_normalize _)

/-! ## How many keys an edge has -/

theorem length_combine (provenances : List Provenance)
    (sources edges targets : List (Option String)) :
    (combine provenances sources edges targets).length =
      provenances.length * (sources.length * (edges.length * targets.length)) := by
  simp only [combine, List.length_flatMap, List.length_map, List.map_const', List.sum_replicate_nat]

theorem length_openOrNamed_normalize (types : List String) :
    (openOrNamed (Tag.normalize types)).length = (Tag.normalize types).length + 1 := by
  rw [openOrNamed_normalize, List.length_cons, List.length_map]

theorem length_ofEdge_normalize (sourceTypes edgeTypes targetTypes : List String)
    (provenance : Provenance) :
    (ofEdge (Tag.normalize sourceTypes) (Tag.normalize edgeTypes) (Tag.normalize targetTypes)
        provenance).length =
      ((Tag.normalize sourceTypes).length + 1) * ((Tag.normalize edgeTypes).length + 1) *
        ((Tag.normalize targetTypes).length + 1) := by
  rw [ofEdge, length_combine, length_openOrNamed_normalize, length_openOrNamed_normalize,
    length_openOrNamed_normalize, List.length_singleton, Nat.one_mul, Nat.mul_assoc]

/-! ## Lookups -/

theorem mem_provenances_iff (scope : Scope) (p : Provenance) :
    p ∈ scope.provenances ↔ scope.admits p = true := by
  cases scope <;> cases p <;> decide

/-- A place of a lookup's keys is a place of an edge's keys when nothing is asked
of it or a type that is asked for is there. -/
theorem exists_place_iff (wanted own : List String) :
    (∃ place ∈ namedOrOpen wanted, place ∈ openOrNamed own) ↔
      wanted = [] ∨ ∃ w ∈ wanted, ∃ o ∈ own, Text.lowercase w = Text.lowercase o := by
  cases wanted with
  | nil => simp [namedOrOpen, mem_openOrNamed]
  | cons w rest =>
      have asked : namedOrOpen (w :: rest) = named (w :: rest) := rfl
      simp only [asked, mem_openOrNamed, reduceCtorEq, false_or]
      constructor
      · rintro ⟨place, named, here⟩
        obtain ⟨type, member, rfl⟩ := mem_named.mp named
        rcases here with impossible | ⟨o, owned, same⟩
        · cases impossible
        · exact ⟨type, member, o, owned, Option.some_injective _ same⟩
      · rintro ⟨type, member, o, owned, same⟩
        exact ⟨_, mem_named.mpr ⟨type, member, rfl⟩, Or.inr ⟨o, owned, congrArg some same⟩⟩

/-- A lookup reads some key of an edge exactly when it asks for nothing that the
edge lacks, up to case. -/
theorem meets_iff (wantedSource wantedEdge wantedTarget : List String) (scope : Scope)
    (sourceTypes edgeTypes targetTypes : List String) (provenance : Provenance) :
    (∃ key ∈ ofLookup wantedSource wantedEdge wantedTarget scope,
        key ∈ ofEdge sourceTypes edgeTypes targetTypes provenance) ↔
      scope.admits provenance = true ∧
        (∃ place ∈ namedOrOpen wantedSource, place ∈ openOrNamed sourceTypes) ∧
        (∃ place ∈ namedOrOpen wantedEdge, place ∈ openOrNamed edgeTypes) ∧
        (∃ place ∈ namedOrOpen wantedTarget, place ∈ openOrNamed targetTypes) := by
  simp only [ofLookup, ofEdge, mem_combine, List.mem_singleton, mem_provenances_iff]
  constructor
  · rintro ⟨key, ⟨admitted, s, e, t⟩, rfl, s', e', t'⟩
    exact ⟨admitted, ⟨_, s, s'⟩, ⟨_, e, e'⟩, ⟨_, t, t'⟩⟩
  · rintro ⟨admitted, ⟨s, hs, hs'⟩, ⟨e, he, he'⟩, ⟨t, ht, ht'⟩⟩
    exact ⟨⟨s, e, t, provenance⟩, ⟨admitted, hs, he, ht⟩, rfl, hs', he', ht'⟩

end Trellis.Graph.BucketKey
