/-
# Trellis.Proofs.Graph.Postings — postings as a relation between keys and slots

`Tracks` says that postings list, under each key, exactly the slots that stand
in a relation to it, each once, and that no key is kept without a slot. Each
operation on postings is one change of that relation, and `collect` reads it
for several keys at once. There are as many entries counted by keys as counted by
slots (`Tracks.entryCount_eq`).
-/
import Mathlib.Algebra.BigOperators.Group.List.Basic
import Mathlib.Algebra.GroupWithZero.Nat
import Trellis.Graph.Postings
import Trellis.Proofs.Ascending

namespace Trellis.Graph.Postings

set_option autoImplicit false

variable {κ : Type} [Ord κ]

/-- The slots listed under a key are those that stand in the relation to it, each once. -/
structure Lists (p : Postings κ) (holds : κ → Nat → Prop) : Prop where
  mem_slots : ∀ key slot, slot ∈ p.slots key ↔ holds key slot
  nodup_slots : ∀ key, (p.slots key).Nodup

/-- And no list is empty. -/
structure Tracks (p : Postings κ) (holds : κ → Nat → Prop) : Prop extends Lists p holds where
  /-- A key without a slot is forgotten. -/
  listed : ∀ key : κ, p.lists[key]? ≠ some []

variable {p : Postings κ} {holds : κ → Nat → Prop}

/-- Two relations that agree are tracked by the same postings. -/
theorem Tracks.congr {holds' : κ → Nat → Prop} (tracks : p.Tracks holds)
    (same : ∀ key slot, holds' key slot ↔ holds key slot) : p.Tracks holds' where
  mem_slots key slot := (tracks.mem_slots key slot).trans (same key slot).symm
  nodup_slots := tracks.nodup_slots
  listed := tracks.listed

theorem mem_collect (p : Postings κ) (keys : List κ) (slot : Nat) :
    slot ∈ p.collect keys ↔ ∃ key ∈ keys, slot ∈ p.slots key := by
  rw [collect, Ascending.mem_ofList, List.mem_flatMap]

theorem pairwise_collect (p : Postings κ) (keys : List κ) : (p.collect keys).Pairwise (· < ·) :=
  Ascending.pairwise_ofList _

/-- Every key with every slot under it. -/
def entries (p : Postings κ) : List (κ × Nat) :=
  p.lists.toList.flatMap fun listed => listed.2.map (listed.1, ·)

theorem length_entries (p : Postings κ) : p.entries.length = p.entryCount := by
  have counted : ∀ (lists : List (κ × List Nat)) (start : Nat),
      lists.foldl (fun count listed => count + listed.2.length) start =
        start + (lists.flatMap fun listed => listed.2.map (listed.1, ·)).length := by
    intro lists
    induction lists with
    | nil => exact fun start => rfl
    | cons listed lists ih =>
        intro start
        rw [List.foldl_cons, ih, List.flatMap_cons, List.length_append, List.length_map, Nat.add_assoc]
  rw [entryCount, Std.TreeMap.foldl_eq_foldl_toList, counted, Nat.zero_add]
  rfl

variable [Std.TransOrd κ]

theorem tracks_empty : ({} : Postings κ).Tracks fun _ _ => False where
  mem_slots key slot := by simp [slots]
  nodup_slots key := by simp [slots]
  listed key := by simp

/-- A key is kept as long as some slot stands in the relation to it. -/
theorem Tracks.exists_list_iff (tracks : p.Tracks holds) {key : κ} :
    (∃ slots, p.lists[key]? = some slots) ↔ ∃ slot, holds key slot := by
  simp only [← tracks.mem_slots, slots, Std.TreeMap.getD_eq_getD_getElem?]
  cases found : p.lists[key]? with
  | none => simp
  | some slots =>
      obtain ⟨slot, here⟩ := List.exists_mem_of_ne_nil slots fun none_ =>
        tracks.listed key (none_ ▸ found)
      exact ⟨fun _ => ⟨slot, here⟩, fun _ => ⟨slots, rfl⟩⟩

variable [Std.LawfulEqOrd κ]

/-! ## What an operation lists -/

theorem mem_slots_file {key k : κ} {slot s : Nat} :
    s ∈ (p.file key slot).slots k ↔ (k = key ∧ s = slot) ∨ s ∈ p.slots k := by
  rw [slots_file]
  by_cases same : k = key
  · subst same
    simp
  · simp [same, Ne.symm same]

theorem mem_slots_withdraw {key k : κ} {slot s : Nat} :
    s ∈ (p.withdraw key slot).slots k ↔ s ∈ p.slots k ∧ ¬(k = key ∧ s = slot) := by
  rw [slots_withdraw]
  by_cases same : k = key
  · subst same
    simp
  · simp [same, Ne.symm same]

/-- Also when a key comes more than once. -/
theorem mem_slots_fileAll {keys : List κ} {k : κ} {slot s : Nat} :
    s ∈ (p.fileAll keys slot).slots k ↔ (k ∈ keys ∧ s = slot) ∨ s ∈ p.slots k := by
  induction keys generalizing p with
  | nil => simp [fileAll]
  | cons key keys ih =>
      have rest : p.fileAll (key :: keys) slot = (p.file key slot).fileAll keys slot := rfl
      rw [rest, ih, mem_slots_file, List.mem_cons]
      tauto

theorem mem_slots_withdrawAll {keys : List κ} {k : κ} {slot s : Nat} :
    s ∈ (p.withdrawAll keys slot).slots k ↔ s ∈ p.slots k ∧ ¬(k ∈ keys ∧ s = slot) := by
  induction keys generalizing p with
  | nil => simp [withdrawAll]
  | cons key keys ih =>
      have rest : p.withdrawAll (key :: keys) slot = (p.withdraw key slot).withdrawAll keys slot := rfl
      rw [rest, ih, mem_slots_withdraw, List.mem_cons]
      tauto

/-! ## Tracking -/

theorem Tracks.file (tracks : p.Tracks holds) {key : κ} {slot : Nat} (new : ¬holds key slot) :
    (p.file key slot).Tracks fun k s => (k = key ∧ s = slot) ∨ holds k s where
  mem_slots k s := by rw [mem_slots_file, tracks.mem_slots]
  nodup_slots k := by
    rw [slots_file]
    split
    · exact List.nodup_cons.mpr ⟨fun member => new ((tracks.mem_slots _ _).mp member),
        tracks.nodup_slots key⟩
    · exact tracks.nodup_slots k
  listed k := by
    simp only [Postings.file, Std.TreeMap.getElem?_alter]
    split
    · simp
    · exact tracks.listed k

theorem Tracks.withdraw (tracks : p.Tracks holds) (key : κ) (slot : Nat) :
    (p.withdraw key slot).Tracks fun k s => holds k s ∧ ¬(k = key ∧ s = slot) where
  mem_slots k s := by rw [mem_slots_withdraw, tracks.mem_slots]
  nodup_slots k := by
    rw [slots_withdraw]
    split
    · exact (tracks.nodup_slots key).filter _
    · exact tracks.nodup_slots k
  listed k := by
    simp only [Postings.withdraw, Std.TreeMap.getElem?_alter]
    split
    · intro left
      obtain ⟨-, empty⟩ := Option.filter_eq_some_iff.mp left
      simp at empty
    · exact tracks.listed k

theorem Tracks.fileAll (tracks : p.Tracks holds) {keys : List κ} (slot : Nat) (apart : keys.Nodup)
    (new : ∀ key ∈ keys, ¬holds key slot) :
    (p.fileAll keys slot).Tracks fun k s => (k ∈ keys ∧ s = slot) ∨ holds k s := by
  induction keys generalizing p holds with
  | nil => exact tracks.congr (by simp)
  | cons key keys ih =>
      obtain ⟨first, rest⟩ := List.nodup_cons.mp apart
      have filed := tracks.file (new key List.mem_cons_self)
      have stillNew : ∀ k ∈ keys, ¬((k = key ∧ slot = slot) ∨ holds k slot) := by
        rintro k member (⟨rfl, -⟩ | held)
        · exact first member
        · exact new k (List.mem_cons_of_mem _ member) held
      apply (ih filed rest stillNew).congr
      intro k s
      rw [List.mem_cons]
      tauto

theorem Tracks.withdrawAll (tracks : p.Tracks holds) (keys : List κ) (slot : Nat) :
    (p.withdrawAll keys slot).Tracks fun k s => holds k s ∧ ¬(k ∈ keys ∧ s = slot) := by
  induction keys generalizing p holds with
  | nil => exact tracks.congr (by simp)
  | cons key keys ih =>
      apply (ih (tracks.withdraw key slot)).congr
      intro k s
      rw [List.mem_cons]
      tauto

/-! ## Counting -/

/-- A map has as many entries as it has keys. -/
theorem size_eq_length {β : Type} {m : Std.TreeMap κ β} {keys : List κ} (apart : keys.Nodup)
    (same : ∀ k, (∃ x, m[k]? = some x) ↔ k ∈ keys) : m.size = keys.length := by
  rw [← Std.TreeMap.length_keys]
  refine ((List.perm_ext_iff_of_nodup Std.TreeMap.nodup_keys apart).mpr fun k => ?_).length_eq
  rw [Std.TreeMap.mem_keys, Std.TreeMap.mem_iff_isSome_getElem?, Option.isSome_iff_exists, same]

theorem mem_entries {key : κ} {slot : Nat} : (key, slot) ∈ p.entries ↔ slot ∈ p.slots key := by
  simp only [entries, slots, Std.TreeMap.getD_eq_getD_getElem?, List.mem_flatMap, List.mem_map,
    Prod.exists, Prod.mk.injEq, Std.TreeMap.mem_toList_iff_getElem?_eq_some]
  constructor
  · rintro ⟨k, listed, found, s, here, rfl, rfl⟩
    rw [found]
    exact here
  · intro here
    cases found : p.lists[key]? with
    | none => simp [found] at here
    | some listed => exact ⟨key, listed, found, slot, by simpa [found] using here, rfl, rfl⟩

theorem Tracks.nodup_entries (tracks : p.Tracks holds) : p.entries.Nodup := by
  refine List.nodup_flatMap.mpr ⟨fun listed member => ?_, ?_⟩
  · obtain ⟨key, listed⟩ := listed
    have found := Std.TreeMap.mem_toList_iff_getElem?_eq_some.mp member
    have apart := tracks.nodup_slots key
    rw [slots, Std.TreeMap.getD_eq_getD_getElem?, found, Option.getD_some] at apart
    exact apart.map fun _ _ same => congrArg Prod.snd same
  · refine Std.TreeMap.distinct_keys_toList.imp fun {left right} apart entry inLeft inRight => ?_
    obtain ⟨_, -, rfl⟩ := List.mem_map.mp inLeft
    obtain ⟨_, -, same⟩ := List.mem_map.mp inRight
    have key : left.1 = right.1 := (congrArg Prod.fst same).symm
    exact apart (by rw [key]; exact Std.ReflCmp.compare_self)

/-- Counting by keys counts by slots: when the keys of each slot are known, their
numbers add up to the number of entries. -/
theorem Tracks.entryCount_eq {keysAt : Nat → List κ}
    (tracks : p.Tracks fun key slot => key ∈ keysAt slot) (apart : ∀ slot, (keysAt slot).Nodup)
    {bound : Nat} (inside : ∀ slot, keysAt slot ≠ [] → slot < bound) :
    p.entryCount = ((List.range bound).map fun slot => (keysAt slot).length).sum := by
  have bySlot : ((List.range bound).flatMap fun slot => (keysAt slot).map (·, slot)).Nodup := by
    refine List.nodup_flatMap.mpr ⟨fun slot _ => ?_, ?_⟩
    · exact (apart slot).map fun _ _ same => congrArg Prod.fst same
    · refine List.nodup_range.imp fun {s t} other entry inS inT => ?_
      obtain ⟨_, -, rfl⟩ := List.mem_map.mp inS
      obtain ⟨_, -, same⟩ := List.mem_map.mp inT
      exact other (congrArg Prod.snd same).symm
  have perm : p.entries.Perm
      ((List.range bound).flatMap fun slot => (keysAt slot).map (·, slot)) := by
    apply (List.perm_ext_iff_of_nodup tracks.nodup_entries bySlot).mpr
    rintro ⟨key, slot⟩
    rw [mem_entries, tracks.mem_slots]
    simp only [List.mem_flatMap, List.mem_map, List.mem_range, Prod.mk.injEq]
    constructor
    · exact fun filed => ⟨slot, inside slot (List.ne_nil_of_mem filed), key, filed, rfl, rfl⟩
    · rintro ⟨_, -, _, filed, rfl, rfl⟩
      exact filed
  rw [← length_entries, perm.length_eq, List.length_flatMap]
  simp only [List.length_map]

end Trellis.Graph.Postings
