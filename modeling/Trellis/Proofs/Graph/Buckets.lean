/-
# Trellis.Proofs.Graph.Buckets — buckets give a lookup just the edges it asks for

An edge is filed under keys that are made of three lists of types, and a lookup reads
keys that are made of three lists as well. They have a key in common exactly when the
lookup asks for nothing that the edge lacks (`Request.exists_key_iff`), whatever the
lists repeat and however they are spelled.

The buckets are changed call by call. A slot is filed for one edge at a time and removed
with the keys that it was filed under (`Orderly`); then each call keeps the buckets in
step with what each slot is filed as (`Mirrors.insert`, `Mirrors.remove`), and so does a
run of them (`Mirrors.calls`). What is filed at the end is what has been inserted and not
removed since (`filedAfter_eq_some_iff`), which is what a lookup collects as far as it
asks for it (`collect_exact`). Keys that come twice, and slots that stand in several of
the buckets read, do not show.
-/
import Mathlib.Logic.Function.Basic
import Trellis.Proofs.Graph.BucketKey
import Trellis.Proofs.Graph.Postings

namespace Trellis.Graph

set_option autoImplicit false

/-! ## Edges and lookups as the buckets see them -/

/-- What an edge is filed as: the types of its source, its own and those of its target,
in any spelling, and its provenance. -/
structure Filing where
  source : List String
  edge : List String
  target : List String
  provenance : Provenance

def Filing.keys (f : Filing) : List BucketKey :=
  BucketKey.ofEdge f.source f.edge f.target f.provenance

/-- What a lookup asks for, place by place. -/
structure Request where
  source : List String
  edge : List String
  target : List String
  scope : Scope

namespace Request

def keys (r : Request) : List BucketKey :=
  BucketKey.ofLookup r.source r.edge r.target r.scope

/-- Nothing is wanted, or a type that is owned, in lower case. -/
def Shares (wanted own : List String) : Prop :=
  wanted = [] ∨ ∃ w ∈ wanted, ∃ o ∈ own, Text.lowercase w = Text.lowercase o

/-- The edge has what is asked for in every place. -/
structure Meets (r : Request) (f : Filing) : Prop where
  provenance : r.scope.admits f.provenance = true
  source : Shares r.source f.source
  edge : Shares r.edge f.edge
  target : Shares r.target f.target

/-- **Keys are complete and exact.** -/
theorem exists_key_iff (r : Request) (f : Filing) :
    (∃ key ∈ r.keys, key ∈ f.keys) ↔ r.Meets f := by
  rw [keys, Filing.keys, BucketKey.meets_iff, BucketKey.exists_place_iff,
    BucketKey.exists_place_iff, BucketKey.exists_place_iff]
  constructor
  · rintro ⟨provenance, source, edge, target⟩
    exact ⟨provenance, source, edge, target⟩
  · rintro ⟨provenance, source, edge, target⟩
    exact ⟨provenance, source, edge, target⟩

end Request

/-! ## Calls -/

/-- A change of the buckets. -/
inductive BucketCall where
  | insert (f : Filing) (slot : Nat)
  | remove (f : Filing) (slot : Nat)

namespace BucketCall

def apply (p : Postings BucketKey) : BucketCall → Postings BucketKey
  | .insert f slot => p.fileAll f.keys slot
  | .remove f slot => p.withdrawAll f.keys slot

/-- What each slot is filed as after a call, if at all. -/
def note (filed : Nat → Option Filing) : BucketCall → Nat → Option Filing
  | .insert f slot => Function.update filed slot (some f)
  | .remove _ slot => Function.update filed slot none

end BucketCall

/-- The buckets after calls on empty ones. -/
def bucketsAfter (cs : List BucketCall) : Postings BucketKey := cs.foldl BucketCall.apply {}

def filedAfter (filed : Nat → Option Filing) (cs : List BucketCall) : Nat → Option Filing :=
  cs.foldl BucketCall.note filed

/-- No slot is inserted while it is filed, and a slot is removed with the keys that it is
filed under. -/
inductive Orderly : (Nat → Option Filing) → List BucketCall → Prop
  | done {filed : Nat → Option Filing} : Orderly filed []
  | insert {filed : Nat → Option Filing} {f : Filing} {slot : Nat} {cs : List BucketCall} :
      filed slot = none → Orderly (BucketCall.note filed (.insert f slot)) cs →
      Orderly filed (.insert f slot :: cs)
  | remove {filed : Nat → Option Filing} {f f' : Filing} {slot : Nat} {cs : List BucketCall} :
      filed slot = some f' → f.keys = f'.keys →
      Orderly (BucketCall.note filed (.remove f slot)) cs → Orderly filed (.remove f slot :: cs)

/-- The slot has been inserted for the edge and has not been removed since. -/
def Stands (cs : List BucketCall) (f : Filing) (slot : Nat) : Prop :=
  ∃ before after, cs = before ++ .insert f slot :: after ∧ ∀ g, .remove g slot ∉ after

/-! ## One call -/

/-- The buckets list what is filed, under its keys. -/
def Mirrors (p : Postings BucketKey) (filed : Nat → Option Filing) : Prop :=
  ∀ key slot, slot ∈ p.slots key ↔ ∃ f, filed slot = some f ∧ key ∈ f.keys

variable {p : Postings BucketKey} {filed : Nat → Option Filing} {cs : List BucketCall}

theorem mirrors_empty : Mirrors {} fun _ => none := by
  intro key slot
  simp [Postings.slots]

theorem Mirrors.insert (mirrors : Mirrors p filed) (f : Filing) {slot : Nat}
    (free : filed slot = none) :
    Mirrors (BucketCall.apply p (.insert f slot)) (BucketCall.note filed (.insert f slot)) := by
  intro key s
  rw [BucketCall.apply, BucketCall.note, Postings.mem_slots_fileAll, mirrors key s]
  by_cases here : s = slot
  · subst here
    simp [free]
  · simp [here]

theorem Mirrors.remove (mirrors : Mirrors p filed) {f f' : Filing} {slot : Nat}
    (here : filed slot = some f') (same : f.keys = f'.keys) :
    Mirrors (BucketCall.apply p (.remove f slot)) (BucketCall.note filed (.remove f slot)) := by
  intro key s
  rw [BucketCall.apply, BucketCall.note, Postings.mem_slots_withdrawAll, mirrors key s]
  by_cases at_ : s = slot
  · subst at_
    simp [here, same]
  · simp [at_]

/-! ## Runs of calls -/

/-- **Buckets stay in step with what is filed.** -/
theorem Mirrors.calls (mirrors : Mirrors p filed) (orderly : Orderly filed cs) :
    Mirrors (cs.foldl BucketCall.apply p) (filedAfter filed cs) := by
  induction orderly generalizing p with
  | done => exact mirrors
  | insert free _ ih => exact ih (mirrors.insert _ free)
  | remove here same _ ih => exact ih (mirrors.remove here same)

theorem stands_insert_iff {f g : Filing} {slot s : Nat} :
    Stands (.insert f slot :: cs) g s ↔
      (g = f ∧ s = slot ∧ ∀ h, .remove h s ∉ cs) ∨ Stands cs g s := by
  constructor
  · rintro ⟨before, after, whole, kept⟩
    cases before with
    | nil =>
        obtain ⟨⟨rfl, rfl⟩, rfl⟩ : (f = g ∧ slot = s) ∧ cs = after := by simpa using whole
        exact .inl ⟨rfl, rfl, kept⟩
    | cons c before =>
        obtain ⟨-, rfl⟩ := List.cons.inj whole
        exact .inr ⟨before, after, rfl, kept⟩
  · rintro (⟨rfl, rfl, kept⟩ | ⟨before, after, rfl, kept⟩)
    · exact ⟨[], cs, rfl, kept⟩
    · exact ⟨.insert f slot :: before, after, rfl, kept⟩

theorem stands_remove_iff {f g : Filing} {slot s : Nat} :
    Stands (.remove f slot :: cs) g s ↔ Stands cs g s := by
  constructor
  · rintro ⟨before, after, whole, kept⟩
    cases before with
    | nil => cases (List.cons.inj whole).1
    | cons c before =>
        obtain ⟨-, rfl⟩ := List.cons.inj whole
        exact ⟨before, after, rfl, kept⟩
  · rintro ⟨before, after, rfl, kept⟩
    exact ⟨.remove f slot :: before, after, rfl, kept⟩

/-- What is filed at the end is what has been inserted and not removed since, and what
was filed before and has not been removed. -/
theorem filedAfter_eq_some_iff (orderly : Orderly filed cs) {f : Filing} {slot : Nat} :
    filedAfter filed cs slot = some f ↔
      Stands cs f slot ∨ filed slot = some f ∧ ∀ g, .remove g slot ∉ cs := by
  induction orderly with
  | done => simp [filedAfter, Stands]
  | @insert filed f' slot' cs free _ ih =>
      rw [filedAfter, List.foldl_cons, ← filedAfter, ih, stands_insert_iff, BucketCall.note]
      by_cases here : slot = slot'
      · subst here
        simp only [Function.update_self, free, Option.some.injEq, List.mem_cons, reduceCtorEq,
          false_or, false_and, or_false, eq_comm (a := f'), true_and]
        exact or_comm
      · simp [here]
  | @remove filed f' _ slot' cs _ _ _ ih =>
      rw [filedAfter, List.foldl_cons, ← filedAfter, ih, stands_remove_iff, BucketCall.note]
      by_cases here : slot = slot'
      · subst here
        have gone : ¬∀ g, BucketCall.remove g slot ∉ .remove f' slot :: cs := fun kept =>
          kept f' List.mem_cons_self
        simp only [gone, Function.update_self, reduceCtorEq, false_and, and_false]
      · simp [here]

/-- **A lookup collects exactly what it asks for.** It reads a key of an edge when the
scope admits the edge's provenance and each of the three lists is empty or shares a type
with the edge's, up to case; and after calls in order it collects, ascending and each
once, the slots inserted for such edges and not removed since. -/
theorem collect_exact (r : Request) :
    (∀ f : Filing, (∃ key ∈ r.keys, key ∈ f.keys) ↔ r.Meets f) ∧
      ∀ cs, Orderly (fun _ => none) cs →
        ((bucketsAfter cs).collect r.keys).Pairwise (· < ·) ∧
          ∀ slot, slot ∈ (bucketsAfter cs).collect r.keys ↔ ∃ f, Stands cs f slot ∧ r.Meets f := by
  refine ⟨r.exists_key_iff, fun cs orderly => ⟨Postings.pairwise_collect _ _, fun slot => ?_⟩⟩
  have mirrors := mirrors_empty.calls orderly
  rw [Postings.mem_collect]
  constructor
  · rintro ⟨key, read, listed⟩
    obtain ⟨f, here, filedUnder⟩ := (mirrors key slot).mp listed
    rcases (filedAfter_eq_some_iff orderly).mp here with stands | ⟨before, -⟩
    · exact ⟨f, stands, (r.exists_key_iff f).mp ⟨key, read, filedUnder⟩⟩
    · cases before
  · rintro ⟨f, stands, meets⟩
    obtain ⟨key, read, filedUnder⟩ := (r.exists_key_iff f).mpr meets
    have here := (filedAfter_eq_some_iff orderly).mpr (.inl stands)
    exact ⟨key, read, (mirrors key slot).mpr ⟨f, here, filedUnder⟩⟩

/-- A slot is removed in another spelling of its keys and filed for another edge; types
come again, and not side by side. -/
def refilings : List BucketCall :=
  [.insert ⟨["Host", "a", "HOST"], ["knows"], [], .asserted⟩ 1,
    .insert ⟨["a"], ["Likes", "b", "likes"], ["c"], .derived⟩ 0,
    .remove ⟨["HOST", "A", "Host"], ["KNOWS"], [], .asserted⟩ 1,
    .insert ⟨["host"], ["likes", "likes"], [], .asserted⟩ 1,
    .insert ⟨["a"], ["likes"], ["c"], .asserted⟩ 2,
    .remove ⟨["a"], ["likes"], ["c"], .asserted⟩ 2]

theorem collect_exact_refilings :
    Orderly (fun _ => none) refilings ∧
      (∀ slot, slot ∈ (bucketsAfter refilings).collect
          (Request.keys ⟨["HOST", "a"], ["likes", "B"], [], .all⟩) ↔
        ∃ f, Stands refilings f slot ∧ Request.Meets ⟨["HOST", "a"], ["likes", "B"], [], .all⟩ f) ∧
      (bucketsAfter refilings).collect (Request.keys ⟨["HOST", "a"], ["likes", "B"], [], .all⟩) =
        [0, 1] ∧
      (bucketsAfter refilings).collect (Request.keys ⟨[], ["LIKES"], ["c"], .asserted⟩) = [] := by
  have orderly : Orderly (fun _ => none) refilings :=
    .insert rfl (.insert rfl (.remove rfl (by decide +kernel) (.insert rfl (.insert rfl
      (.remove rfl rfl .done)))))
  exact ⟨orderly, ((collect_exact _).2 refilings orderly).2, by decide +kernel, by decide +kernel⟩

end Trellis.Graph
