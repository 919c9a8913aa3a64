import Mathlib.Data.List.Nodup
import VoxelEngine.Data.Slots

/-!
# Sparse sets

A sparse set keeps identifiers in a packed array and finds them by their slot.  An identifier
that is put into an occupied slot hides the other one, which stays in the packed array.  The
operations are given by an interface with the laws that its users rely on, and one
implementation shows that the laws can be met.
-/

namespace VoxelEngine.Data

open Slotted (slot)

universe u v w

/-- The operations on sets of type `S`.  The entries are the packed array.  A set may be joined
with other storages, given by the identifiers that all of them have, and `walks` tells in which
orders a walk over such a join may look at the identifiers. -/
structure SparseSets (E : Type u) (S : Type v) where
  empty : S
  contains : S → E → Bool
  emplace : S → E → S
  entries : S → List E
  walks : S → (E → Bool) → List E → Bool

namespace SparseSets

variable {E : Type u} {S : Type v} {I : Type w} [Slotted E I]

/-- An identifier waits in the packed array, but its slot leads to another one. -/
def Hidden (sets : SparseSets E S) (set : S) (id : E) : Prop :=
  id ∈ sets.entries set ∧ sets.contains set id = false

instance [DecidableEq E] (sets : SparseSets E S) (set : S) (id : E) :
    Decidable (sets.Hidden set id) :=
  inferInstanceAs (Decidable (_ ∧ _))

/-- What the users of the sets rely on: only identifiers that are not contained are put into a
set, the other slots do not change by that, and there is a walk, which comes to each identifier
of the join once, if no identifier is stored twice and none that the storages have is hidden. -/
structure Lawful (sets : SparseSets E S) : Prop where
  entries_empty : sets.entries sets.empty = []
  mem_of_contains : ∀ set id, sets.contains set id = true → id ∈ sets.entries set
  entries_emplace : ∀ set id, sets.contains set id = false →
    (sets.entries (sets.emplace set id)).Perm (id :: sets.entries set)
  contains_emplace_self : ∀ set id, sets.contains set id = false →
    sets.contains (sets.emplace set id) id = true
  contains_emplace_of_slot_ne : ∀ set id other, sets.contains set id = false →
    slot other ≠ slot id →
      sets.contains (sets.emplace set id) other = sets.contains set other
  walk_exists : ∀ set joined, ∃ order, sets.walks set joined order = true
  walk_perm : ∀ set joined order, sets.walks set joined order = true →
    (sets.entries set).Nodup → (∀ id, joined id = true → ¬sets.Hidden set id) →
      (order.filter joined).Perm ((sets.entries set).filter joined)

end SparseSets

/-! ## An implementation -/

/-- The packed array, and the identifier to which each slot leads. -/
structure PackedSet (E : Type u) {I : Type w} [Slotted E I] where
  packed : List E
  sparse : I → Option E
  stored : ∀ index id, sparse index = some id → id ∈ packed

namespace PackedSet

variable {E : Type u} {I : Type w} [Slotted E I] [DecidableEq E] [DecidableEq I]

/-- Put an identifier at the end of the packed array. -/
def emplace (set : PackedSet E) (id : E) : PackedSet E where
  packed := set.packed ++ [id]
  sparse := Function.update set.sparse (slot id) (some id)
  stored index other leads := by
    rw [List.mem_append]
    by_cases same : index = slot id
    · rw [same, Function.update_self] at leads
      exact .inr (List.mem_singleton.mpr (Option.some.inj leads).symm)
    · rw [Function.update_of_ne same] at leads
      exact .inl (set.stored index other leads)

/-- The sets whose walks go through the packed array from its end. -/
def sets : SparseSets E (PackedSet E) where
  empty := ⟨[], fun _ => none, by simp⟩
  contains set id := set.sparse (slot id) = some id
  emplace := emplace
  entries := packed
  walks set _ order := order = set.packed.reverse

theorem lawful : (sets : SparseSets E (PackedSet E)).Lawful where
  entries_empty := rfl
  mem_of_contains set id contained := set.stored _ _ (of_decide_eq_true contained)
  entries_emplace set id _ := List.perm_append_comm
  contains_emplace_self set id _ := by
    simp [sets, emplace]
  contains_emplace_of_slot_ne set id other _ slot_ne := by
    simp only [sets, emplace, Function.update_of_ne slot_ne]
  walk_exists set joined := ⟨set.packed.reverse, decide_eq_true rfl⟩
  walk_perm set joined order walked _ _ := by
    rw [of_decide_eq_true walked]
    exact (List.reverse_perm set.packed).filter joined

end PackedSet

end VoxelEngine.Data
