import Mathlib.Logic.Function.Basic

/-!
# Storages with one identifier per slot

Identifiers live in slots, and several identifiers may share one (an index that is
reused with a new version number, say).  A slot storage holds values for
identifiers but at most one identifier per slot: storing a value for an identifier
displaces whatever other identifier occupied its slot.
-/

namespace VoxelEngine.Data

universe u v w

/-- Identifiers together with the slot each of them occupies. -/
class Slotted (E : Type u) (I : outParam (Type v)) where
  slot : E → I

open Slotted (slot)

/-- Values of type `V` for identifiers of type `E`, at most one per slot.  Every
occupied slot holds an identifier that belongs there. -/
structure SlotStorage (E : Type u) {I : Type v} [Slotted E I] (V : Type w) where
  occupant : I → Option (E × V)
  belongs : ∀ index entry, occupant index = some entry → slot entry.1 = index

namespace SlotStorage

variable {E : Type u} {I : Type v} {V : Type w} [Slotted E I] [DecidableEq E] [DecidableEq I]

/-- The storage in which every slot is free. -/
def empty : SlotStorage E V where
  occupant _ := none
  belongs := by simp

/-- The value stored for exactly this identifier. -/
def get? (storage : SlotStorage E V) (id : E) : Option V :=
  match storage.occupant (slot id) with
  | some entry => if entry.1 = id then some entry.2 else none
  | none => none

/-- Is a value stored for exactly this identifier? -/
def contains (storage : SlotStorage E V) (id : E) : Bool :=
  (storage.get? id).isSome

/-- Store a value, displacing any other identifier in the same slot. -/
def emplace (storage : SlotStorage E V) (id : E) (value : V) : SlotStorage E V where
  occupant := Function.update storage.occupant (slot id) (some (id, value))
  belongs index entry stored := by
    by_cases index_eq : index = slot id
    · subst index_eq
      rw [Function.update_self] at stored
      cases stored
      rfl
    · rw [Function.update_of_ne index_eq] at stored
      exact storage.belongs index entry stored

/-- Free the slot of an identifier, provided it is that identifier which holds it. -/
def erase (storage : SlotStorage E V) (id : E) : SlotStorage E V where
  occupant :=
    if storage.contains id then Function.update storage.occupant (slot id) none
    else storage.occupant
  belongs index entry stored := by
    by_cases present : storage.contains id
    · rw [if_pos present] at stored
      by_cases index_eq : index = slot id
      · subst index_eq
        rw [Function.update_self] at stored
        cases stored
      · rw [Function.update_of_ne index_eq] at stored
        exact storage.belongs index entry stored
    · rw [if_neg present] at stored
      exact storage.belongs index entry stored

omit [DecidableEq I] in
@[simp]
theorem get?_empty (id : E) : (empty : SlotStorage E V).get? id = none :=
  rfl

omit [DecidableEq I] in
theorem get?_eq_some_iff (storage : SlotStorage E V) (id : E) (value : V) :
    storage.get? id = some value ↔ storage.occupant (slot id) = some (id, value) := by
  unfold get?
  cases occupied : storage.occupant (slot id) with
  | none => simp
  | some entry =>
      rcases entry with ⟨owner, stored⟩
      by_cases owner_eq : owner = id
      · simp [owner_eq]
      · simp [owner_eq]

@[simp]
theorem get?_emplace_self (storage : SlotStorage E V) (id : E) (value : V) :
    (storage.emplace id value).get? id = some value := by
  simp [get?_eq_some_iff, emplace]

/-- Another identifier of the slot that is stored into is displaced. -/
theorem get?_emplace_of_slot_eq (storage : SlotStorage E V) {id other : E} (value : V)
    (ne : other ≠ id) (slot_eq : slot other = slot id) :
    (storage.emplace id value).get? other = none := by
  simp [get?, emplace, slot_eq, ne.symm]

theorem get?_emplace_of_slot_ne (storage : SlotStorage E V) {id other : E} (value : V)
    (slot_ne : slot other ≠ slot id) :
    (storage.emplace id value).get? other = storage.get? other := by
  simp [get?, emplace, Function.update_of_ne slot_ne]

@[simp]
theorem get?_erase (storage : SlotStorage E V) (id other : E) :
    (storage.erase id).get? other = if other = id then none else storage.get? other := by
  by_cases present : storage.contains id
  · obtain ⟨value, stored⟩ := Option.isSome_iff_exists.mp present
    have occupied := (storage.get?_eq_some_iff id value).mp stored
    by_cases slot_eq : slot other = slot id
    · by_cases other_eq : other = id
      · simp [get?, erase, present, other_eq]
      · simp [get?, erase, present, slot_eq, other_eq, occupied, Ne.symm other_eq]
    · have other_ne : other ≠ id := fun equal => slot_eq (congrArg slot equal)
      simp [get?, erase, present, Function.update_of_ne slot_eq, other_ne]
  · by_cases other_eq : other = id
    · subst other_eq
      have absent : storage.get? other = none := by simpa [contains] using present
      simpa [get?, erase, present] using absent
    · simp [get?, erase, present, other_eq]

/-- Free the slots of several identifiers. -/
def eraseAll (storage : SlotStorage E V) (ids : List E) : SlotStorage E V :=
  ids.foldl erase storage

@[simp]
theorem get?_eraseAll (storage : SlotStorage E V) (ids : List E) (other : E) :
    (storage.eraseAll ids).get? other =
      if other ∈ ids then none else storage.get? other := by
  induction ids generalizing storage with
  | nil => simp [eraseAll]
  | cons id rest ih =>
      have step := ih (storage.erase id)
      rw [eraseAll, List.foldl_cons]
      rw [eraseAll] at step
      rw [step, get?_erase]
      by_cases other_eq : other = id
      · simp [other_eq]
      · simp [other_eq]

end SlotStorage

end VoxelEngine.Data
