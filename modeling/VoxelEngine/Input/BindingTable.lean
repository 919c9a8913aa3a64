import VoxelEngine.Data.SlotVector
import VoxelEngine.Transition.Run

/-!
# Bindings and their handles

The functions bound to a name are kept in a vector, and a handle names a position of it.
Removing a binding empties its position, but removing all bindings of a name cuts the vector off,
so that its positions are handed out again while older handles still name them.
-/

namespace VoxelEngine.Input

open VoxelEngine.Data VoxelEngine.Data.SlotVector VoxelEngine.Transition

/-- `input_binder::binding_handle` -/
structure BindingHandle where
  key : String
  index : Nat

/-- `input_binder::bindings`.  A slot whose function is null is empty. -/
abbrev BindingTable (B : Type) :=
  String → Option (List (Option B))

namespace BindingTable

variable {B : Type} (bindings : BindingTable B)

/-- A binder without bindings. -/
def empty : BindingTable B :=
  fun _ => none

/-- The vector of a name, without making one. -/
def slots (name : String) : List (Option B) :=
  (bindings name).getD []

/-- The functions that are invoked for a name. -/
def bound (name : String) : List B :=
  occupants (bindings.slots name)

/-- `input_binder::add_binding` -/
def addBinding (name : String) (binding : B) : BindingTable B × BindingHandle :=
  let slots := bindings.slots name ++ [some binding]
  (Function.update bindings name (some slots), ⟨name, slots.length - 1⟩)

/-- `input_binder::remove_binding`.  Both calls of `at` throw if there is nothing. -/
def removeBinding (handle : BindingHandle) : Option (BindingTable B) :=
  match bindings handle.key with
  | some slots =>
      if handle.index < slots.length then
        some (Function.update bindings handle.key (some (vacate slots handle.index)))
      else none
  | none => none

/-- `input_binder::remove_bindings` -/
def removeBindings (name : String) : BindingTable B :=
  match bindings name with
  | some _ => Function.update bindings name (some [])
  | none => bindings

/-- The slot that a handle names. -/
def slotAt (handle : BindingHandle) : Option (Option B) :=
  (bindings.slots handle.key)[handle.index]?

variable {bindings}

theorem slots_addBinding (name other : String) (binding : B) :
    (bindings.addBinding name binding).1.slots other =
      if other = name then bindings.slots name ++ [some binding] else bindings.slots other := by
  by_cases same : other = name
  · simp [same, slots, addBinding]
  · simp [same, slots, addBinding]

theorem slots_removeBindings (name other : String) :
    (bindings.removeBindings name).slots other =
      if other = name then [] else bindings.slots other := by
  by_cases same : other = name
  · rw [if_pos same, same, slots, removeBindings]
    cases present : bindings name with
    | some old => simp
    | none => simp [present]
  · rw [if_neg same, slots, removeBindings]
    cases bindings name with
    | some old => simp [same, slots]
    | none => rfl

/-- Removing a binding does not throw if and only if the handle names a slot. -/
theorem isSome_removeBinding_iff (handle : BindingHandle) :
    (bindings.removeBinding handle).isSome = true ↔
      handle.index < (bindings.slots handle.key).length := by
  rw [removeBinding, slots]
  cases bindings handle.key with
  | none => simp
  | some old =>
      by_cases inside : handle.index < old.length
      · simp [inside]
      · simp [inside]

/-- Removing a binding empties the slot that the handle names, and nothing else. -/
theorem slots_removeBinding {handle : BindingHandle} {removed : BindingTable B}
    (removeEq : bindings.removeBinding handle = some removed) (other : String) :
    removed.slots other =
      if other = handle.key then vacate (bindings.slots handle.key) handle.index
      else bindings.slots other := by
  rw [removeBinding] at removeEq
  cases present : bindings handle.key with
  | none =>
      rw [present] at removeEq
      cases removeEq
  | some old =>
      rw [present] at removeEq
      by_cases inside : handle.index < old.length
      · simp only [inside, if_true, Option.some.injEq] at removeEq
        by_cases same : other = handle.key
        · rw [if_pos same, same, ← removeEq, slots, Function.update_self, slots, present]
          rfl
        · rw [if_neg same, ← removeEq, slots, Function.update_of_ne same, slots]
      · simp only [inside, if_false] at removeEq
        cases removeEq

end BindingTable

end VoxelEngine.Input
