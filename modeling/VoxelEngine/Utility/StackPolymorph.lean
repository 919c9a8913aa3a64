import Mathlib.Logic.Function.Basic
import VoxelEngine.Transition.Run

/-!
# Stack polymorphs

A stack polymorph holds a value of some derived type, in its buffer if the type is small enough,
and behind a pointer otherwise.  The buffer and the pointer share their storage, and which of them
is in use, whether there is a value, and how it is moved is stored separately.
-/

namespace VoxelEngine.Utility

open VoxelEngine.Transition

/-- An object of a derived type, with its value unless this was moved out. -/
structure DerivedObject (τ : Type) where
  type : τ
  value : Option Nat

/-- The storage of a polymorph, as it was written last. -/
inductive Storage (τ : Type) where
  | uninitialized
  | localObject (object : DerivedObject τ)
  | remote (object : DerivedObject τ)

/-- `stack_polymorph`.  The mover is the one for some derived type, once it is set. -/
structure StackPolymorph (τ : Type) where
  isLocal : Bool
  hasValue : Bool
  storage : Storage τ
  moveValue : Option τ

namespace StackPolymorph

variable {τ : Type}

/-- `stack_polymorph::stack_polymorph()` -/
def null : StackPolymorph τ :=
  ⟨false, false, .uninitialized, none⟩

/-- `stack_polymorph::get` -/
def get (polymorph : StackPolymorph τ) : Option (DerivedObject τ) :=
  if polymorph.hasValue then
    match polymorph.isLocal, polymorph.storage with
    | true, .localObject object => some object
    | false, .remote object => some object
    | _, _ => none
  else none

/-- The value that is held. -/
def value (polymorph : StackPolymorph τ) : Option Nat :=
  polymorph.get.bind DerivedObject.value

end StackPolymorph

/-- What is done to polymorphs. -/
inductive PolymorphAction (α τ : Type) where
  | defaultConstruct (address : α)
  | construct (address : α) (type : τ)
  | assign (address : α) (type : τ)
  | moveConstruct (target source : α)
  | moveAssign (target source : α)
  | deleteValue (address : α)
  | destroy (address : α)

/-- The polymorphs that are alive, by their addresses.  Values are numbered as they are stored, and
those that were destroyed are listed. -/
structure Polymorphs (α τ : Type) where
  polymorphs : α → Option (StackPolymorph τ)
  stored : Nat
  destroyed : List Nat

namespace Polymorphs

variable {α τ : Type}

/-- There is no polymorph. -/
def start : Polymorphs α τ :=
  ⟨fun _ => none, 0, []⟩

/-- The value that is held at an address. -/
def value (state : Polymorphs α τ) (address : α) : Option Nat :=
  (state.polymorphs address).bind StackPolymorph.value

variable [DecidableEq α] (canContainLocally : τ → Bool)

/-- Write a polymorph. -/
def write (state : Polymorphs α τ) (address : α) (polymorph : Option (StackPolymorph τ)) :
    Polymorphs α τ :=
  { state with polymorphs := Function.update state.polymorphs address polymorph }

/-- `stack_polymorph::delete_value`.  It is undefined if the storage is not as the flag says. -/
def deleteValue (state : Polymorphs α τ) (address : α) : Option (Polymorphs α τ) := do
  let polymorph ← state.polymorphs address
  if polymorph.hasValue then
    let object ← polymorph.get
    let cleared := state.write address (some { polymorph with hasValue := false })
    return { cleared with destroyed := cleared.destroyed ++ object.value.toList }
  else return state

/-- `stack_polymorph::operator=(Derived&&)` -/
def assign (state : Polymorphs α τ) (address : α) (type : τ) : Option (Polymorphs α τ) := do
  let cleared ← state.deleteValue address
  let object : DerivedObject τ := ⟨type, some cleared.stored⟩
  let filled := cleared.write address (some
    { hasValue := true
      moveValue := some type
      storage := if canContainLocally type then .localObject object else .remote object
      isLocal := canContainLocally type })
  return { filled with stored := filled.stored + 1 }

/-- The function that `stack_polymorph::make_mover` returns for a type.  What is moved may be what
it is moved to. -/
def mover (type : τ) (state : Polymorphs α τ) (source target : α) : Option (Polymorphs α τ) := do
  let cleared ← state.deleteValue target
  let moved ← cleared.polymorphs source
  let emptied ← cleared.polymorphs target
  let begun := cleared.write target (some { emptied with moveValue := moved.moveValue })
  if moved.hasValue then
    match canContainLocally type, moved.storage with
    | true, .localObject object =>
        let filled := begun.write target (some
          { moveValue := moved.moveValue
            storage := .localObject object
            isLocal := moved.isLocal
            hasValue := moved.hasValue })
        let husk := filled.write source (some
          { moved with storage := .localObject { object with value := none } })
        husk.deleteValue source
    | false, .remote object =>
        let filled := begun.write target (some
          { moveValue := moved.moveValue
            storage := .remote object
            isLocal := moved.isLocal
            hasValue := moved.hasValue })
        return filled.write source (some { moved with hasValue := false })
    | _, _ => none
  else return begun

/-- Call the mover of the source.  It is undefined if the mover is not set. -/
def move (state : Polymorphs α τ) (source target : α) : Option (Polymorphs α τ) := do
  let moved ← state.polymorphs source
  let type ← moved.moveValue
  mover canContainLocally type state source target

/-- `stack_polymorph::~stack_polymorph` -/
def destroy (state : Polymorphs α τ) (address : α) : Option (Polymorphs α τ) :=
  (state.deleteValue address).map fun cleared => cleared.write address none

/-- One action.  There is no next state if it is not possible, or undefined. -/
def step : Step (Polymorphs α τ) (PolymorphAction α τ)
  | state, .defaultConstruct address =>
      if (state.polymorphs address).isSome then none
      else some (state.write address (some StackPolymorph.null))
  | state, .construct address type =>
      if (state.polymorphs address).isSome then none
      else (state.write address (some StackPolymorph.null)).assign canContainLocally address type
  | state, .assign address type => state.assign canContainLocally address type
  | state, .moveConstruct target source =>
      if (state.polymorphs target).isSome then none
      else (state.write target (some StackPolymorph.null)).move canContainLocally source target
  | state, .moveAssign target source =>
      if (state.polymorphs target).isSome then state.move canContainLocally source target
      else none
  | state, .deleteValue address => state.deleteValue address
  | state, .destroy address => state.destroy address

end Polymorphs

/-! ## What a polymorph is to its owner -/

/-- What a polymorph has been given: nothing yet, something that is gone again, or a value. -/
inductive Owner where
  | fresh
  | empty
  | holding (value : Nat)

namespace Owner

/-- The value that is held. -/
def value : Owner → Option Nat
  | .holding value => some value
  | _ => none

/-- Without its value. -/
def cleared : Owner → Owner
  | .fresh => .fresh
  | _ => .empty

@[simp]
theorem value_cleared (owner : Owner) : owner.cleared.value = none := by
  cases owner <;> rfl

end Owner

namespace StackPolymorph

variable {τ : Type} {canContainLocally : τ → Bool} {polymorph : StackPolymorph τ}

/-- What the polymorph has been given, as its fields tell. -/
def owner (polymorph : StackPolymorph τ) : Owner :=
  match polymorph.value with
  | some value => .holding value
  | none => if polymorph.moveValue.isSome then .empty else .fresh

/-- A polymorph with a value stores an object of the type that its mover is for, in the place for
objects of this type. -/
def Formed (canContainLocally : τ → Bool) (polymorph : StackPolymorph τ) : Prop :=
  polymorph.hasValue = true →
    ∃ type value, polymorph.moveValue = some type ∧
      polymorph.isLocal = canContainLocally type ∧
      polymorph.storage = if canContainLocally type then .localObject ⟨type, some value⟩
        else .remote ⟨type, some value⟩

theorem eq_of_fields {isLocal hasValue : Bool} {storage : Storage τ} {moveValue : Option τ}
    (isLocalEq : polymorph.isLocal = isLocal) (hasValueEq : polymorph.hasValue = hasValue)
    (storageEq : polymorph.storage = storage) (moveValueEq : polymorph.moveValue = moveValue) :
    polymorph = ⟨isLocal, hasValue, storage, moveValue⟩ := by
  subst isLocalEq hasValueEq storageEq moveValueEq
  rfl

@[simp]
theorem formed_null : (null : StackPolymorph τ).Formed canContainLocally := by
  rintro ⟨⟩

theorem formed_of_not_hasValue (empty : polymorph.hasValue = false) :
    polymorph.Formed canContainLocally := by
  intro hasValue
  rw [empty] at hasValue
  cases hasValue

theorem value_of_not_hasValue (empty : polymorph.hasValue = false) : polymorph.value = none := by
  rw [value, get, empty, if_neg Bool.false_ne_true]
  rfl

theorem owner_of_not_hasValue (empty : polymorph.hasValue = false) :
    polymorph.owner = if polymorph.moveValue.isSome then .empty else .fresh := by
  rw [owner, value_of_not_hasValue empty]

/-- The object is found where the flag says. -/
theorem get_of_storage {type : τ} {object : DerivedObject τ} (hasValue : polymorph.hasValue = true)
    (isLocal : polymorph.isLocal = canContainLocally type)
    (storage : polymorph.storage = if canContainLocally type then .localObject object
      else .remote object) :
    polymorph.get = some object := by
  rw [get, hasValue, isLocal, storage]
  cases canContainLocally type <;> rfl

theorem Formed.get_eq (formed : polymorph.Formed canContainLocally)
    (hasValue : polymorph.hasValue = true) :
    ∃ type value, polymorph.moveValue = some type ∧ polymorph.get = some ⟨type, some value⟩ ∧
      polymorph.value = some value := by
  rcases formed hasValue with ⟨type, value, mover, isLocal, storage⟩
  have found := get_of_storage hasValue isLocal storage
  refine ⟨type, value, mover, found, ?_⟩
  rw [StackPolymorph.value, found]
  rfl

@[simp]
theorem value_owner (polymorph : StackPolymorph τ) : polymorph.owner.value = polymorph.value := by
  rw [owner]
  cases polymorph.value with
  | some value => rfl
  | none =>
      cases polymorph.moveValue with
      | some type => rfl
      | none => rfl

theorem owner_of_get {object : DerivedObject τ} {value : Nat} (found : polymorph.get = some object)
    (held : object.value = some value) : polymorph.owner = .holding value := by
  rw [owner, StackPolymorph.value, found, Option.bind_some, held]

theorem owner_eq_empty {type : τ} (empty : polymorph.hasValue = false)
    (mover : polymorph.moveValue = some type) : polymorph.owner = .empty := by
  rw [owner_of_not_hasValue empty, mover]
  rfl

/-- Only a polymorph whose mover is not set has been given nothing. -/
theorem Formed.owner_eq_fresh_iff (formed : polymorph.Formed canContainLocally) :
    polymorph.owner = .fresh ↔ polymorph.moveValue = none := by
  cases hasValue : polymorph.hasValue with
  | true =>
      rcases formed.get_eq hasValue with ⟨type, value, mover, _, valueEq⟩
      rw [owner, valueEq, mover]
      apply iff_of_false
      · rintro ⟨⟩
      · rintro ⟨⟩
  | false =>
      rw [owner_of_not_hasValue hasValue]
      cases polymorph.moveValue with
      | some type =>
          apply iff_of_false
          · rintro ⟨⟩
          · rintro ⟨⟩
      | none => exact iff_of_true rfl rfl

theorem Formed.owner_cleared (formed : polymorph.Formed canContainLocally) :
    ({ polymorph with hasValue := false } : StackPolymorph τ).owner = polymorph.owner.cleared := by
  have without := @owner_of_not_hasValue τ { polymorph with hasValue := false } rfl
  cases hasValue : polymorph.hasValue with
  | true =>
      rcases formed.get_eq hasValue with ⟨type, value, mover, _, valueEq⟩
      rw [without, owner, valueEq]
      simp only [mover]
      rfl
  | false =>
      rw [without, owner_of_not_hasValue hasValue]
      cases polymorph.moveValue with
      | some type => rfl
      | none => rfl

end StackPolymorph

end VoxelEngine.Utility
