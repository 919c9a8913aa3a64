import Mathlib.Data.List.Range
import VoxelEngine.Data.Holdings
import VoxelEngine.Utility.StackPolymorph

/-!
# What stack polymorphs own

What the polymorphs of a program own can be told without their storage: a polymorph has been given
nothing yet, something that is gone again, or a value.  Whatever is done to the polymorphs, every
value that was stored is either held once, or was destroyed once.
-/

namespace VoxelEngine.Utility

open VoxelEngine.Data
open VoxelEngine.Transition

/-- What the polymorphs that are alive have been given, and what was destroyed. -/
structure Owners (α : Type) where
  owner : α → Option Owner
  stored : Nat
  destroyed : List Nat

namespace Owners

variable {α : Type}

/-- There is no polymorph. -/
def start : Owners α :=
  ⟨fun _ => none, 0, []⟩

/-- The value that is held at an address. -/
def value (owners : Owners α) (address : α) : Option Nat :=
  (owners.owner address).bind Owner.value

theorem value_eq_comp (owners : Owners α) :
    owners.value = (fun entry => entry.bind Owner.value) ∘ owners.owner :=
  rfl

/-- The values that were stored are those that are held and those that were destroyed. -/
def Balanced (owners : Owners α) : Prop :=
  ∃ held, Holds owners.value held ∧
    (held ++ owners.destroyed).Perm (List.range owners.stored)

theorem balanced_start : (start : Owners α).Balanced :=
  ⟨[], Holds.empty, List.Perm.refl _⟩

/-- Once there are no polymorphs any more, every value was destroyed once. -/
theorem Balanced.count_destroyed {owners : Owners α} (balanced : owners.Balanced)
    (none_alive : ∀ address, owners.owner address = none) :
    ∀ value < owners.stored, owners.destroyed.count value = 1 := by
  rcases balanced with ⟨held, holds, balance⟩
  have nothing : held = [] := by
    apply holds.eq_nil
    intro address
    rw [value, none_alive]
    rfl
  rw [nothing, List.nil_append] at balance
  intro value stored
  rw [balance.count_eq]
  exact List.count_eq_one_of_mem List.nodup_range (List.mem_range.mpr stored)

variable [DecidableEq α]

/-- Destroy what is held at an address, and replace the owner. -/
def discard (owners : Owners α) (address : α) (entry : Option Owner) : Owners α :=
  { owners with
    owner := Function.update owners.owner address entry
    destroyed := owners.destroyed ++ (owners.value address).toList }

/-- Store a new value at an address. -/
def store (owners : Owners α) (address : α) : Owners α :=
  { owners with
    owner := Function.update owners.owner address (some (.holding owners.stored))
    stored := owners.stored + 1 }

/-- Give what the source was given to the target. -/
def move (owners : Owners α) (target source : α) (given : Owner) : Owners α :=
  { owners with
    owner := Function.update (Function.update owners.owner target (some given)) source
      (some given.cleared)
    destroyed := owners.destroyed ++ (owners.value target).toList }

/-- One action. -/
def step {τ : Type} : Step (Owners α) (PolymorphAction α τ)
  | owners, .defaultConstruct address =>
      match owners.owner address with
      | none => some (owners.discard address (some .fresh))
      | some _ => none
  | owners, .construct address _ =>
      match owners.owner address with
      | none => some (owners.store address)
      | some _ => none
  | owners, .assign address _ =>
      match owners.owner address with
      | some _ => some ((owners.discard address (some .empty)).store address)
      | none => none
  | owners, .moveConstruct target source =>
      match owners.owner target, owners.owner source with
      | none, some given => some (owners.move target source given)
      | _, _ => none
  | owners, .moveAssign target source =>
      match owners.owner target, owners.owner source with
      | some _, some given => some (owners.move target source given)
      | _, _ => none
  | owners, .deleteValue address =>
      match owners.owner address with
      | some old => some (owners.discard address (some old.cleared))
      | none => none
  | owners, .destroy address =>
      match owners.owner address with
      | some _ => some (owners.discard address none)
      | none => none

/-- What is moved from has been given something since its construction, and what is moved to itself
holds no value. -/
def MoveAllowed {τ : Type} (owners : Owners α) : PolymorphAction α τ → Prop
  | .moveConstruct target source =>
      owners.owner target = none → owners.owner source ≠ some .fresh
  | .moveAssign target source =>
      (owners.owner target).isSome = true →
        owners.owner source ≠ some .fresh ∧ (target = source → owners.value source = none)
  | _ => True

/-! ## The balance of the values -/

section Balance

variable {owners : Owners α} {address : α}

@[simp]
theorem value_update (owner : α → Option Owner) (stored : Nat) (destroyed : List Nat) (address : α)
    (entry : Option Owner) :
    (⟨Function.update owner address entry, stored, destroyed⟩ : Owners α).value =
      Function.update (⟨owner, stored, destroyed⟩ : Owners α).value address
        (entry.bind Owner.value) := by
  rw [value_eq_comp, value_eq_comp]
  exact Function.comp_update _ _ _ _

theorem value_move {target source : α} {given : Owner} (owners : Owners α) :
    (owners.move target source given).value =
      Function.update (Function.update owners.value target given.value) source none := by
  rw [Owners.move, value_update, value_update, Option.bind_some, Option.bind_some,
    Owner.value_cleared]
  rfl

/-- What is destroyed is not held any more. -/
theorem perm_of_destroyed {held kept gone : List Nat} {destroyed all : List Nat}
    (split : held.Perm (gone ++ kept)) (balance : (held ++ destroyed).Perm all) :
    (kept ++ (destroyed ++ gone)).Perm all := by
  calc
    List.Perm (kept ++ (destroyed ++ gone)) (gone ++ kept ++ destroyed) := by
      rw [← List.append_assoc, List.append_assoc gone]
      exact List.perm_append_comm
    List.Perm _ (held ++ destroyed) := split.symm.append_right destroyed
    List.Perm _ all := balance

theorem Balanced.discard (balanced : owners.Balanced) {entry : Option Owner}
    (nothing : entry.bind Owner.value = none) : (owners.discard address entry).Balanced := by
  rcases balanced with ⟨held, holds, balance⟩
  rcases holds.clear address with ⟨kept, cleared, split⟩
  refine ⟨kept, ?_, perm_of_destroyed split balance⟩
  rw [Owners.discard, value_update, nothing]
  exact cleared

theorem Balanced.store (balanced : owners.Balanced) (vacant : owners.value address = none) :
    (owners.store address).Balanced := by
  rcases balanced with ⟨held, holds, balance⟩
  refine ⟨owners.stored :: held, ?_, ?_⟩
  · rw [Owners.store, value_update]
    exact holds.put vacant owners.stored
  · rw [Owners.store, List.range_succ, List.cons_append]
    exact (balance.cons owners.stored).trans (List.perm_append_singleton _ _).symm

theorem Balanced.move (balanced : owners.Balanced) {target source : α} {given : Owner}
    (found : owners.owner source = some given) : (owners.move target source given).Balanced := by
  rcases balanced with ⟨held, holds, balance⟩
  rcases holds.move source target with ⟨kept, moved, split⟩
  refine ⟨kept, ?_, perm_of_destroyed split balance⟩
  have given_eq : owners.value source = given.value := by
    rw [value, found]
    rfl
  rw [value_move, ← given_eq]
  exact moved

@[simp]
theorem value_discard_self (entry : Option Owner) :
    (owners.discard address entry).value address = entry.bind Owner.value := by
  rw [Owners.discard, value_update, Function.update_self]

theorem Balanced.step {τ : Type} {action : PolymorphAction α τ} {next : Owners α}
    (balanced : owners.Balanced) (stepEq : owners.step action = some next) : next.Balanced := by
  cases action with
  | defaultConstruct address =>
      cases found : owners.owner address with
      | none =>
          simp only [Owners.step, found, Option.some.injEq] at stepEq
          rw [← stepEq]
          exact balanced.discard rfl
      | some old => simp only [Owners.step, found, reduceCtorEq] at stepEq
  | construct address type =>
      cases found : owners.owner address with
      | none =>
          simp only [Owners.step, found, Option.some.injEq] at stepEq
          rw [← stepEq]
          apply balanced.store
          rw [value, found]
          rfl
      | some old => simp only [Owners.step, found, reduceCtorEq] at stepEq
  | assign address type =>
      cases found : owners.owner address with
      | none => simp only [Owners.step, found, reduceCtorEq] at stepEq
      | some old =>
          simp only [Owners.step, found, Option.some.injEq] at stepEq
          rw [← stepEq]
          apply (balanced.discard rfl).store
          rw [value_discard_self]
          rfl
  | moveConstruct target source =>
      cases targetEq : owners.owner target with
      | some old => simp only [Owners.step, targetEq, reduceCtorEq] at stepEq
      | none =>
          cases found : owners.owner source with
          | none => simp only [Owners.step, targetEq, found, reduceCtorEq] at stepEq
          | some given =>
              simp only [Owners.step, targetEq, found, Option.some.injEq] at stepEq
              rw [← stepEq]
              exact balanced.move found
  | moveAssign target source =>
      cases targetEq : owners.owner target with
      | none => simp only [Owners.step, targetEq, reduceCtorEq] at stepEq
      | some old =>
          cases found : owners.owner source with
          | none => simp only [Owners.step, targetEq, found, reduceCtorEq] at stepEq
          | some given =>
              simp only [Owners.step, targetEq, found, Option.some.injEq] at stepEq
              rw [← stepEq]
              exact balanced.move found
  | deleteValue address =>
      cases found : owners.owner address with
      | none => simp only [Owners.step, found, reduceCtorEq] at stepEq
      | some old =>
          simp only [Owners.step, found, Option.some.injEq] at stepEq
          rw [← stepEq]
          apply balanced.discard
          exact old.value_cleared
  | destroy address =>
      cases found : owners.owner address with
      | none => simp only [Owners.step, found, reduceCtorEq] at stepEq
      | some old =>
          simp only [Owners.step, found, Option.some.injEq] at stepEq
          rw [← stepEq]
          exact balanced.discard rfl

end Balance

end Owners

end VoxelEngine.Utility
