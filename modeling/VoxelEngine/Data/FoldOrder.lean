import Mathlib.Data.List.Perm.Basic
import Mathlib.Logic.Function.Basic

/-!
# Folds over entries in any order

A fold over the entries of an unordered container visits them in some order.  Its result is the
same in every order exactly if entries that are visited one right after the other can change
places, provided that no entry makes different values equal.
-/

namespace VoxelEngine.Data

universe u v

variable {σ : Type u} {α : Type v} {step : σ → α → σ} {start : σ} {elements : List α}

/-- Elements that are visited one right after the other can change places. -/
def Exchangeable (step : σ → α → σ) (start : σ) (elements : List α) : Prop :=
  ∀ before first second after, (before ++ first :: second :: after).Perm elements →
    step (step (before.foldl step start) first) second =
      step (step (before.foldl step start) second) first

theorem foldl_injective (injective : ∀ value, Function.Injective fun state => step state value)
    (values : List α) : Function.Injective fun state => values.foldl step state := by
  induction values with
  | nil => exact fun _ _ equal => equal
  | cons first rest ih =>
      intro left right equal
      exact injective first (ih equal)

/-- Behind what was visited before, two orders of the same elements give the same result. -/
theorem foldl_append_eq_of_perm (exchangeable : Exchangeable step start elements)
    {first second : List α} (perm : first.Perm second) (before : List α)
    (whole : (before ++ first).Perm elements) :
    (before ++ first).foldl step start = (before ++ second).foldl step start := by
  induction perm generalizing before with
  | nil => rfl
  | @cons value first second _ ih =>
      have later := ih (before ++ [value])
      rw [List.append_assoc, List.append_assoc] at later
      exact later whole
  | swap first second after =>
      rw [List.foldl_append, List.foldl_append]
      exact congrArg (fun state => after.foldl step state)
        (exchangeable before second first after whole)
  | trans firstPerm _ firstIh secondIh =>
      rw [firstIh before whole]
      exact secondIh before ((firstPerm.symm.append_left before).trans whole)

/-- The order does not matter if and only if neighbours can change places. -/
theorem foldl_eq_of_perm_iff
    (injective : ∀ value, Function.Injective fun state => step state value) :
    (∀ other : List α, other.Perm elements →
        other.foldl step start = elements.foldl step start) ↔
      Exchangeable step start elements := by
  constructor
  · intro same before first second after perm
    have swapped : (before ++ second :: first :: after).Perm elements :=
      ((List.Perm.swap first second after).append_left before).trans perm
    have equal := (same _ perm).trans (same _ swapped).symm
    rw [List.foldl_append, List.foldl_append] at equal
    exact foldl_injective injective after equal
  · intro exchangeable other perm
    exact (foldl_append_eq_of_perm exchangeable perm.symm [] (List.Perm.refl elements)).symm

end VoxelEngine.Data
