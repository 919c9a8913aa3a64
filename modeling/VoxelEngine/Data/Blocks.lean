import Mathlib.Data.List.Basic

/-!
# Lists made of blocks

A list that consists of one block after the other, where all blocks have the same length.
-/

namespace VoxelEngine.Data

universe u v

variable {α : Type u} {β : Type v}

/-- Blocks of equal length, one after the other, are numbered without gaps. -/
theorem flatMap_range (blocks size : Nat) :
    ((List.range blocks).flatMap fun block => (List.range size).map fun i => block * size + i) =
      List.range (blocks * size) := by
  induction blocks with
  | zero => rw [Nat.zero_mul, List.range_zero, List.flatMap_nil]
  | succ blocks ih =>
      rw [List.range_succ, List.flatMap_append, ih, List.flatMap_singleton, Nat.succ_mul,
        List.range_add]

/-- Where all blocks have one length, an element is found in its block. -/
theorem getElem?_flatMap_of_length {block : α → List β} {size : Nat}
    (length_eq : ∀ element, (block element).length = size) (elements : List α) (number : Nat)
    {offset : Nat} (inBlock : offset < size) :
    (elements.flatMap block)[size * number + offset]? =
      elements[number]?.bind fun element => (block element)[offset]? := by
  induction elements generalizing number with
  | nil => rfl
  | cons element rest ih =>
      rw [List.flatMap_cons]
      cases number with
      | zero =>
          rw [Nat.mul_zero, Nat.zero_add, List.getElem?_append_left]
          · rfl
          · rw [length_eq]
            exact inBlock
      | succ number =>
          rw [List.getElem?_append_right]
          · rw [length_eq, List.getElem?_cons_succ, ← ih number]
            congr 1
            rw [Nat.mul_succ]
            omega
          · rw [length_eq, Nat.mul_succ]
            omega

/-- Short blocks make up a short list. -/
theorem length_flatMap_le {block : α → List β} {size : Nat}
    (bound : ∀ element, (block element).length ≤ size) (elements : List α) :
    (elements.flatMap block).length ≤ size * elements.length := by
  induction elements with
  | nil => exact Nat.le_refl 0
  | cons element rest ih =>
      have first := bound element
      rw [List.flatMap_cons, List.length_append, List.length_cons, Nat.mul_succ]
      omega

end VoxelEngine.Data
