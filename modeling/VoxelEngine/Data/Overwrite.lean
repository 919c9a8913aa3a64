import Mathlib.Data.List.Basic

/-!
# Overwriting a part of a list

A part of a list is replaced by a list of the same length, which may reach beyond the end.  What is
written into a longer list shows in every front part of it that was written to.
-/

namespace VoxelEngine.Data

universe u v

variable {α : Type u} {β : Type v} {contents data : List α} {position size : Nat}

/-- The list with a part of it replaced, and continued if the part reaches beyond its end. -/
def overwrite (contents : List α) (position : Nat) (data : List α) : List α :=
  contents.take position ++ data ++ contents.drop (position + data.length)

@[simp]
theorem overwrite_nil (contents : List α) (position : Nat) :
    overwrite contents position [] = contents := by
  rw [overwrite, List.length_nil, Nat.add_zero, List.append_nil, List.take_append_drop]

theorem length_overwrite (within : position ≤ contents.length) :
    (overwrite contents position data).length =
      max contents.length (position + data.length) := by
  rw [overwrite, List.length_append, List.length_append, List.length_take, List.length_drop]
  omega

/-- What is written into a list is written into its front part. -/
theorem take_overwrite (within : position ≤ size) (inside : size ≤ contents.length) :
    (overwrite contents position data).take (max size (position + data.length)) =
      overwrite (contents.take size) position data := by
  have front : (contents.take position ++ data).length = position + data.length := by
    rw [List.length_append, List.length_take_of_le (Nat.le_trans within inside)]
  rw [overwrite, overwrite, List.take_take, Nat.min_eq_left within]
  rcases Nat.le_total size (position + data.length) with le | le
  · rw [Nat.max_eq_right le, List.take_left' front, List.drop_eq_nil_of_le, List.append_nil]
    rw [List.length_take]
    omega
  · rw [Nat.max_eq_left le, List.take_append, front, List.take_of_length_le (by omega),
      List.drop_take]

section Blocks

variable {block : α → List β} {blockSize : Nat}

theorem length_flatMap_eq (length_eq : ∀ element, (block element).length = blockSize)
    (elements : List α) : (elements.flatMap block).length = elements.length * blockSize := by
  induction elements with
  | nil => rw [List.flatMap_nil, List.length_nil, List.length_nil, Nat.zero_mul]
  | cons element rest ih =>
      rw [List.flatMap_cons, List.length_cons]
      calc
        (block element ++ rest.flatMap block).length = blockSize + rest.length * blockSize := by
          rw [List.length_append, length_eq, ih]
        _ = (rest.length + 1) * blockSize := by rw [Nat.succ_mul, Nat.add_comm]

/-- The blocks of the first elements are the front part of all blocks. -/
theorem flatMap_take (length_eq : ∀ element, (block element).length = blockSize)
    (elements : List α) (count : Nat) :
    (elements.take count).flatMap block = (elements.flatMap block).take (count * blockSize) := by
  induction elements generalizing count with
  | nil => rw [List.take_nil, List.flatMap_nil, List.take_nil]
  | cons element rest ih =>
      cases count with
      | zero => rw [Nat.zero_mul, List.take_zero, List.take_zero, List.flatMap_nil]
      | succ count =>
          have first_le : (block element).length ≤ count * blockSize + blockSize :=
            Nat.le_trans (Nat.le_of_eq (length_eq element)) (Nat.le_add_left _ _)
          rw [List.take_succ_cons, List.flatMap_cons, List.flatMap_cons, ih, Nat.succ_mul,
            List.take_append, List.take_of_length_le first_le, length_eq, Nat.add_sub_cancel]

theorem flatMap_drop (length_eq : ∀ element, (block element).length = blockSize)
    (elements : List α) (count : Nat) :
    (elements.drop count).flatMap block = (elements.flatMap block).drop (count * blockSize) := by
  induction elements generalizing count with
  | nil => rw [List.drop_nil, List.flatMap_nil, List.drop_nil]
  | cons element rest ih =>
      cases count with
      | zero => rw [Nat.zero_mul, List.drop_zero, List.drop_zero]
      | succ count =>
          have first_le : (block element).length ≤ count * blockSize + blockSize :=
            Nat.le_trans (Nat.le_of_eq (length_eq element)) (Nat.le_add_left _ _)
          rw [List.drop_succ_cons, List.flatMap_cons, ih, Nat.succ_mul, List.drop_append,
            List.drop_eq_nil_of_le first_le, length_eq, Nat.add_sub_cancel, List.nil_append]

/-- Overwriting elements overwrites their blocks. -/
theorem flatMap_overwrite (length_eq : ∀ element, (block element).length = blockSize)
    (contents data : List α) (position : Nat) :
    (overwrite contents position data).flatMap block =
      overwrite (contents.flatMap block) (position * blockSize) (data.flatMap block) := by
  rw [overwrite, overwrite, List.flatMap_append, List.flatMap_append, flatMap_take length_eq,
    flatMap_drop length_eq, length_flatMap_eq length_eq, Nat.add_mul]

end Blocks

end VoxelEngine.Data
