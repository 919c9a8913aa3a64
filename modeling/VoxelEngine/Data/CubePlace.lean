import Mathlib.Algebra.Order.Ring.Int

/-!
# Places in a cube

A place in a cube has three coordinates below the size of the cube, and a number whose digits
they are.
-/

namespace VoxelEngine.Data.CubePlace

variable {size x y z : Int}

/-- The number of a place, in the order of its coordinates. -/
def number (size x y z : Int) : Int :=
  z + y * size + x * (size * size)

theorem number_eq (size x y z : Int) : number size x y z = z + (y + x * size) * size := by
  rw [number, Int.add_mul, Int.mul_assoc, Int.add_assoc]

theorem number_nonneg (sizePos : 0 < size) (xNonneg : 0 ≤ x) (yNonneg : 0 ≤ y) (zNonneg : 0 ≤ z) :
    0 ≤ number size x y z := by
  have yTerm := Int.mul_nonneg yNonneg (Int.le_of_lt sizePos)
  have square := Int.mul_nonneg (Int.le_of_lt sizePos) (Int.le_of_lt sizePos)
  have xTerm := Int.mul_nonneg xNonneg square
  rw [number]
  omega

/-- A digit above a number that is smaller than the base. -/
theorem digit_lt {base count low high : Int} (basePos : 0 < base) (lowLt : low < base)
    (highLt : high < count) : low + high * base < count * base := by
  have bound : (high + 1) * base ≤ count * base :=
    Int.mul_le_mul_of_nonneg_right (Int.add_one_le_of_lt highLt) (Int.le_of_lt basePos)
  rw [Int.add_mul, Int.one_mul] at bound
  omega

theorem number_lt (sizePos : 0 < size) (xLt : x < size) (yLt : y < size) (zLt : z < size) :
    number size x y z < size * size * size := by
  rw [number_eq]
  apply digit_lt sizePos zLt
  exact digit_lt sizePos yLt xLt

theorem number_mod (zNonneg : 0 ≤ z) (zLt : z < size) : number size x y z % size = z := by
  rw [number_eq, Int.add_mul_emod_self_right]
  exact Int.emod_eq_of_lt zNonneg zLt

theorem number_div (zNonneg : 0 ≤ z) (zLt : z < size) :
    number size x y z / size = y + x * size := by
  have sizeNonzero : size ≠ 0 := by omega
  rw [number_eq, Int.add_mul_ediv_right _ _ sizeNonzero, Int.ediv_eq_zero_of_lt zNonneg zLt,
    Int.zero_add]

theorem number_div_mod (yNonneg : 0 ≤ y) (yLt : y < size) (zNonneg : 0 ≤ z) (zLt : z < size) :
    number size x y z / size % size = y := by
  rw [number_div zNonneg zLt, Int.add_mul_emod_self_right]
  exact Int.emod_eq_of_lt yNonneg yLt

theorem number_div_square (yNonneg : 0 ≤ y) (yLt : y < size) (zNonneg : 0 ≤ z) (zLt : z < size) :
    number size x y z / (size * size) = x := by
  have sizeNonneg : 0 ≤ size := by omega
  have sizeNonzero : size ≠ 0 := by omega
  rw [← Int.ediv_ediv_of_nonneg sizeNonneg, number_div zNonneg zLt, Int.add_mul_ediv_right _ _ sizeNonzero,
    Int.ediv_eq_zero_of_lt yNonneg yLt, Int.zero_add]

/-- A number is put together again from its digits. -/
theorem number_digits (sizePos : 0 < size) (index : Int) :
    number size (index / (size * size)) (index / size % size) (index % size) = index := by
  have high := Int.emod_add_mul_ediv (index / size) size
  have low := Int.emod_add_mul_ediv index size
  rw [Int.ediv_ediv_of_nonneg (Int.le_of_lt sizePos)] at high
  rw [number_eq, Int.mul_comm (index / (size * size)) size, high, Int.mul_comm, low]

theorem digits_lt {index : Int} (sizePos : 0 < size) (upper : index < size * size * size) :
    index / (size * size) < size ∧ index / size % size < size ∧ index % size < size := by
  refine ⟨?_, Int.emod_lt_of_pos _ sizePos, Int.emod_lt_of_pos _ sizePos⟩
  apply Int.ediv_lt_of_lt_mul (Int.mul_pos sizePos sizePos)
  rw [← Int.mul_assoc]
  exact upper

end VoxelEngine.Data.CubePlace
