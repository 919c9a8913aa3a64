import Mathlib.Data.Nat.Bitwise

/-!
# Rounding up to an alignment

The least multiple of an alignment that is not below a number, and how it is computed for
alignments that are powers of two.
-/

namespace VoxelEngine.Data

/-- The least multiple of `alignment` that is not below `address`. -/
def roundUp (address alignment : Nat) : Nat :=
  (address + alignment - 1) / alignment * alignment

variable {address alignment other base : Nat}

theorem dvd_roundUp : alignment ∣ roundUp address alignment :=
  Nat.dvd_mul_left _ _

theorem le_roundUp (positive : 0 < alignment) : address ≤ roundUp address alignment := by
  have division := Nat.div_add_mod (address + alignment - 1) alignment
  have remainder := Nat.mod_lt (address + alignment - 1) positive
  rw [Nat.mul_comm] at division
  rw [roundUp]
  omega

theorem roundUp_lt (positive : 0 < alignment) :
    roundUp address alignment < address + alignment := by
  have quotient_le := Nat.div_mul_le_self (address + alignment - 1) alignment
  rw [roundUp]
  omega

/-- What is a multiple and not below the number is not below the rounded number. -/
theorem roundUp_le (divides : alignment ∣ other) (le : address ≤ other) :
    roundUp address alignment ≤ other := by
  rcases divides with ⟨count, rfl⟩
  rcases Nat.eq_zero_or_pos alignment with rfl | positive
  · simp [roundUp]
  · rw [roundUp, Nat.mul_comm]
    apply Nat.mul_le_mul_left
    apply Nat.le_of_lt_succ
    rw [Nat.div_lt_iff_lt_mul positive, Nat.succ_mul, Nat.mul_comm]
    omega

/-- Rounding is determined by being a multiple in the right range. -/
theorem roundUp_eq (divides : alignment ∣ other) (le : address ≤ other)
    (lt : other < address + alignment) : roundUp address alignment = other := by
  have positive : 0 < alignment := by omega
  apply Nat.le_antisymm (roundUp_le divides le)
  have rounded : alignment ∣ roundUp address alignment := dvd_roundUp
  have lower : address ≤ roundUp address alignment := le_roundUp positive
  rcases Nat.dvd_sub divides rounded with ⟨count, difference⟩
  have upper := roundUp_le divides le
  cases count with
  | zero =>
      rw [Nat.mul_zero] at difference
      omega
  | succ count =>
      rw [Nat.mul_succ] at difference
      omega

theorem roundUp_of_dvd (divides : alignment ∣ address) : roundUp address alignment = address := by
  rcases Nat.eq_zero_or_pos alignment with rfl | positive
  · rw [Nat.zero_dvd.mp divides]
    rfl
  · exact roundUp_eq divides (Nat.le_refl _) (Nat.lt_add_of_pos_right positive)

/-- Rounding is the same from every multiple on. -/
theorem roundUp_add (positive : 0 < alignment) (divides : alignment ∣ base) :
    roundUp (base + address) alignment = base + roundUp address alignment := by
  have lower : address ≤ roundUp address alignment := le_roundUp positive
  have upper : roundUp address alignment < address + alignment := roundUp_lt positive
  apply roundUp_eq
  · exact Nat.dvd_add divides dvd_roundUp
  · omega
  · omega

/-- Rounding to a divisor first makes no difference. -/
theorem roundUp_roundUp (positive : 0 < other) (divides : alignment ∣ other) :
    roundUp (roundUp address alignment) other = roundUp address other := by
  have positive_inner := Nat.pos_of_dvd_of_pos divides positive
  have lower : address ≤ roundUp address other := le_roundUp positive
  have upper : roundUp address other < address + other := roundUp_lt positive
  have inner_lower : address ≤ roundUp address alignment := le_roundUp positive_inner
  apply roundUp_eq dvd_roundUp
  · exact roundUp_le (divides.trans dvd_roundUp) lower
  · omega

/-- Numbers between two multiples are rounded to the upper one. -/
theorem roundUp_congr (positive : 0 < alignment) (le : address ≤ other)
    (bounded : other ≤ roundUp address alignment) :
    roundUp other alignment = roundUp address alignment := by
  have upper : roundUp address alignment < address + alignment := roundUp_lt positive
  apply roundUp_eq dvd_roundUp bounded
  omega

/-- Rounding to a multiple of the alignment agrees if and only if the result already is one. -/
theorem roundUp_eq_roundUp_iff (positive : 0 < other) (divides : alignment ∣ other) :
    roundUp address other = roundUp address alignment ↔
      other ∣ roundUp address alignment := by
  constructor
  · intro equal
    rw [← equal]
    exact dvd_roundUp
  · intro multiple
    rw [← roundUp_roundUp positive divides, roundUp_of_dvd multiple]

/-- `next_aligned_address` -/
def nextAlignedAddress (address alignment : Nat) : Nat :=
  let offset := address &&& (alignment - 1)
  (address - offset) + alignment * (if offset ≠ 0 then 1 else 0)

/-- For a power of two the next aligned address is the rounded one. -/
theorem nextAlignedAddress_eq (exponent : Nat) :
    nextAlignedAddress address (2 ^ exponent) = roundUp address (2 ^ exponent) := by
  have positive : 0 < 2 ^ exponent := Nat.two_pow_pos exponent
  have division := Nat.div_add_mod address (2 ^ exponent)
  have remainder := Nat.mod_lt address positive
  have whole : 2 ^ exponent ∣ address - address % 2 ^ exponent := Nat.dvd_sub_mod address
  rw [nextAlignedAddress, Nat.and_two_pow_sub_one_eq_mod]
  by_cases aligned : address % 2 ^ exponent = 0
  · rw [roundUp_of_dvd (Nat.dvd_of_mod_eq_zero aligned)]
    simp [aligned]
  · rw [if_pos aligned, Nat.mul_one]
    symm
    apply roundUp_eq (Nat.dvd_add whole (Nat.dvd_refl _))
    · omega
    · omega

end VoxelEngine.Data

/-!
## Rounding to single precision

A number in single precision has 24 significant bits.  A natural number is rounded to the nearest
of them, and to the one with an even significand if two are equally near.
-/

namespace VoxelEngine.Data

/-- The nearest multiple of `spacing`, and of two that are equally near the even one. -/
def roundNearest (number spacing : Nat) : Nat :=
  let quotient := number / spacing
  let remainder := number % spacing
  if 2 * remainder < spacing then quotient * spacing
  else if spacing < 2 * remainder then (quotient + 1) * spacing
  else (quotient + quotient % 2) * spacing

/-- How far apart the numbers in single precision are that are about as large as `number`. -/
def singleSpacing (number : Nat) : Nat :=
  2 ^ (number.log2 - 23)

/-- `float(number)` -/
def toSingle (number : Nat) : Nat :=
  roundNearest number (singleSpacing number)

variable {number spacing : Nat}

@[simp]
theorem roundNearest_one : roundNearest number 1 = number := by
  simp [roundNearest, Nat.mod_one]

/-- Rounding is off by half the spacing at most. -/
theorem le_roundNearest (positive : 0 < spacing) :
    2 * number ≤ 2 * roundNearest number spacing + spacing := by
  have division := Nat.div_add_mod number spacing
  have remainder := Nat.mod_lt number positive
  rw [Nat.mul_comm] at division
  simp only [roundNearest]
  split
  · omega
  · split
    · rw [Nat.add_mul, Nat.one_mul]
      omega
    · rw [Nat.add_mul]
      omega

/-- Numbers of at most 24 bits are as far apart as natural numbers. -/
theorem singleSpacing_of_lt (small : number < 2 ^ 24) : singleSpacing number = 1 := by
  rw [singleSpacing]
  rcases Nat.eq_zero_or_pos number with rfl | positive
  · rfl
  · have log_lt := (Nat.log2_lt (Nat.ne_of_gt positive)).mpr small
    rw [Nat.sub_eq_zero_of_le (by omega), Nat.pow_zero]

theorem toSingle_of_lt (small : number < 2 ^ 24) : toSingle number = number := by
  rw [toSingle, singleSpacing_of_lt small, roundNearest_one]

theorem singleSpacing_pos (number : Nat) : 0 < singleSpacing number :=
  Nat.two_pow_pos _

/-- The spacing of larger numbers is small compared to them. -/
theorem singleSpacing_le (large : 2 ^ 24 ≤ number) :
    2 ^ 23 * singleSpacing number ≤ number := by
  have nonzero : number ≠ 0 := by
    rintro rfl
    omega
  have log_le := (Nat.le_log2 nonzero).mpr large
  rw [singleSpacing, ← Nat.pow_add, Nat.add_sub_cancel' (by omega)]
  exact Nat.log2_self_le nonzero

/-- Rounding to single precision is off by one part in `2 ^ 24` at most. -/
theorem le_toSingle (number : Nat) : 2 ^ 24 * number ≤ 2 ^ 24 * toSingle number + number := by
  rcases Nat.lt_or_ge number (2 ^ 24) with small | large
  · rw [toSingle_of_lt small]
    exact Nat.le_add_right _ _
  · have near := @le_roundNearest number _ (singleSpacing_pos number)
    have narrow := singleSpacing_le large
    rw [toSingle]
    omega

end VoxelEngine.Data
