import Mathlib.Algebra.Order.Ring.Int

/-!
# Integers of a machine

An integer type of a machine represents an interval of the integers that contains zero.  Sums and
products are exact where the exact result is represented, and so is division of numbers that are
not negative.
-/

namespace VoxelEngine.Data

universe u

/-- The integer types, signed and unsigned and of any width. -/
class MachineInteger (T : Type u) extends Add T, Mul T, Div T, Mod T where
  toInt : T → Int
  ofInt : Int → T
  least : Int
  greatest : Int
  least_nonpos : least ≤ 0
  toInt_injective : Function.Injective toInt
  toInt_ofInt : ∀ value, least ≤ value → value ≤ greatest → toInt (ofInt value) = value
  toInt_add : ∀ first second : T, least ≤ toInt first + toInt second →
    toInt first + toInt second ≤ greatest → toInt (first + second) = toInt first + toInt second
  toInt_mul : ∀ first second : T, least ≤ toInt first * toInt second →
    toInt first * toInt second ≤ greatest → toInt (first * second) = toInt first * toInt second
  toInt_div : ∀ first second : T, 0 ≤ toInt first → 0 < toInt second →
    toInt (first / second) = toInt first / toInt second
  toInt_mod : ∀ first second : T, 0 ≤ toInt first → 0 < toInt second →
    toInt (first % second) = toInt first % toInt second

namespace MachineInteger

instance : MachineInteger Int32 where
  toInt := Int32.toInt
  ofInt := Int32.ofInt
  least := -2147483648
  greatest := 2147483647
  least_nonpos := by decide
  toInt_injective _ _ same := Int32.toInt_inj.mp same
  toInt_ofInt value lower upper := Int32.toInt_ofInt_of_le lower (Int.lt_add_one_of_le upper)
  toInt_add first second lower upper := by
    rw [Int32.toInt_add]
    apply Int.bmod_eq_of_le_mul_two <;> omega
  toInt_mul first second lower upper := by
    rw [Int32.toInt_mul]
    apply Int.bmod_eq_of_le_mul_two <;> omega
  toInt_div first second nonneg pos := by
    have negOne : second ≠ -1 := by
      rintro rfl
      exact absurd pos (by decide)
    rw [Int32.toInt_div_of_ne_right first second negOne]
    exact Int.tdiv_eq_ediv_of_nonneg nonneg
  toInt_mod first second nonneg _ := by
    rw [Int32.toInt_mod]
    exact Int.tmod_eq_emod_of_nonneg nonneg

end MachineInteger

end VoxelEngine.Data

/-!
## Signed words of thirty-two bits

The operations of `Int32` wrap around.  Where the exact result fits, they compute it.
-/

namespace VoxelEngine.Data.SignedWord

/-- The integer is the value of a signed word. -/
def Fits (value : Int) : Prop :=
  -2147483648 ≤ value ∧ value < 2147483648

instance (value : Int) : Decidable (Fits value) :=
  inferInstanceAs (Decidable (_ ∧ _))

theorem fits_toInt (word : Int32) : Fits word.toInt :=
  ⟨word.le_toInt, word.toInt_lt⟩

theorem bmod_of_fits {value : Int} (fits : Fits value) : value.bmod 4294967296 = value := by
  rcases fits with ⟨lower, upper⟩
  apply Int.bmod_eq_of_le_mul_two <;> omega

theorem toInt_add_of_fits {first second : Int32} (fits : Fits (first.toInt + second.toInt)) :
    (first + second).toInt = first.toInt + second.toInt := by
  rw [Int32.toInt_add]
  exact bmod_of_fits fits

theorem toInt_sub_of_fits {first second : Int32} (fits : Fits (first.toInt - second.toInt)) :
    (first - second).toInt = first.toInt - second.toInt := by
  rw [Int32.toInt_sub]
  exact bmod_of_fits fits

theorem toInt_mul_of_fits {first second : Int32} (fits : Fits (first.toInt * second.toInt)) :
    (first * second).toInt = first.toInt * second.toInt := by
  rw [Int32.toInt_mul]
  exact bmod_of_fits fits

/-- Shifting to the right divides, rounding towards negative infinity. -/
theorem toInt_shiftRight {word amount : Int32} {count : Nat}
    (amount_eq : (amount.toBitVec.smod 32).toNat = count) :
    (word >>> amount).toInt = word.toInt / ((2 ^ count : Nat) : Int) := by
  change (BitVec.sshiftRight' word.toBitVec (amount.toBitVec.smod 32)).toInt = _
  rw [BitVec.toInt_sshiftRight', amount_eq, Int.shiftRight_eq_div_pow]
  rfl

/-- Shifting to the left multiplies. -/
theorem toInt_shiftLeft_of_fits {word amount : Int32} {count : Nat}
    (amount_eq : (amount.toBitVec.smod 32).toNat = count)
    (fits : Fits (word.toInt * ((2 ^ count : Nat) : Int))) :
    (word <<< amount).toInt = word.toInt * ((2 ^ count : Nat) : Int) := by
  change (word.toBitVec <<< (amount.toBitVec.smod 32)).toInt = _
  have exact_eq : word.toInt = (word.toBitVec.toNat : Int).bmod (2 ^ 32) :=
    BitVec.toInt_eq_toNat_bmod word.toBitVec
  rw [BitVec.shiftLeft_eq', amount_eq, BitVec.toInt_shiftLeft, ← bmod_of_fits fits, exact_eq]
  calc (((word.toBitVec.toNat <<< count : Nat) : Int)).bmod (2 ^ 32)
      = ((word.toBitVec.toNat : Int) * ((2 ^ count : Nat) : Int)).bmod (2 ^ 32) := by
        rw [Nat.shiftLeft_eq, Int.natCast_mul]
    _ = ((word.toBitVec.toNat : Int).bmod (2 ^ 32) * ((2 ^ count : Nat) : Int)).bmod (2 ^ 32) :=
        (Int.bmod_mul_bmod).symm

/-- A word that is not negative is converted to an index without change. -/
theorem toNat_toUInt64_of_nonneg {word : Int32} (nonneg : 0 ≤ word.toInt) :
    word.toInt64.toUInt64.toNat = word.toInt.toNat := by
  have nonneg' : (0 : Int64) ≤ word.toInt64 := by
    rw [Int64.le_iff_toInt_le, Int32.toInt_toInt64]
    exact nonneg
  rw [Int64.toNat_toUInt64_of_le nonneg', Int32.toNatClampNeg_toInt64]
  rfl

end VoxelEngine.Data.SignedWord
