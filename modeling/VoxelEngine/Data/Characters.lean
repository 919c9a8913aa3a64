import Mathlib.Data.List.TakeWhile

/-!
# Classes of characters

The classes of characters that the functions of the C library tell apart.  Letters and digits are
those of Lean.
-/

namespace VoxelEngine.Data

/-- `std::isspace`. -/
def isSpace (c : Char) : Bool :=
  c = ' ' ∨ 9 ≤ c.toNat ∧ c.toNat ≤ 13

variable {c : Char}

/-- Whitespace is neither a letter nor a digit. -/
theorem isAlphanum_of_isSpace (space : isSpace c = true) : c.isAlphanum = false := by
  rw [isSpace, decide_eq_true_eq] at space
  rcases space with rfl | ⟨lower, upper⟩
  · decide
  · have each : c.toNat = 9 ∨ c.toNat = 10 ∨ c.toNat = 11 ∨ c.toNat = 12 ∨ c.toNat = 13 := by
      omega
    rw [← Char.ofNat_toNat c]
    rcases each with code | code | code | code | code
    · rw [code]; decide
    · rw [code]; decide
    · rw [code]; decide
    · rw [code]; decide
    · rw [code]; decide

theorem isAlpha_of_isSpace (space : isSpace c = true) : c.isAlpha = false := by
  have neither := isAlphanum_of_isSpace space
  rw [Char.isAlphanum, Bool.or_eq_false_iff] at neither
  exact neither.1

end VoxelEngine.Data
