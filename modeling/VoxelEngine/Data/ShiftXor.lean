import Mathlib.Logic.Function.Basic

/-!
# Words xored with themselves shifted

The highest or the lowest bits of a word are the same before and after it is xored with itself
shifted, and the other bits can be told from these one after the other.  Such a step is therefore
one to one.
-/

namespace VoxelEngine.Data.ShiftXor

variable {w : Nat} {amount : Nat}

theorem eq_zero_of_eq_shiftLeft (pos : 0 < amount) {word : BitVec w}
    (same : word = word <<< amount) : word = 0#w := by
  have clear : ∀ i, word.getLsbD i = false := by
    intro i
    induction i using Nat.strongRecOn with
    | ind i ih =>
        rw [same, BitVec.getLsbD_shiftLeft]
        by_cases low : i < amount
        · simp [low]
        · rw [ih (i - amount) (by omega), Bool.and_false]
  apply BitVec.eq_of_getLsbD_eq
  intro i _
  rw [clear i, BitVec.getLsbD_zero]

theorem eq_zero_of_eq_shiftRight (pos : 0 < amount) {word : BitVec w}
    (same : word = word >>> amount) : word = 0#w := by
  have clear : ∀ above i, w - i ≤ above → word.getLsbD i = false := by
    intro above
    induction above with
    | zero =>
        intro i high
        exact BitVec.getLsbD_of_ge word i (by omega)
    | succ above ih =>
        intro i high
        by_cases inside : i < w
        · rw [same, BitVec.getLsbD_ushiftRight]
          exact ih (amount + i) (by omega)
        · exact BitVec.getLsbD_of_ge word i (by omega)
  apply BitVec.eq_of_getLsbD_eq
  intro i _
  rw [clear (w - i) i (Nat.le_refl _), BitVec.getLsbD_zero]

/-- Words with the same result differ by a word that equals its own shift. -/
theorem eq_of_xor_eq {shifted : BitVec w → BitVec w}
    (distributes : ∀ first second, shifted (first ^^^ second) = shifted first ^^^ shifted second)
    (zero : ∀ word, word = shifted word → word = 0#w) {first second : BitVec w}
    (same : first ^^^ shifted first = second ^^^ shifted second) : first = second := by
  have differences : first ^^^ second = shifted (first ^^^ second) := by
    have moved := congrArg (fun word => second ^^^ (word ^^^ shifted first)) same
    simp only [BitVec.xor_assoc, BitVec.xor_self, BitVec.xor_zero] at moved
    rw [distributes, BitVec.xor_comm first second, moved, ← BitVec.xor_assoc, BitVec.xor_self,
      BitVec.zero_xor, BitVec.xor_comm]
  exact BitVec.xor_eq_zero_iff.mp (zero _ differences)

theorem injective_xor_shiftLeft (pos : 0 < amount) :
    Function.Injective fun word : BitVec w => word ^^^ (word <<< amount) := by
  intro first second same
  have distributes : ∀ first second : BitVec w,
      (first ^^^ second) <<< amount = (first <<< amount) ^^^ (second <<< amount) :=
    fun first second => BitVec.shiftLeft_xor_distrib first second amount
  exact eq_of_xor_eq distributes (fun _ => eq_zero_of_eq_shiftLeft pos) same

theorem injective_xor_shiftRight (pos : 0 < amount) :
    Function.Injective fun word : BitVec w => word ^^^ (word >>> amount) := by
  intro first second same
  have distributes : ∀ first second : BitVec w,
      (first ^^^ second) >>> amount = (first >>> amount) ^^^ (second >>> amount) :=
    fun first second => BitVec.ushiftRight_xor_distrib first second amount
  exact eq_of_xor_eq distributes (fun _ => eq_zero_of_eq_shiftRight pos) same

end VoxelEngine.Data.ShiftXor
