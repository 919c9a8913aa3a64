import Mathlib.Data.Fintype.EquivFin
import Mathlib.Dynamics.PeriodicPts.Lemmas
import VoxelEngine.Data.ShiftXor
import VoxelEngine.Serialize.Integer

/-!
# The cheap random number generator

The state of the generator is a word of 64 bits, which three steps turn into the next one.  Zero
would stay zero for ever.  No other state becomes zero, and no seed gives the state zero.
-/

namespace VoxelEngine.Utility

open VoxelEngine.Data VoxelEngine.Serialize

/-- `random::cheap::xorshift` -/
@[ext]
structure Xorshift where
  state : UInt64

namespace Xorshift

/-- `alternating_bits` -/
def alternatingBits : UInt64 :=
  0xAAAAAAAAAAAAAAAA

/-- `xorshift::xorshift`, from a number. -/
def ofSeed (seed : UInt64) : Xorshift :=
  ⟨seed ||| alternatingBits⟩

/-- `xorshift::xorshift`, from the bytes of a number. -/
def ofBytes (seed : Vector UInt8 8) : Xorshift :=
  ⟨UInt64.ofNat (ofLittleEndian seed.toList) ||| alternatingBits⟩

/-- `xorshift::operator()` -/
def operatorCall (generator : Xorshift) : UInt64 × Xorshift :=
  let first := generator.state ^^^ (generator.state <<< 13)
  let second := first ^^^ (first >>> 7)
  let third := second ^^^ (second <<< 17)
  (third, ⟨third⟩)

/-- The generator after a number was drawn. -/
def next (generator : Xorshift) : Xorshift :=
  generator.operatorCall.2

/-- The generator after some numbers were drawn. -/
def after (generator : Xorshift) : Nat → Xorshift
  | 0 => generator
  | draws + 1 => (generator.after draws).next

/-- The numbers that are drawn one after the other. -/
def drawn (generator : Xorshift) (index : Nat) : UInt64 :=
  (generator.after index).operatorCall.1

/-! ## The steps -/

theorem state_ne_zero_of_or (word : UInt64) : word ||| alternatingBits ≠ 0 := by
  intro zero
  have bits := congrArg (fun word : UInt64 => word.toBitVec.getLsbD 1) zero
  simp [alternatingBits] at bits

theorem state_next (generator : Xorshift) :
    generator.next.state.toBitVec =
      (fun word : BitVec 64 => word ^^^ (word <<< 17))
        ((fun word : BitVec 64 => word ^^^ (word >>> 7))
          ((fun word : BitVec 64 => word ^^^ (word <<< 13)) generator.state.toBitVec)) :=
  rfl

theorem injective_next : Function.Injective next := by
  intro first second same
  have words := congrArg (fun generator : Xorshift => generator.state.toBitVec) same
  simp only [state_next] at words
  have afterSecond := ShiftXor.injective_xor_shiftLeft (by decide) words
  have afterFirst := ShiftXor.injective_xor_shiftRight (by decide) afterSecond
  have before := ShiftXor.injective_xor_shiftLeft (by decide) afterFirst
  exact Xorshift.ext (UInt64.toBitVec_inj.mp before)

@[simp]
theorem next_zero : next ⟨0⟩ = ⟨0⟩ := by
  rfl

instance : Finite Xorshift := by
  apply Finite.of_injective fun generator : Xorshift => generator.state.toFin
  intro first second same
  exact Xorshift.ext (UInt64.toFin_inj.mp same)

/-- Only zero is followed by zero. -/
theorem state_next_ne_zero {generator : Xorshift} (nonzero : generator.state ≠ 0) :
    generator.next.state ≠ 0 := by
  intro zero
  have same : generator.next = next ⟨0⟩ := by
    rw [next_zero]
    exact Xorshift.ext zero
  exact nonzero (congrArg state (injective_next same))

theorem state_after_ne_zero {generator : Xorshift} (nonzero : generator.state ≠ 0) (draws : Nat) :
    (generator.after draws).state ≠ 0 := by
  induction draws with
  | zero => exact nonzero
  | succ draws ih => exact state_next_ne_zero ih

theorem after_eq_iterate (generator : Xorshift) (draws : Nat) :
    generator.after draws = Nat.iterate next draws generator := by
  induction draws with
  | zero => rfl
  | succ draws ih => rw [Function.iterate_succ_apply', after, ih]

theorem bijOn_next : Set.BijOn next {generator | generator.state ≠ 0}
    {generator | generator.state ≠ 0} := by
  constructor
  · intro generator nonzero
    exact state_next_ne_zero nonzero
  · constructor
    · exact injective_next.injOn
    · intro target nonzero
      rcases Finite.surjective_of_injective injective_next target with ⟨source, rfl⟩
      refine ⟨source, ?_, rfl⟩
      intro zero
      have source_eq : source = ⟨0⟩ := Xorshift.ext zero
      rw [source_eq, next_zero] at nonzero
      exact nonzero rfl

/-- The numbers repeat from the first one on. -/
theorem exists_period (generator : Xorshift) :
    ∃ period, 0 < period ∧ ∀ index, generator.drawn (index + period) = generator.drawn index := by
  have periodic := injective_next.mem_periodicPts generator
  rcases Function.mem_periodicPts.mp periodic with ⟨period, pos, returns⟩
  refine ⟨period, pos, ?_⟩
  intro index
  rw [drawn, drawn, after_eq_iterate, after_eq_iterate, Function.iterate_add_apply, returns]

end Xorshift

/-- No seed and no number of draws gives the state zero, a step is a bijection on the other states,
and the numbers that are drawn are periodic from the first one on. -/
theorem xorshift_never_degenerates :
    (∀ seed draws, ((Xorshift.ofSeed seed).after draws).state ≠ 0) ∧
      (∀ seed draws, ((Xorshift.ofBytes seed).after draws).state ≠ 0) ∧
      Set.BijOn Xorshift.next {generator | generator.state ≠ 0}
        {generator | generator.state ≠ 0} ∧
      ∀ generator : Xorshift, ∃ period, 0 < period ∧
        ∀ index, generator.drawn (index + period) = generator.drawn index := by
  constructor
  · intro seed
    exact Xorshift.state_after_ne_zero (Xorshift.state_ne_zero_of_or seed)
  · constructor
    · intro seed
      exact Xorshift.state_after_ne_zero (Xorshift.state_ne_zero_of_or _)
    · exact ⟨Xorshift.bijOn_next, Xorshift.exists_period⟩

end VoxelEngine.Utility
