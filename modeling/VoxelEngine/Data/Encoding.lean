import Mathlib.Data.Fintype.BigOperators
import Mathlib.Data.Fintype.Option

/-!
# Counting encodings

An injective encoding of many values by lists of symbols needs long lists, and lists that
are put together from blocks of one size determine the blocks.
-/

namespace VoxelEngine.Data

universe u v

variable {α : Type u} {β : Type v}

/-- There are not enough short lists to tell many values apart. -/
theorem exists_length_gt [Fintype α] [Fintype β] {encode : α → List β}
    (injective : Function.Injective encode) {limit : Nat}
    (many : (Fintype.card β + 1) ^ limit < Fintype.card α) :
    ∃ value, limit < (encode value).length := by
  by_contra none
  have short : ∀ value, (encode value).length ≤ limit := fun value =>
    Nat.le_of_not_lt fun long => none ⟨value, long⟩
  have symbols : Function.Injective fun (value : α) (place : Fin limit) =>
      (encode value)[place.val]? := by
    intro first second same
    apply injective
    apply List.ext_getElem?
    intro place
    by_cases within : place < limit
    · exact congrFun same ⟨place, within⟩
    · have beyond := Nat.le_of_not_lt within
      rw [List.getElem?_eq_none (Nat.le_trans (short first) beyond),
        List.getElem?_eq_none (Nat.le_trans (short second) beyond)]
  have few := Fintype.card_le_of_injective _ symbols
  rw [Fintype.card_fun, Fintype.card_option, Fintype.card_fin] at few
  exact absurd many (Nat.not_lt.mpr few)

/-- Blocks of one size are determined by their concatenation. -/
theorem eq_of_flatMap_eq {first second : α → List β} {size : Nat}
    (firstSize : ∀ value, (first value).length = size)
    (secondSize : ∀ value, (second value).length = size) {values : List α}
    (same : values.flatMap first = values.flatMap second) :
    ∀ value ∈ values, first value = second value := by
  induction values with
  | nil => simp
  | cons value values ih =>
      rw [List.flatMap_cons, List.flatMap_cons] at same
      rcases List.append_inj same ((firstSize value).trans (secondSize value).symm) with
        ⟨head, tail⟩
      rw [List.forall_mem_cons]
      exact ⟨head, ih tail⟩

end VoxelEngine.Data
