import Mathlib.Data.List.Nodup

/-!
# What a loop emits about one key

A loop over distinct keys emits some items for each of them.  Restricting its output
to the items about one key leaves exactly what was emitted when that key was visited,
and a reader that ignores all other items only needs that part.
-/

namespace VoxelEngine.Data

universe u v

variable {α : Type u} {μ : Type v}

/-- The items about a key are the ones emitted for it, if it is visited. -/
theorem filter_flatMap [DecidableEq α] {emit : α → List μ} {about : μ → Bool} {keys : List α}
    (nodup : keys.Nodup) {key : α}
    (tells : ∀ other, ∀ item ∈ emit other, about item = decide (other = key)) :
    (keys.flatMap emit).filter about = if key ∈ keys then emit key else [] := by
  induction keys with
  | nil => rfl
  | cons first rest ih =>
      rw [List.nodup_cons] at nodup
      rw [List.flatMap_cons, List.filter_append, ih nodup.2]
      by_cases first_eq : first = key
      · subst first_eq
        have own : ∀ item ∈ emit first, about item = true :=
          fun item mem => (tells first item mem).trans (decide_eq_true rfl)
        rw [if_neg nodup.1, List.append_nil, List.filter_eq_self.mpr own,
          if_pos List.mem_cons_self]
      · have silent : (emit first).filter about = [] := by
          rw [List.filter_eq_nil_iff]
          intro item mem
          rw [tells first item mem, decide_eq_true_iff]
          exact first_eq
        rw [silent, List.nil_append]
        simp only [List.mem_cons, Ne.symm first_eq, false_or]

/-- A left fold only depends on the items that it does not pass over. -/
theorem foldl_filter_of_neutral {β : Type u} {step : β → μ → β} (about : μ → Bool)
    {items : List μ}
    (neutral : ∀ state, ∀ item ∈ items, about item = false → step state item = state)
    (start : β) :
    items.foldl step start = (items.filter about).foldl step start := by
  induction items generalizing start with
  | nil => rfl
  | cons item rest ih =>
      have restNeutral : ∀ state, ∀ other ∈ rest, about other = false →
          step state other = state := fun state other mem =>
        neutral state other (List.mem_cons_of_mem _ mem)
      rw [List.foldl_cons]
      cases concerned : about item with
      | false =>
          rw [neutral start item List.mem_cons_self concerned, ih restNeutral,
            List.filter_cons_of_neg (by simp [concerned])]
      | true => rw [ih restNeutral, List.filter_cons_of_pos concerned, List.foldl_cons]

end VoxelEngine.Data
