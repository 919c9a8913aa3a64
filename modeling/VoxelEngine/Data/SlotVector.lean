import Mathlib.Data.List.Basic
import Mathlib.Logic.Function.Basic

/-!
# Vectors of slots

A vector whose slots may be empty, as used for registries that hand out positions and
recycle them.  A position outside the vector counts as empty, which makes every
operation a point update of the occupants.
-/

namespace VoxelEngine.Data.SlotVector

universe u

variable {α : Type u}

/-- What occupies a position, if anything does. -/
def occupant (slots : List (Option α)) (index : Nat) : Option α :=
  slots[index]?.join

/-- Cut the vector off at a size, or extend it with empty slots. -/
def resize (slots : List (Option α)) (size : Nat) : List (Option α) :=
  slots.take size ++ List.replicate (size - slots.length) none

/-- Occupy a position, extending the vector if necessary. -/
def place (slots : List (Option α)) (index : Nat) (value : α) : List (Option α) :=
  (resize slots (max (index + 1) slots.length)).set index (some value)

/-- Empty a position. -/
def vacate (slots : List (Option α)) (index : Nat) : List (Option α) :=
  slots.set index none

@[simp]
theorem occupant_nil (index : Nat) : occupant ([] : List (Option α)) index = none :=
  rfl

theorem occupant_eq_some_iff {slots : List (Option α)} {index : Nat} {value : α} :
    occupant slots index = some value ↔ slots[index]? = some (some value) := by
  rw [occupant, Option.join_eq_some_iff]

theorem lt_of_occupant {slots : List (Option α)} {index : Nat} {value : α}
    (occupied : occupant slots index = some value) : index < slots.length := by
  rw [occupant_eq_some_iff] at occupied
  exact (List.getElem?_eq_some_iff.mp occupied).1

theorem occupant_of_length_le {slots : List (Option α)} {index : Nat}
    (outside : slots.length ≤ index) : occupant slots index = none := by
  rw [occupant, List.getElem?_eq_none outside]
  rfl

@[simp]
theorem length_resize (slots : List (Option α)) (size : Nat) :
    (resize slots size).length = size := by
  rw [resize, List.length_append, List.length_take, List.length_replicate]
  omega

theorem occupant_resize (slots : List (Option α)) (size index : Nat) :
    occupant (resize slots size) index = if index < size then occupant slots index else none := by
  by_cases inside : index < size
  · rw [if_pos inside, occupant, occupant, resize]
    by_cases old : index < slots.length
    · have taken : index < (slots.take size).length := by
        rw [List.length_take]
        omega
      rw [List.getElem?_append_left taken, List.getElem?_take_of_lt inside]
    · have beyond : (slots.take size).length ≤ index := by
        rw [List.length_take]
        omega
      rw [List.getElem?_append_right beyond, List.getElem?_replicate,
        List.getElem?_eq_none (Nat.le_of_not_lt old)]
      split <;> rfl
  · rw [if_neg inside]
    exact occupant_of_length_le (by rw [length_resize]; omega)

@[simp]
theorem length_place (slots : List (Option α)) (index : Nat) (value : α) :
    (place slots index value).length = max (index + 1) slots.length := by
  rw [place, List.length_set, length_resize]

theorem occupant_place (slots : List (Option α)) (index other : Nat) (value : α) :
    occupant (place slots index value) other =
      if other = index then some value else occupant slots other := by
  by_cases other_eq : other = index
  · subst other_eq
    rw [if_pos rfl, occupant_eq_some_iff, place, List.getElem?_set_self]
    rw [length_resize]
    omega
  · rw [if_neg other_eq, occupant, place, List.getElem?_set_ne (Ne.symm other_eq), ← occupant,
      occupant_resize]
    split
    · rfl
    · rename_i outside
      exact (occupant_of_length_le (by omega)).symm

@[simp]
theorem occupant_concat (slots : List (Option α)) (index : Nat) (value : α) :
    occupant (slots ++ [some value]) index =
      if index = slots.length then some value else occupant slots index := by
  by_cases last : index = slots.length
  · rw [if_pos last, last, occupant, List.getElem?_concat_length]
    rfl
  · rw [if_neg last]
    rcases Nat.lt_or_gt_of_ne last with inside | outside
    · rw [occupant, List.getElem?_append_left inside, occupant]
    · have beyond : (slots ++ [some value]).length ≤ index := by
        rw [List.length_append, List.length_singleton]
        exact outside
      rw [occupant_of_length_le beyond, occupant_of_length_le (Nat.le_of_lt outside)]

@[simp]
theorem length_vacate (slots : List (Option α)) (index : Nat) :
    (vacate slots index).length = slots.length := by
  rw [vacate, List.length_set]

theorem occupant_vacate (slots : List (Option α)) (index other : Nat) :
    occupant (vacate slots index) other =
      if other = index then none else occupant slots other := by
  by_cases other_eq : other = index
  · subst other_eq
    rw [if_pos rfl, occupant, vacate]
    by_cases inside : other < slots.length
    · rw [List.getElem?_set_self inside]
      rfl
    · rw [List.getElem?_eq_none (by rw [List.length_set]; omega)]
      rfl
  · rw [if_neg other_eq, occupant, vacate, List.getElem?_set_ne (Ne.symm other_eq), occupant]

/-- No value occupies two positions. -/
def Distinct (slots : List (Option α)) : Prop :=
  slots.Pairwise fun first second => ∀ value, first = some value → second ≠ some value

theorem distinct_of_injective {slots : List (Option α)}
    (injective : ∀ first second value, occupant slots first = some value →
      occupant slots second = some value → first = second) : Distinct slots := by
  rw [Distinct, List.pairwise_iff_getElem]
  intro first second firstInside secondInside lt value firstHolds secondHolds
  have same := injective first second value
    (occupant_eq_some_iff.mpr (List.getElem?_eq_some_iff.mpr ⟨firstInside, firstHolds⟩))
    (occupant_eq_some_iff.mpr (List.getElem?_eq_some_iff.mpr ⟨secondInside, secondHolds⟩))
  exact Nat.ne_of_lt lt same

theorem occupant_of_mem {slots : List (Option α)} {value : α} (mem : some value ∈ slots) :
    ∃ index, occupant slots index = some value := by
  obtain ⟨index, stored⟩ := List.mem_iff_getElem?.mp mem
  exact ⟨index, occupant_eq_some_iff.mpr stored⟩

theorem mem_of_occupant {slots : List (Option α)} {index : Nat} {value : α}
    (occupied : occupant slots index = some value) : some value ∈ slots :=
  List.mem_of_getElem? (occupant_eq_some_iff.mp occupied)

/-! ## Holes -/

/-- A position of the vector that nothing occupies. -/
def Hole (slots : List (Option α)) (index : Nat) : Prop :=
  index < slots.length ∧ occupant slots index = none

@[simp]
theorem not_hole_nil (index : Nat) : ¬Hole ([] : List (Option α)) index :=
  fun hole => Nat.not_lt_zero index hole.1

theorem hole_place {slots : List (Option α)} {index : Nat} (reachable : index ≤ slots.length)
    (value : α) (other : Nat) :
    Hole (place slots index value) other ↔ other ≠ index ∧ Hole slots other := by
  rw [Hole, Hole, length_place, occupant_place]
  by_cases same : other = index
  · simp [same]
  · rw [if_neg same]
    have size : other < max (index + 1) slots.length ↔ other < slots.length := by omega
    simp [same, size]

theorem hole_vacate {slots : List (Option α)} {index : Nat} (inside : index < slots.length)
    (other : Nat) :
    Hole (vacate slots index) other ↔ other = index ∨ Hole slots other := by
  rw [Hole, Hole, length_vacate, occupant_vacate]
  by_cases same : other = index
  · simp [same, inside]
  · simp [same]

theorem hole_resize {slots : List (Option α)} {size : Nat} (shorter : size ≤ slots.length)
    (other : Nat) :
    Hole (resize slots size) other ↔ other < size ∧ Hole slots other := by
  rw [Hole, Hole, length_resize, occupant_resize]
  by_cases inside : other < size
  · simp [inside, Nat.lt_of_lt_of_le inside shorter]
  · simp [inside]

/-! ## All occupants -/

/-- The values in a vector, in order of their positions. -/
def occupants (slots : List (Option α)) : List α :=
  slots.filterMap id

@[simp]
theorem occupants_nil : occupants ([] : List (Option α)) = [] :=
  rfl

@[simp]
theorem occupants_concat (slots : List (Option α)) (value : α) :
    occupants (slots ++ [some value]) = occupants slots ++ [value] := by
  rw [occupants, List.filterMap_append]
  rfl

@[simp]
theorem mem_occupants_iff {slots : List (Option α)} {value : α} :
    value ∈ occupants slots ↔ ∃ index, occupant slots index = some value := by
  rw [occupants, List.mem_filterMap]
  constructor
  · rintro ⟨slot, mem, rfl⟩
    exact occupant_of_mem mem
  · rintro ⟨index, occupied⟩
    exact ⟨some value, mem_of_occupant occupied, rfl⟩

/-- Emptying the only position that a value occupies takes out this value. -/
theorem occupants_vacate [DecidableEq α] {slots : List (Option α)} {index : Nat} {value : α}
    (own : ∀ other, occupant slots index = some other → other = value)
    (only : ∀ other, occupant slots other = some value → other = index) :
    occupants (vacate slots index) = (occupants slots).filter fun other => other ≠ value := by
  induction slots generalizing index with
  | nil => rfl
  | cons slot rest ih =>
      cases index with
      | zero =>
          have absent : value ∉ occupants rest := by
            intro mem
            rcases mem_occupants_iff.mp mem with ⟨other, occupied⟩
            exact Nat.succ_ne_zero other (only (other + 1) occupied)
          have kept : (occupants rest).filter (fun other => other ≠ value) = occupants rest := by
            apply List.filter_eq_self.mpr
            intro other mem
            apply decide_eq_true
            rintro rfl
            exact absent mem
          cases slot with
          | none => exact kept.symm
          | some held =>
              rw [own held rfl]
              change occupants rest = ((value :: occupants rest).filter fun other => other ≠ value)
              rw [List.filter_cons_of_neg (by simp), kept]
      | succ index =>
          have tail : occupants (vacate rest index) =
              (occupants rest).filter fun other => other ≠ value := by
            apply ih own
            intro other occupied
            exact Nat.succ.inj (only (other + 1) occupied)
          cases slot with
          | none => exact tail
          | some held =>
              have held_ne : held ≠ value := by
                rintro rfl
                exact Nat.succ_ne_zero index (only 0 rfl).symm
              change held :: occupants (vacate rest index) =
                (held :: occupants rest).filter fun other => other ≠ value
              rw [List.filter_cons_of_pos (by simp [held_ne]), tail]

theorem nodup_occupants {slots : List (Option α)} (distinct : Distinct slots) :
    (occupants slots).Nodup := by
  rw [occupants, List.nodup_iff_pairwise_ne, List.pairwise_filterMap]
  apply distinct.imp
  intro first second different value valueEq other otherEq same
  exact different value valueEq (same ▸ otherEq)

/-! ## Several vectors -/

section Family

variable {ι : Type u} [DecidableEq ι] (vectors : ι → List (Option α)) (key other : ι)
  (index otherIndex : Nat)

theorem occupant_update_place (value : α) :
    occupant (Function.update vectors key (place (vectors key) index value) other) otherIndex =
      if other = key ∧ otherIndex = index then some value
      else occupant (vectors other) otherIndex := by
  by_cases other_eq : other = key
  · subst other_eq
    simp [occupant_place]
  · simp [other_eq]

theorem occupant_update_vacate :
    occupant (Function.update vectors key (vacate (vectors key) index) other) otherIndex =
      if other = key ∧ otherIndex = index then none
      else occupant (vectors other) otherIndex := by
  by_cases other_eq : other = key
  · subst other_eq
    simp [occupant_vacate]
  · simp [other_eq]

theorem occupant_update_resize (size : Nat) :
    occupant (Function.update vectors key (resize (vectors key) size) other) otherIndex =
      if other = key ∧ size ≤ otherIndex then none else occupant (vectors other) otherIndex := by
  by_cases other_eq : other = key
  · subst other_eq
    by_cases outside : size ≤ otherIndex
    · simp [occupant_resize, outside, Nat.not_lt.mpr outside]
    · simp [occupant_resize, outside, Nat.lt_of_not_le outside]
  · simp [other_eq]

theorem hole_update_place (reachable : index ≤ (vectors key).length) (value : α) :
    Hole (Function.update vectors key (place (vectors key) index value) other) otherIndex ↔
      ¬(other = key ∧ otherIndex = index) ∧ Hole (vectors other) otherIndex := by
  by_cases other_eq : other = key
  · subst other_eq
    simp [hole_place reachable]
  · simp [other_eq]

theorem hole_update_vacate (inside : index < (vectors key).length) :
    Hole (Function.update vectors key (vacate (vectors key) index) other) otherIndex ↔
      (other = key ∧ otherIndex = index) ∨ Hole (vectors other) otherIndex := by
  by_cases other_eq : other = key
  · subst other_eq
    simp [hole_vacate inside]
  · simp [other_eq]

theorem hole_of_update_resize {size : Nat} (shorter : size ≤ (vectors key).length)
    (hole : Hole (Function.update vectors key (resize (vectors key) size) other) otherIndex) :
    Hole (vectors other) otherIndex := by
  by_cases other_eq : other = key
  · subst other_eq
    rw [Function.update_self, hole_resize shorter] at hole
    exact hole.2
  · rw [Function.update_of_ne other_eq] at hole
    exact hole

@[simp]
theorem length_update_vacate :
    (Function.update vectors key (vacate (vectors key) index) other).length =
      (vectors other).length := by
  by_cases other_eq : other = key
  · subst other_eq
    simp
  · rw [Function.update_of_ne other_eq]

end Family

end VoxelEngine.Data.SlotVector
