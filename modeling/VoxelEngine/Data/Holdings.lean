import Mathlib.Data.List.Nodup
import Mathlib.Data.List.Perm.Basic
import Mathlib.Logic.Function.Basic

/-!
# What a table holds

A table in which finitely many places are occupied, together with its contents in some
order.  Putting something into an empty place and taking something out of a place change the
contents by just that.
-/

namespace VoxelEngine.Data

universe u v

variable {α : Type u} {β : Type v}

/-- The occupied places can be enumerated, and these are their contents. -/
def Holds (table : α → Option β) (contents : List β) : Prop :=
  ∃ places : List α, places.Nodup ∧ (∀ place, place ∈ places ↔ (table place).isSome = true) ∧
    contents.Perm (places.filterMap table)

namespace Holds

variable {table : α → Option β} {contents : List β} {place : α} {value : β}

theorem empty : Holds (fun _ : α => (none : Option β)) [] :=
  ⟨[], List.nodup_nil, by simp, List.Perm.refl _⟩

/-- A table without occupied places has no contents. -/
theorem eq_nil (holds : Holds table contents) (vacant : ∀ place, table place = none) :
    contents = [] := by
  rcases holds with ⟨places, _, mem_iff, perm⟩
  have nothing : places.filterMap table = [] := by
    rw [List.filterMap_eq_nil_iff]
    exact fun place _ => vacant place
  rw [nothing] at perm
  exact perm.eq_nil

variable [DecidableEq α]

theorem filterMap_update_of_notMem {places : List α} (absent : place ∉ places)
    (entry : Option β) :
    places.filterMap (Function.update table place entry) = places.filterMap table := by
  apply List.filterMap_congr
  intro other mem
  have other_ne : other ≠ place := by
    rintro rfl
    exact absent mem
  exact Function.update_of_ne other_ne _ _

/-- Put something into an empty place. -/
theorem put (holds : Holds table contents) (vacant : table place = none) (value : β) :
    Holds (Function.update table place (some value)) (value :: contents) := by
  rcases holds with ⟨places, nodup, mem_iff, perm⟩
  have absent : place ∉ places := by
    rw [mem_iff, vacant]
    exact Bool.false_ne_true
  refine ⟨place :: places, List.nodup_cons.mpr ⟨absent, nodup⟩, ?_, ?_⟩
  · intro other
    rw [List.mem_cons, mem_iff, Function.update_apply]
    split
    · rename_i same
      exact iff_of_true (Or.inl same) rfl
    · rename_i other_ne
      exact or_iff_right other_ne
  · rw [List.filterMap_cons_some (Function.update_self _ _ _), filterMap_update_of_notMem absent]
    exact perm.cons value

/-- Take something out of a place. -/
theorem take (holds : Holds table contents) (occupied : table place = some value) :
    ∃ rest, Holds (Function.update table place none) rest ∧ contents.Perm (value :: rest) := by
  rcases holds with ⟨places, nodup, mem_iff, perm⟩
  have mem : place ∈ places := by
    rw [mem_iff, occupied]
    rfl
  have absent : place ∉ places.erase place := nodup.not_mem_erase
  refine ⟨(places.erase place).filterMap table,
    ⟨places.erase place, nodup.erase place, ?_, ?_⟩, ?_⟩
  · intro other
    rw [nodup.mem_erase_iff, mem_iff, Function.update_apply]
    split
    · rename_i same
      simp [same]
    · rename_i other_ne
      exact and_iff_right other_ne
  · rw [filterMap_update_of_notMem absent]
  · apply perm.trans
    have moved := (List.perm_cons_erase mem).filterMap table
    rw [List.filterMap_cons_some occupied] at moved
    exact moved

/-- Take whatever there is out of a place. -/
theorem clear (holds : Holds table contents) (place : α) :
    ∃ rest, Holds (Function.update table place none) rest ∧
      contents.Perm ((table place).toList ++ rest) := by
  cases occupied : table place with
  | some value => exact holds.take occupied
  | none =>
      refine ⟨contents, ?_, List.Perm.refl _⟩
      rw [← occupied, Function.update_eq_self]
      exact holds

/-- Put something into an empty place, if there is something. -/
theorem fill (holds : Holds table contents) (vacant : table place = none) (entry : Option β) :
    Holds (Function.update table place entry) (entry.toList ++ contents) := by
  cases entry with
  | some value => exact holds.put vacant value
  | none =>
      have same : Function.update table place none = table := by
        rw [← vacant, Function.update_eq_self]
      rw [same]
      exact holds

/-- Move what is in one place to another one, and lose what is there.  If both places are the
same, it is lost. -/
theorem move (holds : Holds table contents) (source target : α) :
    ∃ kept, Holds (Function.update (Function.update table target (table source)) source none)
        kept ∧ contents.Perm ((table target).toList ++ kept) := by
  rcases holds.clear target with ⟨rest, cleared, restPerm⟩
  by_cases same : source = target
  · subst same
    rw [Function.update_idem]
    exact ⟨rest, cleared, restPerm⟩
  · rcases cleared.clear source with ⟨kept, taken, keptPerm⟩
    have target_ne : target ≠ source := Ne.symm same
    have vacant : Function.update (Function.update table target none) source none target =
        none := by
      rw [Function.update_of_ne target_ne, Function.update_self]
    have filled := taken.fill vacant (table source)
    rw [Function.update_comm same, Function.update_idem] at filled
    refine ⟨_, filled, restPerm.trans (List.Perm.append_left _ ?_)⟩
    rwa [Function.update_of_ne same] at keptPerm

end Holds

end VoxelEngine.Data
