import Mathlib.Data.List.Infix

/-!
# Numbering keys

Keys are numbered in the order in which they are first met, and each group of keys is counted by
itself.  A key keeps its number while others are met, and no other key of its group gets the same.
-/

namespace VoxelEngine.Data

universe u v

variable {κ : Type u} {γ : Type v} [DecidableEq κ] [DecidableEq γ]

/-- Meet a key. -/
def register (seen : List κ) (key : κ) : List κ :=
  if key ∈ seen then seen else seen ++ [key]

/-- How many keys of a group were met. -/
def groupCount (group : κ → γ) (seen : List κ) (counted : γ) : Nat :=
  (seen.filter fun key => group key = counted).length

/-- The number of a key: how many others of its group were met before. -/
def rank (group : κ → γ) (seen : List κ) (key : κ) : Nat :=
  (seen.filter fun other => group other = group key).idxOf key

variable {group : κ → γ} {seen later keys : List κ} {key other : κ} {counted : γ}

theorem register_of_mem (mem : key ∈ seen) : register seen key = seen :=
  if_pos mem

theorem register_of_not_mem (unmet : key ∉ seen) : register seen key = seen ++ [key] :=
  if_neg unmet

theorem isPrefix_register (seen : List κ) (key : κ) : seen <+: register seen key := by
  by_cases mem : key ∈ seen
  · rw [register_of_mem mem]
  · rw [register_of_not_mem mem]
    exact List.prefix_append _ _

@[simp]
theorem mem_register_iff : other ∈ register seen key ↔ other ∈ seen ∨ other = key := by
  by_cases mem : key ∈ seen
  · rw [register_of_mem mem]
    constructor
    · exact Or.inl
    · rintro (met | rfl)
      · exact met
      · exact mem
  · rw [register_of_not_mem mem, List.mem_append, List.mem_singleton]

theorem isPrefix_registerAll (seen keys : List κ) : seen <+: keys.foldl register seen := by
  induction keys generalizing seen with
  | nil => exact List.prefix_rfl
  | cons key rest ih => exact (isPrefix_register seen key).trans (ih _)

@[simp]
theorem mem_registerAll_iff :
    other ∈ keys.foldl register seen ↔ other ∈ seen ∨ other ∈ keys := by
  induction keys generalizing seen with
  | nil => simp
  | cons key rest ih =>
      rw [List.foldl_cons, ih, mem_register_iff, List.mem_cons, or_assoc]

/-- Keys that are met later do not change a number. -/
theorem rank_of_isPrefix (continues : seen <+: later) (mem : key ∈ seen) :
    rank group later key = rank group seen key := by
  rcases continues with ⟨added, rfl⟩
  rw [rank, rank, List.filter_append]
  apply List.idxOf_append_of_mem
  exact List.mem_filter.mpr ⟨mem, by simp⟩

/-- A key that was not met before gets the next number. -/
theorem rank_register_of_not_mem (unmet : key ∉ seen) :
    rank group (register seen key) key = groupCount group seen (group key) := by
  have absent : key ∉ seen.filter fun other => group other = group key := by
    intro mem
    exact unmet (List.mem_filter.mp mem).1
  rw [rank, register_of_not_mem unmet, List.filter_append, List.idxOf_append_of_notMem absent,
    groupCount, List.filter_cons_of_pos (by simp), List.idxOf_cons_self, Nat.add_zero]

theorem groupCount_register_of_not_mem (unmet : key ∉ seen) :
    groupCount group (register seen key) counted =
      groupCount group seen counted + if group key = counted then 1 else 0 := by
  rw [groupCount, register_of_not_mem unmet, List.filter_append, List.length_append, groupCount]
  by_cases same : group key = counted
  · rw [if_pos same, List.filter_cons_of_pos (by simpa using same)]
    rfl
  · rw [if_neg same, List.filter_cons_of_neg (by simpa using same)]
    rfl

theorem rank_lt_length (mem : key ∈ seen) : rank group seen key < seen.length := by
  have inside : key ∈ seen.filter fun other => group other = group key :=
    List.mem_filter.mpr ⟨mem, by simp⟩
  calc
    rank group seen key < (seen.filter fun other => group other = group key).length :=
      List.idxOf_lt_length_of_mem inside
    _ ≤ seen.length := List.length_filter_le _ _

/-- Keys of the same group have different numbers. -/
theorem rank_inj (mem : key ∈ seen) (sameGroup : group key = group other) :
    rank group seen key = rank group seen other ↔ key = other := by
  have inside : key ∈ seen.filter fun met => group met = group other :=
    List.mem_filter.mpr ⟨mem, by simpa using sameGroup⟩
  rw [rank, rank, sameGroup]
  exact List.idxOf_inj inside

end VoxelEngine.Data
