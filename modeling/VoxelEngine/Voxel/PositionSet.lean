import Mathlib.Data.List.Nodup
import Mathlib.Data.List.Perm.Basic
import VoxelEngine.Voxel.Position

/-!
# Sets of positions

Sets of positions are kept in the order in which they are iterated, without repetitions.
-/

namespace VoxelEngine.Voxel

/-- `hash_set<tilepos>`, in the order in which it is iterated. -/
abbrev PositionSet := { positions : List TilePos // positions.Nodup }

namespace PositionSet

/-- A set without elements. -/
def empty : PositionSet :=
  ⟨[], List.nodup_nil⟩

/-- `hash_set::emplace` -/
def emplace (set : PositionSet) (pos : TilePos) : PositionSet :=
  ⟨set.1.insert pos, set.2.insert⟩

/-- `hash_set::erase` -/
def erase (set : PositionSet) (pos : TilePos) : PositionSet :=
  ⟨set.1.erase pos, set.2.erase pos⟩

/-- The elements that satisfy a condition. -/
def filter (set : PositionSet) (keep : TilePos → Bool) : PositionSet :=
  ⟨set.1.filter keep, set.2.filter keep⟩

/-- How often a position is in the set. -/
def count (set : PositionSet) (pos : TilePos) : Nat :=
  set.1.count pos

theorem count_eq (set : PositionSet) (pos : TilePos) :
    set.count pos = if pos ∈ set.1 then 1 else 0 :=
  List.Nodup.count set.2

theorem count_emplace {set : PositionSet} {added : TilePos} (absent : added ∉ set.1)
    (pos : TilePos) :
    (set.emplace added).count pos = set.count pos + if pos = added then 1 else 0 := by
  simp only [count, emplace, List.insert_of_not_mem absent, List.count_cons, beq_iff_eq]
  by_cases pos_eq : pos = added
  · simp [pos_eq]
  · simp [pos_eq, Ne.symm pos_eq]

theorem count_erase {set : PositionSet} {removed : TilePos} (mem : removed ∈ set.1)
    (pos : TilePos) :
    (set.erase removed).count pos + (if pos = removed then 1 else 0) = set.count pos := by
  have positive := List.count_pos_iff.mpr mem
  simp only [count, erase, List.count_erase, beq_iff_eq]
  by_cases pos_eq : pos = removed
  · subst pos_eq
    simp only [if_true]
    omega
  · simp [pos_eq, Ne.symm pos_eq]

theorem count_filter (set : PositionSet) (keep : TilePos → Bool) (pos : TilePos) :
    (set.filter keep).count pos = if keep pos then set.count pos else 0 := by
  rw [count_eq, count_eq]
  by_cases kept : keep pos = true
  · simp [filter, kept]
  · simp [filter, kept]

end PositionSet

/-- How many of some sets a position is in. -/
def covering (sets : List PositionSet) (pos : TilePos) : Nat :=
  sets.countP fun positions => pos ∈ positions.1

theorem covering_append_singleton (sets : List PositionSet) (positions : PositionSet)
    (pos : TilePos) :
    covering (sets ++ [positions]) pos =
      covering sets pos + if pos ∈ positions.1 then 1 else 0 := by
  simp [covering, List.countP_append, List.countP_singleton]

theorem covering_eraseIdx {sets : List PositionSet} {index : Nat} {positions : PositionSet}
    (found : sets[index]? = some positions) (pos : TilePos) :
    covering sets pos =
      covering (sets.eraseIdx index) pos + if pos ∈ positions.1 then 1 else 0 := by
  rcases List.getElem?_eq_some_iff.mp found with ⟨bound, rfl⟩
  have perm := List.getElem_cons_eraseIdx_perm bound
  rw [covering, ← perm.countP_eq, List.countP_cons]
  simp [covering]

theorem covering_pos_iff (sets : List PositionSet) (pos : TilePos) :
    0 < covering sets pos ↔ ∃ positions ∈ sets, pos ∈ positions.1 := by
  simp [covering, List.countP_pos_iff]

/-- The integers from `first` to `last`. -/
def integersFrom (first last : Int) : List Int :=
  (List.range (last + 1 - first).toNat).map fun offset : Nat => first + offset

theorem nodup_integersFrom (first last : Int) : (integersFrom first last).Nodup := by
  apply List.Nodup.map
  · intro left right equal
    simp only at equal
    omega
  · exact List.nodup_range

/-- The positions that `chunk_loader::spatial_foreach` visits. -/
def spatialPositions (center range : TilePos) : List TilePos :=
  (integersFrom (center.x - range.x) (center.x + range.x)).flatMap fun x =>
    (integersFrom (center.y - range.y) (center.y + range.y)).flatMap fun y =>
      (integersFrom (center.z - range.z) (center.z + range.z)).map fun z => ⟨x, y, z⟩

/-- No position is visited twice. -/
theorem nodup_spatialPositions (center range : TilePos) :
    (spatialPositions center range).Nodup := by
  apply List.nodup_flatMap.mpr
  constructor
  · intro x _
    apply List.nodup_flatMap.mpr
    constructor
    · intro y _
      apply List.Nodup.map
      · intro left right equal
        exact congrArg TilePos.z equal
      · exact nodup_integersFrom _ _
    · apply List.Pairwise.imp _ (nodup_integersFrom _ _)
      intro left right left_ne pos leftMem rightMem
      rcases List.mem_map.mp leftMem with ⟨_, _, rfl⟩
      rcases List.mem_map.mp rightMem with ⟨_, _, equal⟩
      exact left_ne (congrArg TilePos.y equal).symm
  · apply List.Pairwise.imp _ (nodup_integersFrom _ _)
    intro left right left_ne pos leftMem rightMem
    rcases List.mem_flatMap.mp leftMem with ⟨_, _, leftMem⟩
    rcases List.mem_flatMap.mp rightMem with ⟨_, _, rightMem⟩
    rcases List.mem_map.mp leftMem with ⟨_, _, rfl⟩
    rcases List.mem_map.mp rightMem with ⟨_, _, equal⟩
    exact left_ne (congrArg TilePos.x equal).symm

end VoxelEngine.Voxel
