import Mathlib.Logic.Function.Basic
import VoxelEngine.Voxel.Position
import VoxelEngine.Voxel.TileData

/-!
# Chunks and their write lock

A chunk owns the tiles of one cube of the world.  While it is locked, writes are queued
as pending changes, which are applied when the lock is released.
-/

namespace VoxelEngine.Voxel

/-- `chunk::data_t`, addressed by local position instead of by flattened index. -/
abbrev ChunkData := LocalPos → TileData

/-- A queued write. -/
abbrev PendingChange := LocalPos × TileData

/-- Apply queued writes in the order in which they were made. -/
def applyChanges (data : ChunkData) (changes : List PendingChange) : ChunkData :=
  changes.foldl (fun current change => Function.update current change.1 change.2) data

@[simp]
theorem applyChanges_nil (data : ChunkData) : applyChanges data [] = data :=
  rfl

theorem applyChanges_cons (data : ChunkData) (change : PendingChange)
    (changes : List PendingChange) :
    applyChanges data (change :: changes) =
      applyChanges (Function.update data change.1 change.2) changes :=
  rfl

/-- Places without a queued write keep their tile. -/
theorem applyChanges_of_forall_ne {changes : List PendingChange} {place : LocalPos}
    (absent : ∀ change ∈ changes, change.1 ≠ place) (data : ChunkData) :
    applyChanges data changes place = data place := by
  induction changes generalizing data with
  | nil => rfl
  | cons change rest ih =>
      rw [applyChanges_cons, ih fun other mem => absent other (List.mem_cons_of_mem _ mem)]
      exact Function.update_of_ne (absent change List.mem_cons_self).symm _ _

/-- `chunk` -/
structure Chunk where
  data : ChunkData
  locked : Bool
  pendingChanges : List PendingChange

/-- The order in which `spatial_iterate` visits the places of a chunk. -/
def places : List LocalPos :=
  (List.finRange chunkSize).flatMap fun x =>
    (List.finRange chunkSize).flatMap fun y =>
      (List.finRange chunkSize).map fun z => ⟨x, y, z⟩

@[simp]
theorem mem_places (place : LocalPos) : place ∈ places := by
  simp [places, LocalPos.ext_iff]

namespace Chunk

/-- A chunk with the given tiles, unlocked as all new chunks are. -/
def create (data : ChunkData) : Chunk :=
  ⟨data, false, []⟩

/-- `chunk::get_data` -/
def getData (chunk : Chunk) (place : LocalPos) : TileData :=
  chunk.data place

/-- `chunk::set_data`, which returns the old tile. -/
def setData (chunk : Chunk) (place : LocalPos) (td : TileData) : TileData × Chunk :=
  if chunk.locked then
    (chunk.data place, { chunk with pendingChanges := chunk.pendingChanges ++ [(place, td)] })
  else (chunk.data place, { chunk with data := Function.update chunk.data place td })

/-- `chunk::toggle_write_lock` -/
def toggleWriteLock (chunk : Chunk) (locked : Bool) : Chunk :=
  let toggled := { chunk with locked := locked }
  if locked then toggled
  else
    { toggled.pendingChanges.foldl
        (fun current change => (current.setData change.1 change.2).2) toggled with
      pendingChanges := [] }

/-- `chunk::has_pending_changes` -/
def hasPendingChanges (chunk : Chunk) : Bool :=
  !chunk.pendingChanges.isEmpty

/-- `chunk::set_chunk_data` -/
def setChunkData (chunk : Chunk) (data : ChunkData) : Chunk :=
  if chunk.locked then
    { chunk with pendingChanges := places.map fun place => (place, data place) }
  else { chunk with data := data }

theorem setData_of_locked {chunk : Chunk} (locked : chunk.locked = true) (place : LocalPos)
    (td : TileData) :
    (chunk.setData place td).2 =
      { chunk with pendingChanges := chunk.pendingChanges ++ [(place, td)] } := by
  rw [setData, if_pos locked]

theorem setData_of_unlocked {chunk : Chunk} (unlocked : chunk.locked = false)
    (place : LocalPos) (td : TileData) :
    (chunk.setData place td).2 =
      { chunk with data := Function.update chunk.data place td } := by
  rw [setData, if_neg (by simp [unlocked])]

@[simp]
theorem setData_locked (chunk : Chunk) (place : LocalPos) (td : TileData) :
    (chunk.setData place td).2.locked = chunk.locked := by
  unfold setData
  split <;> rfl

@[simp]
theorem toggleWriteLock_true (chunk : Chunk) :
    chunk.toggleWriteLock true = { chunk with locked := true } :=
  rfl

/-- Replaying queued writes on an unlocked chunk writes its tiles. -/
theorem foldl_setData_of_unlocked {chunk : Chunk} (unlocked : chunk.locked = false)
    (changes : List PendingChange) :
    changes.foldl (fun current change => (current.setData change.1 change.2).2) chunk =
      { chunk with data := applyChanges chunk.data changes } := by
  induction changes generalizing chunk with
  | nil => rfl
  | cons change rest ih =>
      rw [List.foldl_cons, setData_of_unlocked unlocked, applyChanges_cons]
      exact @ih { chunk with data := _ } unlocked

/-- Releasing the lock applies all pending changes. -/
@[simp]
theorem toggleWriteLock_false (chunk : Chunk) :
    chunk.toggleWriteLock false =
      ⟨applyChanges chunk.data chunk.pendingChanges, false, []⟩ := by
  simp only [toggleWriteLock, Bool.false_eq_true, if_false]
  rw [foldl_setData_of_unlocked rfl]

@[simp]
theorem hasPendingChanges_eq_false_iff (chunk : Chunk) :
    chunk.hasPendingChanges = false ↔ chunk.pendingChanges = [] := by
  simp [hasPendingChanges]

end Chunk

end VoxelEngine.Voxel
