import VoxelEngine.Data.Update
import VoxelEngine.Voxel.Space

/-!
# The entry of one chunk

Apart from requests for meshes, every operation on a space is about single chunks.  The
entry of a chunk, its tiles and lock and the number of loads it is held by, tells what
each operation does to the chunk it is about, and that it does nothing to any other.
-/

namespace VoxelEngine.Voxel

open VoxelEngine.Data

/-- A chunk and its load count. -/
abbrev ChunkEntry := Chunk × Nat

namespace VoxelSpace

variable {M : Type}

/-- What a space keeps of a chunk besides its mesh. -/
def entry (space : VoxelSpace M) (pos : TilePos) : Option ChunkEntry :=
  (space.chunks pos).map fun chunkData => (chunkData.chunk, chunkData.loadCount)

@[simp]
theorem entry_empty (pos : TilePos) : (empty : VoxelSpace M).entry pos = none :=
  rfl

theorem isLoaded_eq_isSome_entry (space : VoxelSpace M) (pos : TilePos) :
    space.isLoaded pos = (space.entry pos).isSome := by
  rw [isLoaded, entry, Option.isSome_map]

theorem stored_eq_map_entry (space : VoxelSpace M) (pos : TilePos) :
    space.stored pos = (space.entry pos).map fun found => found.1.data := by
  rw [stored, entry, Option.map_map]
  rfl

theorem entry_needMesh {before after : VoxelSpace M} {pos : TilePos} (asked : Prop)
    [Decidable asked]
    (chunksEq : after.chunks pos =
      if asked then (before.chunks pos).map PerChunkData.needMesh else before.chunks pos) :
    after.entry pos = before.entry pos := by
  unfold entry
  rw [chunksEq]
  split
  · rw [Option.map_map]
    rfl
  · rfl

/-- A write reaches the chunk it is in. -/
theorem entry_setData (space : VoxelSpace M) (unknown td : TileData)
    (worldpos pos : TilePos) :
    (space.setData unknown worldpos td).2.entry pos =
      if pos = toChunkpos worldpos then
        (space.entry pos).map fun found => ((found.1.setData (toLocalpos worldpos) td).2, found.2)
      else space.entry pos := by
  cases own : space.chunks (toChunkpos worldpos) with
  | none =>
      rw [setData_of_absent own]
      split
      · rename_i pos_eq
        rw [pos_eq, entry, own]
        rfl
      · rfl
  | some chunkData =>
      by_cases pos_eq : pos = toChunkpos worldpos
      · rw [if_pos pos_eq, pos_eq, entry, setData_chunks own, if_pos rfl, entry, own]
        rfl
      · rw [if_neg pos_eq]
        refine entry_needMesh (pos ∈ touchedNeighbours worldpos) ?_
        rw [setData_chunks own, if_neg pos_eq]

/-- The entry of a chunk after one more load. -/
def loadedEntry (generated : ChunkData) : Option ChunkEntry → ChunkEntry
  | some (chunk, count) => (chunk, count + 1)
  | none => (Chunk.create generated, 1)

/-- The entry of a chunk after one load less. -/
def unloadedEntry : Option ChunkEntry → Option ChunkEntry
  | some (chunk, count) => if count - 1 = 0 then none else some (chunk, count - 1)
  | none => none

@[simp]
theorem entry_loadChunk_self [Inhabited M] (generate : ChunkGenerator M)
    (space : VoxelSpace M) (chunkpos : TilePos) :
    (space.loadChunk generate chunkpos).entry chunkpos =
      some (loadedEntry (generate space chunkpos) (space.entry chunkpos)) := by
  cases own : space.chunks chunkpos with
  | some chunkData =>
      rw [loadChunk_of_present own, entry, insert_chunks_self, entry, own]
      rfl
  | none =>
      rw [entry, loadChunk_chunks_of_absent own, if_pos rfl, entry, own]
      rfl

theorem entry_loadChunk_of_ne [Inhabited M] (generate : ChunkGenerator M)
    (space : VoxelSpace M) {chunkpos pos : TilePos} (pos_ne : pos ≠ chunkpos) :
    (space.loadChunk generate chunkpos).entry pos = space.entry pos := by
  cases own : space.chunks chunkpos with
  | some chunkData =>
      rw [loadChunk_of_present own, entry, insert_chunks_of_ne pos_ne, entry]
  | none =>
      refine entry_needMesh (pos ∈ neighbours chunkpos) ?_
      rw [loadChunk_chunks_of_absent own, if_neg pos_ne]

@[simp]
theorem entry_unloadChunk_self (space : VoxelSpace M) (chunkpos : TilePos) :
    (space.unloadChunk chunkpos).entry chunkpos = unloadedEntry (space.entry chunkpos) := by
  cases own : space.chunks chunkpos with
  | none =>
      rw [unloadChunk_of_absent own, entry, own]
      rfl
  | some chunkData =>
      by_cases last : chunkData.loadCount - 1 = 0
      · rw [entry, unloadChunk_chunks_of_last own last, if_pos rfl, entry, own]
        exact (if_pos last).symm
      · rw [unloadChunk_of_held own last, entry, insert_chunks_self, entry, own]
        exact (if_neg last).symm

theorem entry_unloadChunk_of_ne (space : VoxelSpace M) {chunkpos pos : TilePos}
    (pos_ne : pos ≠ chunkpos) :
    (space.unloadChunk chunkpos).entry pos = space.entry pos := by
  cases own : space.chunks chunkpos with
  | none => rw [unloadChunk_of_absent own]
  | some chunkData =>
      by_cases last : chunkData.loadCount - 1 = 0
      · refine entry_needMesh (pos ∈ neighbours chunkpos) ?_
        rw [unloadChunk_chunks_of_last own last, if_neg pos_ne]
      · rw [unloadChunk_of_held own last, entry, insert_chunks_of_ne pos_ne, entry]

/-- Toggling a lock reaches one chunk. -/
@[simp]
theorem entry_toggle_self (space : VoxelSpace M) (chunkpos : TilePos) (locked : Bool) :
    (space.modify chunkpos fun chunkData =>
      { chunkData with chunk := chunkData.chunk.toggleWriteLock locked }).entry chunkpos =
        (space.entry chunkpos).map fun found => (found.1.toggleWriteLock locked, found.2) := by
  rw [entry, modify_chunks_self, entry, Option.map_map, Option.map_map]
  rfl

theorem entry_toggle_of_ne (space : VoxelSpace M) {chunkpos pos : TilePos}
    (pos_ne : pos ≠ chunkpos) (locked : Bool) :
    (space.modify chunkpos fun chunkData =>
      { chunkData with chunk := chunkData.chunk.toggleWriteLock locked }).entry pos =
        space.entry pos := by
  rw [entry, modify_chunks_of_ne pos_ne, entry]

/-- Creating a locker loads and locks its chunks. -/
theorem entry_lockChunks [Inhabited M] (generate : ChunkGenerator M) (space : VoxelSpace M)
    {positions : List TilePos} (nodup : positions.Nodup) {pos : TilePos}
    (mem : pos ∈ positions) :
    ∃ generated, (space.lockChunks generate positions).entry pos =
      some (((loadedEntry generated (space.entry pos)).1.toggleWriteLock true),
        (loadedEntry generated (space.entry pos)).2) := by
  obtain ⟨loading, loadingEq, loadedEq⟩ := view_foldl_of_mem entry
    (fun state visited key key_ne => entry_loadChunk_of_ne generate state key_ne) nodup mem space
  obtain ⟨locking, lockingEq, lockedEq⟩ := view_foldl_of_mem entry
    (fun state visited key key_ne => entry_toggle_of_ne state key_ne true) nodup mem
    (positions.foldl (loadChunk generate) space)
  refine ⟨generate loading pos, ?_⟩
  rw [lockChunks, lockedEq, entry_toggle_self, lockingEq, loadedEq, entry_loadChunk_self,
    loadingEq]
  rfl

theorem entry_lockChunks_of_notMem [Inhabited M] (generate : ChunkGenerator M)
    (space : VoxelSpace M) {positions : List TilePos} {pos : TilePos}
    (absent : pos ∉ positions) :
    (space.lockChunks generate positions).entry pos = space.entry pos := by
  rw [lockChunks, view_foldl_of_notMem entry
    (fun state visited key key_ne => entry_toggle_of_ne state key_ne true) absent,
    view_foldl_of_notMem entry
      (fun state visited key key_ne => entry_loadChunk_of_ne generate state key_ne) absent]

/-- Destroying a locker releases the lock of its chunks and then unloads them. -/
theorem entry_releaseChunks {space released : VoxelSpace M} {positions : List TilePos}
    (nodup : positions.Nodup) (releaseEq : space.releaseChunks positions = some released)
    {pos : TilePos} (mem : pos ∈ positions) :
    released.entry pos = unloadedEntry
      ((space.entry pos).map fun found => (found.1.toggleWriteLock false, found.2)) := by
  unfold releaseChunks at releaseEq
  split at releaseEq
  · obtain ⟨unlocking, unlockingEq, unlockedEq⟩ := view_foldl_of_mem entry
      (fun state visited key key_ne => entry_toggle_of_ne state key_ne false) nodup mem space
    obtain ⟨unloading, unloadingEq, unloadedEq⟩ := view_foldl_of_mem entry
      (fun state visited key key_ne => entry_unloadChunk_of_ne state key_ne) nodup mem
      (space.unlockChunks positions)
    rw [← Option.some.inj releaseEq, unloadedEq, entry_unloadChunk_self, unloadingEq,
      unlockChunks, unlockedEq, entry_toggle_self, unlockingEq]
  · cases releaseEq

theorem entry_releaseChunks_of_notMem {space released : VoxelSpace M}
    {positions : List TilePos} (releaseEq : space.releaseChunks positions = some released)
    {pos : TilePos} (absent : pos ∉ positions) : released.entry pos = space.entry pos := by
  unfold releaseChunks at releaseEq
  split at releaseEq
  · rw [← Option.some.inj releaseEq, view_foldl_of_notMem entry
      (fun state visited key key_ne => entry_unloadChunk_of_ne state key_ne) absent,
      unlockChunks, view_foldl_of_notMem entry
        (fun state visited key key_ne => entry_toggle_of_ne state key_ne false) absent]
  · cases releaseEq

end VoxelSpace

end VoxelEngine.Voxel
