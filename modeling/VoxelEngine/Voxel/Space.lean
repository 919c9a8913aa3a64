import VoxelEngine.Voxel.Chunk

/-!
# Voxel spaces

A space keeps the chunks that are loaded, each with a count of the loads it is held by,
the mesh that was last stored for it and whether that mesh has to be made anew.
-/

namespace VoxelEngine.Voxel

/-- `per_chunk_data::mesh_status` -/
inductive MeshStatus where
  | needsMeshing
  | meshing
  | meshed
  deriving DecidableEq

/-- `voxel_space::per_chunk_data`.  The address stands for the identity of the chunk
object, which is allocated when the chunk is generated. -/
structure PerChunkData (M : Type) where
  chunk : Chunk
  address : Nat
  subbuffer : M
  meshStatus : MeshStatus
  mostRecentMeshTask : UInt32
  loadCount : Nat

/-- What `voxel_space` keeps about chunks. -/
structure VoxelSpace (M : Type) where
  chunks : TilePos → Option (PerChunkData M)
  allocated : Nat

/-- `chunk_generator::generate`, which fills in the tiles of a new chunk.  Since the space
counts the chunks it allocated, the answer may depend on all earlier requests. -/
abbrev ChunkGenerator (M : Type) := VoxelSpace M → TilePos → ChunkData

/-- Ask for a new mesh. -/
def PerChunkData.needMesh {M : Type} (chunkData : PerChunkData M) : PerChunkData M :=
  { chunkData with meshStatus := .needsMeshing }

variable {M : Type}

@[simp]
theorem PerChunkData.needMesh_needMesh (chunkData : PerChunkData M) :
    chunkData.needMesh.needMesh = chunkData.needMesh :=
  rfl

namespace VoxelSpace

/-- A space in which nothing is loaded. -/
def empty : VoxelSpace M :=
  ⟨fun _ => none, 0⟩

/-- `voxel_space::is_loaded` -/
def isLoaded (space : VoxelSpace M) (chunkpos : TilePos) : Bool :=
  (space.chunks chunkpos).isSome

/-- The tiles of a chunk, if it is loaded. -/
def stored (space : VoxelSpace M) (chunkpos : TilePos) : Option ChunkData :=
  (space.chunks chunkpos).map fun chunkData => chunkData.chunk.data

/-- `voxel_space::get_data`, given the default state of the unknown tile. -/
def getData (space : VoxelSpace M) (unknown : TileData) (worldpos : TilePos) : TileData :=
  match space.chunks (toChunkpos worldpos) with
  | some chunkData => chunkData.chunk.getData (toLocalpos worldpos)
  | none => unknown

/-- Replace the entry of one chunk, if there is one. -/
def modify (space : VoxelSpace M) (chunkpos : TilePos)
    (change : PerChunkData M → PerChunkData M) : VoxelSpace M :=
  { space with
    chunks := Function.update space.chunks chunkpos ((space.chunks chunkpos).map change) }

/-- Put an entry in the table of chunks. -/
def insert (space : VoxelSpace M) (chunkpos : TilePos) (chunkData : PerChunkData M) :
    VoxelSpace M :=
  { space with chunks := Function.update space.chunks chunkpos (some chunkData) }

/-- Remove an entry from the table of chunks. -/
def erase (space : VoxelSpace M) (chunkpos : TilePos) : VoxelSpace M :=
  { space with chunks := Function.update space.chunks chunkpos none }

/-- The loops that ask for new meshes of the chunks found at some positions. -/
def requestMeshes (space : VoxelSpace M) (positions : List TilePos) : VoxelSpace M :=
  positions.foldl (fun current pos => current.modify pos PerChunkData.needMesh) space

/-- The chunks next to a given one. -/
def neighbours (chunkpos : TilePos) : List TilePos :=
  directions.map chunkpos.towards

/-- The other chunks that a tile touches. -/
def touchedNeighbours (worldpos : TilePos) : List TilePos :=
  (directions.map fun dir => toChunkpos (worldpos.towards dir)).filter
    fun pos => pos ≠ toChunkpos worldpos

/-- `voxel_space::set_data`, which returns the old tile. -/
def setData (space : VoxelSpace M) (unknown : TileData) (worldpos : TilePos)
    (td : TileData) : TileData × VoxelSpace M :=
  match space.chunks (toChunkpos worldpos) with
  | some chunkData =>
      let written := chunkData.chunk.setData (toLocalpos worldpos) td
      (written.1,
        (space.insert (toChunkpos worldpos)
          { chunkData with chunk := written.2, meshStatus := .needsMeshing }).requestMeshes
            (touchedNeighbours worldpos))
  | none => (unknown, space)

/-- What a chunk's entry is when it was just generated. -/
def newChunk [Inhabited M] (space : VoxelSpace M) (generated : ChunkData) :
    PerChunkData M where
  chunk := Chunk.create generated
  address := space.allocated
  subbuffer := default
  meshStatus := .needsMeshing
  mostRecentMeshTask := 0
  loadCount := 1

/-- `voxel_space::load_chunk` -/
def loadChunk [Inhabited M] (generate : ChunkGenerator M) (space : VoxelSpace M)
    (chunkpos : TilePos) : VoxelSpace M :=
  match space.chunks chunkpos with
  | some chunkData =>
      space.insert chunkpos { chunkData with loadCount := chunkData.loadCount + 1 }
  | none =>
      ({ space with allocated := space.allocated + 1 }.insert chunkpos
        (space.newChunk (generate space chunkpos))).requestMeshes (neighbours chunkpos)

/-- `voxel_space::unload_chunk` -/
def unloadChunk (space : VoxelSpace M) (chunkpos : TilePos) : VoxelSpace M :=
  match space.chunks chunkpos with
  | some chunkData =>
      if chunkData.loadCount - 1 = 0 then
        (space.erase chunkpos).requestMeshes (neighbours chunkpos)
      else space.insert chunkpos { chunkData with loadCount := chunkData.loadCount - 1 }
  | none => space

@[simp]
theorem mem_neighbours (chunkpos pos : TilePos) :
    pos ∈ neighbours chunkpos ↔ ∃ dir, chunkpos.towards dir = pos := by
  simp [neighbours]

@[simp]
theorem self_notMem_neighbours (chunkpos : TilePos) : chunkpos ∉ neighbours chunkpos := by
  rw [mem_neighbours]
  rintro ⟨dir, equal⟩
  exact towards_ne chunkpos dir equal

@[simp]
theorem mem_touchedNeighbours (worldpos pos : TilePos) :
    pos ∈ touchedNeighbours worldpos ↔
      pos ≠ toChunkpos worldpos ∧ ∃ dir, toChunkpos (worldpos.towards dir) = pos := by
  simp [touchedNeighbours, and_comm]

/-- Asking for meshes changes nothing but the status of the chunks found. -/
theorem requestMeshes_chunks (space : VoxelSpace M) (positions : List TilePos)
    (pos : TilePos) :
    (space.requestMeshes positions).chunks pos =
      if pos ∈ positions then (space.chunks pos).map PerChunkData.needMesh
      else space.chunks pos := by
  induction positions generalizing space with
  | nil => rfl
  | cons first rest ih =>
      rw [requestMeshes, List.foldl_cons, ← requestMeshes, ih]
      by_cases first_eq : pos = first
      · subst first_eq
        simp [modify, Function.comp_def]
      · simp [modify, first_eq]

@[simp]
theorem insert_chunks_self (space : VoxelSpace M) (chunkpos : TilePos)
    (chunkData : PerChunkData M) :
    (space.insert chunkpos chunkData).chunks chunkpos = some chunkData :=
  Function.update_self ..

theorem insert_chunks_of_ne {chunkpos pos : TilePos} (pos_ne : pos ≠ chunkpos)
    (space : VoxelSpace M) (chunkData : PerChunkData M) :
    (space.insert chunkpos chunkData).chunks pos = space.chunks pos :=
  Function.update_of_ne pos_ne ..

theorem modify_chunks_of_ne {chunkpos pos : TilePos} (pos_ne : pos ≠ chunkpos)
    (space : VoxelSpace M) (change : PerChunkData M → PerChunkData M) :
    (space.modify chunkpos change).chunks pos = space.chunks pos :=
  Function.update_of_ne pos_ne ..

@[simp]
theorem modify_chunks_self (space : VoxelSpace M) (chunkpos : TilePos)
    (change : PerChunkData M → PerChunkData M) :
    (space.modify chunkpos change).chunks chunkpos = (space.chunks chunkpos).map change :=
  Function.update_self ..

/-- Putting back a changed entry is changing it in place. -/
theorem insert_eq_modify {space : VoxelSpace M} {chunkpos : TilePos}
    {chunkData : PerChunkData M} (present : space.chunks chunkpos = some chunkData)
    (change : PerChunkData M → PerChunkData M) :
    space.insert chunkpos (change chunkData) = space.modify chunkpos change := by
  rw [insert, modify, present, Option.map_some]

/-- A write to a loaded chunk changes that chunk and asks for meshes of it and of the
other chunks that the tile touches. -/
theorem setData_chunks {space : VoxelSpace M} {worldpos : TilePos}
    {chunkData : PerChunkData M}
    (present : space.chunks (toChunkpos worldpos) = some chunkData) (unknown td : TileData)
    (pos : TilePos) :
    (space.setData unknown worldpos td).2.chunks pos =
      if pos = toChunkpos worldpos then
        some
          { chunkData with
            chunk := (chunkData.chunk.setData (toLocalpos worldpos) td).2
            meshStatus := .needsMeshing }
      else if pos ∈ touchedNeighbours worldpos then
        (space.chunks pos).map PerChunkData.needMesh
      else space.chunks pos := by
  unfold setData
  rw [present]
  simp only [requestMeshes_chunks]
  by_cases pos_eq : pos = toChunkpos worldpos
  · subst pos_eq
    rw [if_neg (by simp), if_pos rfl, insert_chunks_self]
  · rw [insert_chunks_of_ne pos_eq, if_neg pos_eq]

/-- A write to a chunk that is not loaded is ignored. -/
theorem setData_of_absent {space : VoxelSpace M} {worldpos : TilePos}
    (absent : space.chunks (toChunkpos worldpos) = none) (unknown td : TileData) :
    (space.setData unknown worldpos td).2 = space := by
  unfold setData
  rw [absent]

/-- Loading a loaded chunk counts one load more. -/
theorem loadChunk_of_present [Inhabited M] {space : VoxelSpace M} {chunkpos : TilePos}
    {chunkData : PerChunkData M} (present : space.chunks chunkpos = some chunkData)
    (generate : ChunkGenerator M) :
    space.loadChunk generate chunkpos =
      space.insert chunkpos { chunkData with loadCount := chunkData.loadCount + 1 } := by
  unfold loadChunk
  rw [present]

/-- Loading generates a chunk that is not there and asks for meshes of its neighbours. -/
theorem loadChunk_chunks_of_absent [Inhabited M] {space : VoxelSpace M}
    {chunkpos : TilePos} (absent : space.chunks chunkpos = none)
    (generate : ChunkGenerator M) (pos : TilePos) :
    (space.loadChunk generate chunkpos).chunks pos =
      if pos = chunkpos then some (space.newChunk (generate space chunkpos))
      else if pos ∈ neighbours chunkpos then (space.chunks pos).map PerChunkData.needMesh
      else space.chunks pos := by
  unfold loadChunk
  rw [absent]
  simp only [requestMeshes_chunks]
  by_cases pos_eq : pos = chunkpos
  · subst pos_eq
    rw [if_neg (self_notMem_neighbours pos), if_pos rfl, insert_chunks_self]
  · rw [insert_chunks_of_ne pos_eq, if_neg pos_eq]

/-- The last unload removes the chunk and asks for meshes of its neighbours. -/
theorem unloadChunk_chunks_of_last {space : VoxelSpace M} {chunkpos : TilePos}
    {chunkData : PerChunkData M} (present : space.chunks chunkpos = some chunkData)
    (last : chunkData.loadCount - 1 = 0) (pos : TilePos) :
    (space.unloadChunk chunkpos).chunks pos =
      if pos = chunkpos then none
      else if pos ∈ neighbours chunkpos then (space.chunks pos).map PerChunkData.needMesh
      else space.chunks pos := by
  unfold unloadChunk
  rw [present]
  simp only [if_pos last, requestMeshes_chunks]
  by_cases pos_eq : pos = chunkpos
  · subst pos_eq
    rw [if_neg (self_notMem_neighbours pos), if_pos rfl, erase]
    exact Function.update_self ..
  · rw [if_neg pos_eq, erase]
    simp only [Function.update_of_ne pos_eq]

/-- Any other unload of a loaded chunk counts one load less. -/
theorem unloadChunk_of_held {space : VoxelSpace M} {chunkpos : TilePos}
    {chunkData : PerChunkData M} (present : space.chunks chunkpos = some chunkData)
    (held : chunkData.loadCount - 1 ≠ 0) :
    space.unloadChunk chunkpos =
      space.insert chunkpos { chunkData with loadCount := chunkData.loadCount - 1 } := by
  unfold unloadChunk
  rw [present]
  exact if_neg held

/-- Unloading a chunk that is not loaded is ignored. -/
theorem unloadChunk_of_absent {space : VoxelSpace M} {chunkpos : TilePos}
    (absent : space.chunks chunkpos = none) : space.unloadChunk chunkpos = space := by
  unfold unloadChunk
  rw [absent]

@[simp]
theorem isLoaded_modify (space : VoxelSpace M) (chunkpos : TilePos)
    (change : PerChunkData M → PerChunkData M) (pos : TilePos) :
    (space.modify chunkpos change).isLoaded pos = space.isLoaded pos := by
  unfold isLoaded
  by_cases pos_eq : pos = chunkpos
  · rw [pos_eq, modify_chunks_self, Option.isSome_map]
  · rw [modify_chunks_of_ne pos_eq]

/-- Writing tiles neither loads nor unloads chunks. -/
@[simp]
theorem isLoaded_setData (space : VoxelSpace M) (unknown td : TileData)
    (worldpos pos : TilePos) :
    (space.setData unknown worldpos td).2.isLoaded pos = space.isLoaded pos := by
  cases own : space.chunks (toChunkpos worldpos) with
  | none => rw [setData_of_absent own]
  | some chunkData =>
      unfold isLoaded
      rw [setData_chunks own]
      split
      · rename_i pos_eq
        rw [pos_eq, own, Option.isSome_some, Option.isSome_some]
      · split
        · rw [Option.isSome_map]
        · rfl

/-- After a load the chunk is there, and all others are there if they were. -/
@[simp]
theorem isLoaded_loadChunk [Inhabited M] (generate : ChunkGenerator M)
    (space : VoxelSpace M) (chunkpos pos : TilePos) :
    (space.loadChunk generate chunkpos).isLoaded pos =
      (decide (pos = chunkpos) || space.isLoaded pos) := by
  unfold isLoaded
  cases own : space.chunks chunkpos with
  | some chunkData =>
      rw [loadChunk_of_present own]
      by_cases pos_eq : pos = chunkpos
      · simp [pos_eq]
      · simp [insert_chunks_of_ne pos_eq, pos_eq]
  | none =>
      rw [loadChunk_chunks_of_absent own]
      by_cases pos_eq : pos = chunkpos
      · simp [pos_eq]
      · rw [if_neg pos_eq]
        split <;> simp [pos_eq]

/-- An unload does not bring chunks into being. -/
theorem isLoaded_of_isLoaded_unloadChunk {space : VoxelSpace M} {chunkpos pos : TilePos}
    (loaded : (space.unloadChunk chunkpos).isLoaded pos = true) :
    space.isLoaded pos = true := by
  unfold isLoaded at loaded ⊢
  cases own : space.chunks chunkpos with
  | none =>
      rw [unloadChunk_of_absent own] at loaded
      exact loaded
  | some chunkData =>
      by_cases last : chunkData.loadCount - 1 = 0
      · rw [unloadChunk_chunks_of_last own last] at loaded
        split at loaded
        · exact absurd loaded (by simp)
        · split at loaded
          · rwa [Option.isSome_map] at loaded
          · exact loaded
      · rw [unloadChunk_of_held own last] at loaded
        by_cases pos_eq : pos = chunkpos
        · rw [pos_eq, own, Option.isSome_some]
        · rwa [insert_chunks_of_ne pos_eq] at loaded

end VoxelSpace

end VoxelEngine.Voxel

/-!
## Chunk lockers

A locker keeps a set of chunks loaded and their data locked while it exists.
-/

namespace VoxelEngine.Voxel

namespace VoxelSpace

variable {M : Type} [Inhabited M]

/-- The constructor of `chunk_locker`: attaching its loader loads the chunks, which are
then locked. -/
def lockChunks (generate : ChunkGenerator M) (space : VoxelSpace M)
    (positions : List TilePos) : VoxelSpace M :=
  positions.foldl
    (fun current pos =>
      current.modify pos fun chunkData =>
        { chunkData with chunk := chunkData.chunk.toggleWriteLock true })
    (positions.foldl (loadChunk generate) space)

omit [Inhabited M] in
/-- The loop of the destructor that releases the locks. -/
def unlockChunks (space : VoxelSpace M) (positions : List TilePos) : VoxelSpace M :=
  positions.foldl
    (fun current pos =>
      current.modify pos fun chunkData =>
        { chunkData with chunk := chunkData.chunk.toggleWriteLock false })
    space

omit [Inhabited M] in
/-- The destructor of `chunk_locker`: the locks are released, which is not defined for
chunks that are gone, and detaching the loader unloads the chunks. -/
def releaseChunks (space : VoxelSpace M) (positions : List TilePos) :
    Option (VoxelSpace M) :=
  if positions.all space.isLoaded then
    some (positions.foldl unloadChunk (space.unlockChunks positions))
  else none

omit [Inhabited M] in
@[simp]
theorem isLoaded_foldl_modify (change : PerChunkData M → PerChunkData M)
    (space : VoxelSpace M) (positions : List TilePos) (pos : TilePos) :
    (positions.foldl (fun current pos => current.modify pos change) space).isLoaded pos =
      space.isLoaded pos := by
  induction positions generalizing space with
  | nil => rfl
  | cons first rest ih => rw [List.foldl_cons, ih, isLoaded_modify]

omit [Inhabited M] in
theorem isLoaded_of_isLoaded_foldl_unloadChunk {positions : List TilePos}
    {space : VoxelSpace M} {pos : TilePos}
    (loaded : (positions.foldl unloadChunk space).isLoaded pos = true) :
    space.isLoaded pos = true := by
  induction positions generalizing space with
  | nil => exact loaded
  | cons first rest ih => exact isLoaded_of_isLoaded_unloadChunk (ih loaded)

omit [Inhabited M] in
/-- Destroying a locker does not bring chunks into being. -/
theorem isLoaded_of_releaseChunks {space released : VoxelSpace M} {positions : List TilePos}
    (releaseEq : space.releaseChunks positions = some released) {pos : TilePos}
    (loaded : released.isLoaded pos = true) : space.isLoaded pos = true := by
  unfold releaseChunks at releaseEq
  split at releaseEq
  · rw [← Option.some.inj releaseEq] at loaded
    have unlocked := isLoaded_of_isLoaded_foldl_unloadChunk loaded
    rwa [unlockChunks, isLoaded_foldl_modify] at unlocked
  · cases releaseEq

end VoxelSpace

end VoxelEngine.Voxel
