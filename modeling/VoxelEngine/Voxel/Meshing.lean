import VoxelEngine.Transition.Run
import VoxelEngine.Voxel.Space
import VoxelEngine.Voxel.ChunkMesher

/-!
# Mesh tasks

The main thread starts a task for every chunk that needs a new mesh.  A worker reads the
chunks that the task points to, and back on the main thread the result is stored and the
locker of the task is destroyed.
-/

namespace VoxelEngine.Voxel

open VoxelEngine.Transition

/-- `mesh_task`: the chunks it has locked, the objects it points to, and what its worker
has read from them so far. -/
structure MeshTask where
  positions : List TilePos
  addresses : TilePos → Option Nat
  chunkpos : TilePos
  taskId : UInt64
  seen : TilePos → Option ChunkData

/-- A space and the mesh tasks in flight. -/
structure MeshingSpace (V : Type) where
  space : VoxelSpace (TileMesh V)
  tasks : List MeshTask

/-- What can happen to the space.  The order of an update is the order in which its loop
comes to the chunks. -/
inductive MeshingAction where
  | setData (worldpos : TilePos) (td : TileData)
  | loadChunk (chunkpos : TilePos)
  | unloadChunk (chunkpos : TilePos)
  | updateMeshes (order : List TilePos)
  | readChunk (index : Nat) (pos : TilePos)
  | completeTask (index : Nat)

/-- Queued writes of a chunk. -/
def VoxelSpace.pending {M : Type} (space : VoxelSpace M) (chunkpos : TilePos) :
    List PendingChange :=
  match space.chunks chunkpos with
  | some chunkData => chunkData.chunk.pendingChanges
  | none => []

/-- The chunk object that a pointer to a loaded chunk points to. -/
def VoxelSpace.address {M : Type} (space : VoxelSpace M) (chunkpos : TilePos) : Option Nat :=
  (space.chunks chunkpos).map PerChunkData.address

variable {T V : Type} [Tile T] [DecidableEq T]

/-- The mesh that the worker of a task makes from what it has read. -/
def MeshTask.mesh (mesher : Mesher T V) (task : MeshTask) : TileMesh V :=
  match task.seen task.chunkpos with
  | some chunk => mesher.meshChunk (Mesher.neighbourhood task.seen task.chunkpos chunk)
  | none => default

/-- Whether the worker of a task has read everything. -/
def MeshTask.finished (task : MeshTask) : Bool :=
  task.positions.all fun pos => (task.seen pos).isSome

namespace MeshingSpace

/-- Nothing is loaded and no task is in flight. -/
def empty : MeshingSpace V :=
  ⟨VoxelSpace.empty, []⟩

/-- The chunks that a new task for a chunk locks. -/
def taskPositions (space : VoxelSpace (TileMesh V)) (chunkpos : TilePos) : List TilePos :=
  chunkpos :: (VoxelSpace.neighbours chunkpos).filter space.isLoaded

/-- The task that is created for a chunk, with pointers to the chunks it locks. -/
def newTask (space : VoxelSpace (TileMesh V)) (chunkpos : TilePos)
    (chunkData : PerChunkData (TileMesh V)) : MeshTask where
  positions := taskPositions space chunkpos
  addresses := space.address
  chunkpos := chunkpos
  taskId := (chunkData.mostRecentMeshTask + 1).toUInt64
  seen _ := none

/-- Mark a chunk as being meshed, lock what its task points to and start the task. -/
def startTask (generate : ChunkGenerator (TileMesh V)) (state : MeshingSpace V)
    (chunkpos : TilePos) (chunkData : PerChunkData (TileMesh V)) : MeshingSpace V where
  space :=
    (state.space.insert chunkpos
      { chunkData with
        meshStatus := .meshing
        mostRecentMeshTask := chunkData.mostRecentMeshTask + 1 }).lockChunks generate
      (taskPositions state.space chunkpos)
  tasks := state.tasks ++ [newTask state.space chunkpos chunkData]

/-- The body of the loop of `voxel_space::update_meshes`. -/
def updateMeshesAt (generate : ChunkGenerator (TileMesh V)) (state : MeshingSpace V)
    (chunkpos : TilePos) : MeshingSpace V :=
  match state.space.chunks chunkpos with
  | some chunkData =>
      if chunkData.chunk.hasPendingChanges then state
      else if chunkData.meshStatus = .needsMeshing then
        state.startTask generate chunkpos chunkData
      else state
  | none => state

/-- `voxel_space::update_meshes` -/
def updateMeshes (generate : ChunkGenerator (TileMesh V)) (state : MeshingSpace V)
    (order : List TilePos) : MeshingSpace V :=
  order.foldl (updateMeshesAt generate) state

/-- The worker of a task reads one of the chunks it points to, which is not defined if
that object is gone. -/
def readChunk (state : MeshingSpace V) (index : Nat) (pos : TilePos) :
    Option (MeshingSpace V) :=
  state.tasks[index]?.bind fun task =>
    (state.space.stored pos).bind fun data =>
      if pos ∈ task.positions ∧ state.space.address pos = task.addresses pos then
        some
          { state with
            tasks := state.tasks.set index
              { task with seen := Function.update task.seen pos (some data) } }
      else none

/-- Store the mesh of a task unless a newer task was started for its chunk. -/
def storeMesh (mesher : Mesher T V) (space : VoxelSpace (TileMesh V)) (task : MeshTask)
    (chunkData : PerChunkData (TileMesh V)) : VoxelSpace (TileMesh V) :=
  if chunkData.mostRecentMeshTask.toUInt64 = task.taskId then
    space.insert task.chunkpos
      { chunkData with subbuffer := task.mesh mesher, meshStatus := .meshed }
  else space

/-- The part of `mesh_task` that runs on the main thread when the mesh is there. -/
def completeTask (mesher : Mesher T V) (state : MeshingSpace V) (index : Nat) :
    Option (MeshingSpace V) :=
  state.tasks[index]?.bind fun task =>
    (state.space.chunks task.chunkpos).bind fun chunkData =>
      if task.finished then
        ((storeMesh mesher state.space task chunkData).releaseChunks task.positions).map
          fun released => ⟨released, state.tasks.eraseIdx index⟩
      else none

/-- The transition relation of a space and its mesh tasks. -/
def step (mesher : Mesher T V) (generate : ChunkGenerator (TileMesh V)) :
    Step (MeshingSpace V) MeshingAction
  | state, .setData worldpos td =>
      some { state with space := (state.space.setData mesher.unknownTileData worldpos td).2 }
  | state, .loadChunk chunkpos =>
      some { state with space := state.space.loadChunk generate chunkpos }
  | state, .unloadChunk chunkpos =>
      some { state with space := state.space.unloadChunk chunkpos }
  | state, .updateMeshes order => some (state.updateMeshes generate order)
  | state, .readChunk index pos => state.readChunk index pos
  | state, .completeTask index => state.completeTask mesher index

end MeshingSpace

end VoxelEngine.Voxel
