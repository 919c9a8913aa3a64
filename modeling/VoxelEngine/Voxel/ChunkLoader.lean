import VoxelEngine.Transition.Run
import VoxelEngine.Voxel.PositionSet
import VoxelEngine.Voxel.Space

/-!
# Chunk loaders

A loader keeps chunks of the spaces it is attached to loaded.  Each kind of loader keeps
track of the chunks it holds in its own way.
-/

namespace VoxelEngine.Voxel

open VoxelEngine.Transition

/-- What a `remote_loader` was told to load and to unload, and what it has loaded. -/
structure LoadQueues where
  pending : PositionSet
  loaded : PositionSet
  unloaded : PositionSet

/-- The kinds of chunk loaders.  What a `remote_loader` knows as a generator is left to
the module on replication. -/
inductive ChunkLoader where
  /-- `point_loader` -/
  | point (center range : TilePos)
  /-- `multi_chunk_loader` -/
  | multiChunk (loadedChunks : PositionSet) (pendingLoads : List TilePos)
  /-- `entity_loader` -/
  | entity (range : TilePos) (loaded : PositionSet)
  /-- `remote_loader` -/
  | remote (queues : LoadQueues)

/-- The arguments with which loaders are constructed. -/
inductive LoaderKind where
  | point (center range : TilePos)
  | multiChunk (loadedChunks : PositionSet)
  | entity (range : TilePos)
  | remote

/-- The constructors of the loaders. -/
def LoaderKind.construct : LoaderKind → ChunkLoader
  | point center range => .point center range
  | multiChunk loadedChunks => .multiChunk loadedChunks []
  | entity range => .entity range PositionSet.empty
  | remote => .remote ⟨PositionSet.empty, PositionSet.empty, PositionSet.empty⟩

variable {M : Type} [Inhabited M]

/-- The loops that load a list of chunks. -/
def VoxelSpace.loadAll (generate : ChunkGenerator M) (space : VoxelSpace M)
    (positions : List TilePos) : VoxelSpace M :=
  positions.foldl (VoxelSpace.loadChunk generate) space

omit [Inhabited M] in
/-- The loops that unload a list of chunks. -/
def VoxelSpace.unloadAll (space : VoxelSpace M) (positions : List TilePos) : VoxelSpace M :=
  positions.foldl VoxelSpace.unloadChunk space

/-- Note a chunk as loaded, and load it if it was not. -/
def emplaceAndLoad (generate : ChunkGenerator M) (state : PositionSet × VoxelSpace M)
    (pos : TilePos) : PositionSet × VoxelSpace M :=
  if pos ∈ state.1.1 then state
  else (state.1.emplace pos, state.2.loadChunk generate pos)

omit [Inhabited M] in
/-- Unload a chunk that was noted as loaded. -/
def eraseAndUnload (state : PositionSet × VoxelSpace M) (pos : TilePos) :
    PositionSet × VoxelSpace M :=
  if pos ∈ state.1.1 then (state.1.erase pos, state.2.unloadChunk pos) else state

/-- `entity_loader::update_loaded`, as far as the space is concerned. -/
def updateLoaded (generate : ChunkGenerator M) (space : VoxelSpace M)
    (loaded newLoaded : PositionSet) : VoxelSpace M :=
  (space.unloadAll (loaded.filter fun pos => pos ∉ newLoaded.1).1).loadAll generate
    (newLoaded.filter fun pos => pos ∉ loaded.1).1

namespace LoadQueues

/-- `remote_loader::update` -/
def update (generate : ChunkGenerator M) (queues : LoadQueues) (space : VoxelSpace M) :
    LoadQueues × VoxelSpace M :=
  let loading := queues.pending.1.foldl (emplaceAndLoad generate) (queues.loaded, space)
  let unloading := queues.unloaded.1.foldl eraseAndUnload loading
  (⟨PositionSet.empty, unloading.1, PositionSet.empty⟩, unloading.2)

/-- `remote_loader::load_from_remote` -/
def loadFromRemote (queues : LoadQueues) (pos : TilePos) : LoadQueues :=
  { queues with pending := queues.pending.emplace pos }

/-- `remote_loader::unload_from_remote` -/
def unloadFromRemote (queues : LoadQueues) (pos : TilePos) : LoadQueues :=
  { queues with
    pending := queues.pending.erase pos
    unloaded := queues.unloaded.emplace pos }

end LoadQueues

namespace ChunkLoader

/-- The positions within reach of a center.  Whether a position is within reach is
decided by comparing two values of the distance metric. -/
def reach (within : TilePos → TilePos → TilePos → Bool) (center range : TilePos) :
    PositionSet :=
  ⟨(spatialPositions center range).filter fun pos => within pos center range,
    (nodup_spatialPositions center range).filter _⟩

/-- The chunks a loader holds while it is attached. -/
def holds (within : TilePos → TilePos → TilePos → Bool) : ChunkLoader → PositionSet
  | point center range => reach within center range
  | multiChunk loadedChunks _ => loadedChunks
  | entity _ loaded => loaded
  | remote queues => queues.loaded

/-- `chunk_loader::start_loading` -/
def startLoading (within : TilePos → TilePos → TilePos → Bool)
    (generate : ChunkGenerator M) (space : VoxelSpace M) : ChunkLoader → VoxelSpace M
  | point center range => space.loadAll generate (reach within center range).1
  | multiChunk loadedChunks _ => space.loadAll generate loadedChunks.1
  | entity _ _ => space
  | remote _ => space

/-- `chunk_loader::stop_loading` -/
def stopLoading (within : TilePos → TilePos → TilePos → Bool)
    (generate : ChunkGenerator M) (space : VoxelSpace M) :
    ChunkLoader → ChunkLoader × VoxelSpace M
  | point center range => (point center range, space.unloadAll (reach within center range).1)
  | multiChunk loadedChunks pendingLoads =>
      (multiChunk loadedChunks pendingLoads, space.unloadAll loadedChunks.1)
  | entity range loaded =>
      if loaded.1.isEmpty then (entity range loaded, space)
      else (entity range PositionSet.empty, updateLoaded generate space loaded PositionSet.empty)
  | remote queues =>
      (remote { queues with loaded := PositionSet.empty }, space.unloadAll queues.loaded.1)

/-- `chunk_loader::update`, given the chunk that the entity of an `entity_loader` is in, if
that entity has a position. -/
def update (within : TilePos → TilePos → TilePos → Bool) (generate : ChunkGenerator M)
    (entityChunk : Option TilePos) (space : VoxelSpace M) :
    ChunkLoader → ChunkLoader × VoxelSpace M
  | point center range => (point center range, space)
  | multiChunk loadedChunks pendingLoads =>
      let loading := pendingLoads.foldl (emplaceAndLoad generate) (loadedChunks, space)
      (multiChunk loading.1 [], loading.2)
  | entity range loaded =>
      match entityChunk with
      | some center =>
          (entity range (reach within center range),
            updateLoaded generate space loaded (reach within center range))
      | none => (entity range loaded).stopLoading within generate space
  | remote queues =>
      let updated := queues.update generate space
      (remote updated.1, updated.2)

end ChunkLoader

/-- A space and the loaders that can be attached to it. -/
structure LoaderSpace (M : Type) where
  space : VoxelSpace M
  loaders : Nat → ChunkLoader
  attached : List Nat

/-- What can happen to loaders.  An update visits the attached loaders in some order, and
finds the entities of entity loaders somewhere. -/
inductive LoaderAction where
  | addChunkLoader (id : Nat)
  | removeChunkLoader (id : Nat)
  | addChunk (id : Nat) (pos : TilePos)
  | removeChunk (id : Nat) (pos : TilePos)
  | loadFromRemote (id : Nat) (pos : TilePos)
  | unloadFromRemote (id : Nat) (pos : TilePos)
  | update (order : List Nat) (entityChunk : Nat → Option TilePos)

namespace LoaderSpace

/-- Nothing is loaded, and all loaders have just been constructed. -/
def initial (kinds : Nat → LoaderKind) : LoaderSpace M :=
  ⟨VoxelSpace.empty, fun id => (kinds id).construct, []⟩

/-- Replace one loader. -/
def setLoader (state : LoaderSpace M) (id : Nat) (loader : ChunkLoader) : LoaderSpace M :=
  { state with loaders := Function.update state.loaders id loader }

/-- `voxel_space::add_chunk_loader` -/
def addChunkLoader (within : TilePos → TilePos → TilePos → Bool)
    (generate : ChunkGenerator M) (state : LoaderSpace M) (id : Nat) : LoaderSpace M :=
  { state with
    space := (state.loaders id).startLoading within generate state.space
    attached := state.attached.insert id }

/-- `voxel_space::remove_chunk_loader` -/
def removeChunkLoader (within : TilePos → TilePos → TilePos → Bool)
    (generate : ChunkGenerator M) (state : LoaderSpace M) (id : Nat) : LoaderSpace M :=
  let stopped := (state.loaders id).stopLoading within generate state.space
  { state.setLoader id stopped.1 with
    space := stopped.2
    attached := state.attached.erase id }

/-- The update of one attached loader. -/
def updateLoader (within : TilePos → TilePos → TilePos → Bool)
    (generate : ChunkGenerator M) (entityChunk : Nat → Option TilePos)
    (state : LoaderSpace M) (id : Nat) : LoaderSpace M :=
  let updated := (state.loaders id).update within generate (entityChunk id) state.space
  { state.setLoader id updated.1 with space := updated.2 }

/-- The transition relation of a space and its loaders. -/
def step (within : TilePos → TilePos → TilePos → Bool) (generate : ChunkGenerator M) :
    Step (LoaderSpace M) LoaderAction
  | state, .addChunkLoader id => some (state.addChunkLoader within generate id)
  | state, .removeChunkLoader id => some (state.removeChunkLoader within generate id)
  | state, .addChunk id pos =>
      match state.loaders id with
      | .multiChunk loadedChunks pendingLoads =>
          some (state.setLoader id (.multiChunk loadedChunks (pendingLoads ++ [pos])))
      | _ => none
  | state, .removeChunk id pos =>
      match state.loaders id with
      | .multiChunk loadedChunks pendingLoads =>
          some (state.setLoader id
            (.multiChunk (loadedChunks.erase pos) (pendingLoads.filter fun other => other ≠ pos)))
      | _ => none
  | state, .loadFromRemote id pos =>
      match state.loaders id with
      | .remote queues => some (state.setLoader id (.remote (queues.loadFromRemote pos)))
      | _ => none
  | state, .unloadFromRemote id pos =>
      match state.loaders id with
      | .remote queues => some (state.setLoader id (.remote (queues.unloadFromRemote pos)))
      | _ => none
  | state, .update order entityChunk =>
      if order.Perm state.attached then
        some (order.foldl (updateLoader within generate entityChunk) state)
      else none

end LoaderSpace

end VoxelEngine.Voxel
