import VoxelEngine.Transition.Run
import VoxelEngine.Voxel.ChunkEntry
import VoxelEngine.Voxel.ChunkLoader

/-!
# The voxel component

The voxel component of a host tells its counterparts which chunks are loaded and unloaded
and which tiles are set.  The counterpart writes tiles at once, but loads and unloads
chunks only when its space is updated.
-/

namespace VoxelEngine.Voxel

open VoxelEngine.Transition

/-- `chunk_load_message`, `chunk_unload_message` and `set_voxel_message` -/
inductive VoxelMessage where
  | chunkLoad (pos : TilePos) (data : ChunkData)
  | chunkUnload (pos : TilePos)
  | setVoxel (worldpos : TilePos) (td : TileData)

/-- `remote_loader` -/
structure RemoteLoader where
  queues : LoadQueues
  data : TilePos → Option ChunkData

variable {M : Type}

namespace RemoteLoader

/-- A loader that was told nothing. -/
def empty : RemoteLoader :=
  ⟨⟨PositionSet.empty, PositionSet.empty, PositionSet.empty⟩, fun _ => none⟩

/-- `remote_loader::generate`.  It is an error if there are no tiles for the chunk. -/
def generate (loader : RemoteLoader) (chunkpos : TilePos) :
    Option (ChunkData × RemoteLoader) :=
  (loader.data chunkpos).map fun data =>
    (data, { loader with data := Function.update loader.data chunkpos none })

/-- `voxel_space::load_chunk` in a space with a remote loader as its generator, which is
only asked for chunks that are absent. -/
def loadChunk [Inhabited M] (state : RemoteLoader × VoxelSpace M) (chunkpos : TilePos) :
    Option (RemoteLoader × VoxelSpace M) :=
  match state.2.chunks chunkpos with
  | some chunkData =>
      some (state.1,
        state.2.insert chunkpos { chunkData with loadCount := chunkData.loadCount + 1 })
  | none =>
      (state.1.generate chunkpos).map fun generated =>
        (generated.2, state.2.loadChunk (fun _ _ => generated.1) chunkpos)

/-- Note a chunk as loaded, and load it if it was not. -/
def loadPending [Inhabited M] (state : RemoteLoader × VoxelSpace M) (pos : TilePos) :
    Option (RemoteLoader × VoxelSpace M) :=
  if pos ∈ state.1.queues.loaded.1 then some state
  else
    loadChunk
      ({ state.1 with
          queues := { state.1.queues with loaded := state.1.queues.loaded.emplace pos } },
        state.2) pos

/-- Unload a chunk that was noted as loaded. -/
def unloadLoaded (state : RemoteLoader × VoxelSpace M) (pos : TilePos) :
    RemoteLoader × VoxelSpace M :=
  if pos ∈ state.1.queues.loaded.1 then
    ({ state.1 with
        queues := { state.1.queues with loaded := state.1.queues.loaded.erase pos } },
      state.2.unloadChunk pos)
  else state

/-- `remote_loader::update` -/
def update [Inhabited M] (loader : RemoteLoader) (space : VoxelSpace M) :
    Option (RemoteLoader × VoxelSpace M) :=
  (loader.queues.pending.1.foldlM loadPending (loader, space)).map fun loading =>
    let unloading := loader.queues.unloaded.1.foldl unloadLoaded loading
    ({ unloading.1 with
        queues :=
          { unloading.1.queues with
            pending := PositionSet.empty
            unloaded := PositionSet.empty } },
      unloading.2)

/-- `remote_loader::load_from_remote`, which keeps tiles that it has already. -/
def loadFromRemote (loader : RemoteLoader) (pos : TilePos) (data : ChunkData) :
    RemoteLoader where
  queues := loader.queues.loadFromRemote pos
  data := Function.update loader.data pos (some ((loader.data pos).getD data))

/-- `remote_loader::unload_from_remote` -/
def unloadFromRemote (loader : RemoteLoader) (pos : TilePos) : RemoteLoader where
  queues := loader.queues.unloadFromRemote pos
  data := Function.update loader.data pos none

end RemoteLoader

/-- The component on a remote, with the lockers of the mesh tasks of its space. -/
structure RemoteComponent (M : Type) where
  space : VoxelSpace M
  loader : RemoteLoader
  lockers : List PositionSet

namespace RemoteComponent

/-- The constructor for a component that does not host. -/
def create : RemoteComponent M :=
  ⟨VoxelSpace.empty, RemoteLoader.empty, []⟩

/-- `voxel_component::on_message_received` of a component that does not host. -/
def onMessageReceived (unknown : TileData) (component : RemoteComponent M) :
    VoxelMessage → RemoteComponent M
  | .chunkLoad pos data => { component with loader := component.loader.loadFromRemote pos data }
  | .chunkUnload pos => { component with loader := component.loader.unloadFromRemote pos }
  | .setVoxel worldpos td =>
      { component with space := (component.space.setData unknown worldpos td).2 }

/-- `voxel_space::update`, as far as chunks are loaded and unloaded. -/
def update [Inhabited M] (component : RemoteComponent M) : Option (RemoteComponent M) :=
  (component.loader.update component.space).map fun updated =>
    { component with space := updated.2, loader := updated.1 }

/-- A mesh task starts.  It only locks chunks that are loaded, so that none is generated
for it. -/
def createLocker [Inhabited M] (unknown : TileData) (component : RemoteComponent M)
    (positions : PositionSet) : Option (RemoteComponent M) :=
  if positions.1.all component.space.isLoaded then
    some
      { component with
        space := component.space.lockChunks (fun _ _ _ => unknown) positions.1
        lockers := component.lockers ++ [positions] }
  else none

/-- A mesh task is done. -/
def destroyLocker (component : RemoteComponent M) (index : Nat) :
    Option (RemoteComponent M) :=
  component.lockers[index]?.bind fun positions =>
    (component.space.releaseChunks positions.1).map fun released =>
      { component with space := released, lockers := component.lockers.eraseIdx index }

end RemoteComponent

/-- The component that hosts the space, with the positions in the space's table of chunks.
Its space makes no meshes, so that its chunks are never locked. -/
structure HostComponent (M : Type) where
  space : VoxelSpace M
  positions : PositionSet
  visible : Bool

namespace HostComponent

/-- The constructor for a component that hosts, before any remote sees it. -/
def create : HostComponent M :=
  ⟨VoxelSpace.empty, PositionSet.empty, false⟩

/-- `partially_synchronizable::broadcast_message`, as far as the remote is concerned. -/
def broadcastMessage (component : HostComponent M) (messages : List VoxelMessage) :
    List VoxelMessage :=
  if component.visible then messages else []

/-- The message that is made of a loaded chunk. -/
def loadMessage (space : VoxelSpace M) (pos : TilePos) : Option VoxelMessage :=
  (space.stored pos).map (VoxelMessage.chunkLoad pos)

/-- `voxel_space::load_chunk` and the handler of its event. -/
def loadChunk [Inhabited M] (generate : ChunkGenerator M) (component : HostComponent M)
    (chunkpos : TilePos) : HostComponent M × List VoxelMessage :=
  let space := component.space.loadChunk generate chunkpos
  ({ component with space := space, positions := component.positions.emplace chunkpos },
    component.broadcastMessage (loadMessage space chunkpos).toList)

/-- `voxel_space::unload_chunk` and the handler of its event. -/
def unloadChunk (component : HostComponent M) (chunkpos : TilePos) :
    HostComponent M × List VoxelMessage :=
  let space := component.space.unloadChunk chunkpos
  ({ component with
      space := space
      positions :=
        if space.isLoaded chunkpos then component.positions
        else component.positions.erase chunkpos },
    if component.space.isLoaded chunkpos then
      component.broadcastMessage [.chunkUnload chunkpos]
    else [])

/-- `voxel_space::set_data` and the handler of its event. -/
def setData (unknown : TileData) (component : HostComponent M) (worldpos : TilePos)
    (td : TileData) : HostComponent M × List VoxelMessage :=
  ({ component with space := (component.space.setData unknown worldpos td).2 },
    if component.space.isLoaded (toChunkpos worldpos) then
      component.broadcastMessage [.setVoxel worldpos td]
    else [])

/-- `voxel_component::on_added_to_remote`, which visits the chunks in some order. -/
def onAddedToRemote (component : HostComponent M) (order : List TilePos) :
    HostComponent M × List VoxelMessage :=
  ({ component with visible := true }, order.filterMap (loadMessage component.space))

end HostComponent

/-- A host, its counterpart on a remote, the messages that were sent and not yet
delivered, and whether the counterpart was updated since the last delivery. -/
structure ReplicatedSpace (M : Type) where
  host : HostComponent M
  inFlight : List VoxelMessage
  remote : RemoteComponent M
  updated : Bool

/-- What can happen to a host, whose loaders load and unload chunks as they like, and to
its counterpart. -/
inductive ReplicationAction where
  | loadChunk (chunkpos : TilePos)
  | unloadChunk (chunkpos : TilePos)
  | setData (worldpos : TilePos) (td : TileData)
  | addToRemote (order : List TilePos)
  | deliver
  | update
  | createLocker (positions : PositionSet)
  | destroyLocker (index : Nat)

namespace ReplicatedSpace

/-- Both spaces are empty, and the remote does not see the host yet. -/
def start : ReplicatedSpace M :=
  ⟨HostComponent.create, [], RemoteComponent.create, false⟩

/-- The host does something and sends messages about it. -/
def hostStep (state : ReplicatedSpace M) (result : HostComponent M × List VoxelMessage) :
    ReplicatedSpace M :=
  { state with host := result.1, inFlight := state.inFlight ++ result.2 }

/-- The transition relation of a host and its counterpart, which exists while it sees the
host. -/
def step [Inhabited M] (generate : ChunkGenerator M) (unknown : TileData) :
    Step (ReplicatedSpace M) ReplicationAction
  | state, .loadChunk chunkpos => some (state.hostStep (state.host.loadChunk generate chunkpos))
  | state, .unloadChunk chunkpos => some (state.hostStep (state.host.unloadChunk chunkpos))
  | state, .setData worldpos td => some (state.hostStep (state.host.setData unknown worldpos td))
  | state, .addToRemote order =>
      if state.host.visible = false ∧ order.Perm state.host.positions.1 then
        some (state.hostStep (state.host.onAddedToRemote order))
      else none
  | state, .deliver =>
      match state.inFlight with
      | message :: rest =>
          some
            { state with
              inFlight := rest
              remote := state.remote.onMessageReceived unknown message
              updated := false }
      | [] => none
  | state, .update =>
      if state.host.visible then
        state.remote.update.map fun remote => { state with remote := remote, updated := true }
      else none
  | state, .createLocker positions =>
      if state.host.visible then
        (state.remote.createLocker unknown positions).map fun remote =>
          { state with remote := remote }
      else none
  | state, .destroyLocker index =>
      (state.remote.destroyLocker index).map fun remote => { state with remote := remote }

end ReplicatedSpace

end VoxelEngine.Voxel
