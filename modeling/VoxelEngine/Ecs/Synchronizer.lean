import VoxelEngine.Data.Focus
import VoxelEngine.Data.Update
import VoxelEngine.Ecs.Visibility

/-!
# The component synchronizer

For every connection the synchronizer serializes the visible components that need
it, pushes the values that changed and the components that disappeared onto one
compound message, and sends it.  The serialized value of a component is cached
beside it; one cache, with one `changed` flag, serves all connections.

The system is modelled with the default tags (none required, none excluded) and
without per-entity rules, so that its view for a connection is the view of the
visibility statuses stored for that connection.
-/

namespace VoxelEngine.Ecs

open VoxelEngine.ClientServer
open VoxelEngine.Data

/-- `sync_cache_component`: the bytes that were serialized last and whether they
differed from the bytes before them. -/
structure SyncCache where
  data : Bytes
  changed : Bool
  deriving DecidableEq

/-- What the registry holds for one component type at one entity: the component,
its cache, and the tag which says that the cache was refreshed in this tick. -/
structure Cell (V : Type) where
  component : Option V
  syncCache : Option SyncCache
  upToDate : Bool
  deriving DecidableEq

/-- Nothing is stored at the entity. -/
def Cell.empty {V : Type} : Cell V :=
  ⟨none, none, false⟩

/-- The parameters of a synchronizer: the component types it synchronizes, their
serialization and the digest (`XXH64`) by which serialized values are compared. -/
structure SyncSettings (V : Type) where
  types : List TypeHash
  nodup : types.Nodup
  toBytes : TypeHash → V → Bytes
  digest : Bytes → UInt64

/-- The statuses one connection's visibility view assigns to entities. -/
abbrev StatusView := Entity → Option VisibilityStatus

/-- `is_synchronized`, for an entity with the given status. -/
def isSynchronized (status : VisibilityStatus) (syncTimerElapsed : Bool) : Bool :=
  if !status.visibilityBit then false
  else if status = .becameVisible then true
  else syncTimerElapsed

variable {V : Type}

/-- The loops skip entities that are not synchronized; entities without a status are
not in their views to begin with. -/
def synchronizedIn (status : Option VisibilityStatus) (syncTimerElapsed : Bool) : Bool :=
  match status with
  | some status => isSynchronized status syncTimerElapsed
  | none => false

/-- The entities of the visibility view whose cell satisfies `wanted`. -/
def viewOf (statusOf : StatusView) (entities : List Entity) (cells : Entity → Cell V)
    (wanted : Cell V → Bool) : List Entity :=
  entities.filter fun entity => (statusOf entity).isSome && wanted (cells entity)

/-- A component without a cache. -/
def Cell.unserialized (cell : Cell V) : Bool :=
  cell.component.isSome && cell.syncCache.isNone

/-- A component whose cache was not refreshed in this tick. -/
def Cell.outOfDate (cell : Cell V) : Bool :=
  cell.component.isSome && cell.syncCache.isSome && !cell.upToDate

/-- A cache, with or without a component. -/
def Cell.cached (cell : Cell V) : Bool :=
  cell.syncCache.isSome

/-- A cache whose component was removed. -/
def Cell.removed (cell : Cell V) : Bool :=
  cell.syncCache.isSome && cell.component.isNone

/-- Serialize a component for the first time. -/
def Cell.serialize (settings : SyncSettings V) (type : TypeHash) (cell : Cell V) : Cell V :=
  match cell.component with
  | some value =>
      { cell with
        syncCache := some ⟨settings.toBytes type value, true⟩
        upToDate := true }
  | none => cell

/-- Serialize a component again and compare the digests of the old and new bytes. -/
def Cell.reserialize (settings : SyncSettings V) (type : TypeHash) (cell : Cell V) : Cell V :=
  match cell.component, cell.syncCache with
  | some value, some cache =>
      let data := settings.toBytes type value
      { cell with
        syncCache := some ⟨data, settings.digest cache.data != settings.digest data⟩
        upToDate := true }
  | _, _ => cell

/-- Drop the cache of a component. -/
def Cell.dropCache (cell : Cell V) : Cell V :=
  { cell with syncCache := none }

/-- `update_serialized_values` for one component type: first the components that were
never serialized, then those that are out of date. -/
def updateSerializedValues (settings : SyncSettings V) (type : TypeHash)
    (statusOf : StatusView) (syncTimerElapsed : Bool) (entities : List Entity)
    (cells : Entity → Cell V) : Entity → Cell V :=
  let viewUnserialized := viewOf statusOf entities cells Cell.unserialized
  let serialized := updateAll
    (fun entity cell =>
      if synchronizedIn (statusOf entity) syncTimerElapsed then cell.serialize settings type
      else cell)
    viewUnserialized cells
  let viewOutOfDate := viewOf statusOf entities serialized Cell.outOfDate
  updateAll
    (fun entity cell =>
      if synchronizedIn (statusOf entity) syncTimerElapsed then cell.reserialize settings type
      else cell)
    viewOutOfDate serialized

/-- The message pushed for one entity by `add_changes_to_message`, if any: the cached
value, unless it is unchanged and the remote already knew the entity. -/
def changeMessages (type : TypeHash) (entity : Entity) (status : Option VisibilityStatus)
    (syncTimerElapsed : Bool) (cell : Cell V) : List CoreMessage :=
  match cell.syncCache, status with
  | some cache, some status =>
      if !isSynchronized status syncTimerElapsed then []
      else if !cache.changed && !status.changedBit then []
      else [.setComponent cache.data type entity]
  | _, _ => []

/-- `add_changes_to_message`. -/
def addChangesToMessage (type : TypeHash) (statusOf : StatusView) (syncTimerElapsed : Bool)
    (entities : List Entity) (cells : Entity → Cell V) : List CoreMessage :=
  (viewOf statusOf entities cells Cell.cached).flatMap fun entity =>
    changeMessages type entity (statusOf entity) syncTimerElapsed (cells entity)

/-- The message pushed for one entity by `add_removals_to_message`, if any. -/
def removalMessages (type : TypeHash) (entity : Entity) (status : Option VisibilityStatus)
    (syncTimerElapsed : Bool) : List CoreMessage :=
  if synchronizedIn status syncTimerElapsed then [.delComponent type entity] else []

/-- `add_removals_to_message`. -/
def addRemovalsToMessage (type : TypeHash) (statusOf : StatusView) (syncTimerElapsed : Bool)
    (entities : List Entity) (cells : Entity → Cell V) : List CoreMessage :=
  (viewOf statusOf entities cells Cell.removed).flatMap fun entity =>
    removalMessages type entity (statusOf entity) syncTimerElapsed

/-- `remove_destroyed_component_data`: drop the caches of removed components, at every
entity and whether or not a timer elapsed. -/
def removeDestroyedComponentData (entities : List Entity) (cells : Entity → Cell V) :
    Entity → Cell V :=
  updateAll (fun _ cell => cell.dropCache)
    (entities.filter fun entity => (cells entity).removed) cells

/-- `perform_update` for one component type and one connection. -/
def performUpdate (settings : SyncSettings V) (type : TypeHash) (statusOf : StatusView)
    (syncTimerElapsed : Bool) (entities : List Entity) (cells : Entity → Cell V) :
    (Entity → Cell V) × List CoreMessage :=
  let serialized := updateSerializedValues settings type statusOf syncTimerElapsed entities cells
  (removeDestroyedComponentData entities serialized,
    addChangesToMessage type statusOf syncTimerElapsed entities serialized ++
      addRemovalsToMessage type statusOf syncTimerElapsed entities serialized)

/-- The registry cells of all component types, and the message under construction. -/
structure ConnectionPass (V : Type) where
  cells : TypeHash → Entity → Cell V
  message : List CoreMessage

/-- The loop body of `on_system_update` for one component type. -/
def updateType (settings : SyncSettings V) (statusOf : StatusView)
    (synchronizeNow : TypeHash → Bool) (entities : List Entity) (pass : ConnectionPass V)
    (type : TypeHash) : ConnectionPass V :=
  let updated :=
    performUpdate settings type statusOf (synchronizeNow type) entities (pass.cells type)
  { cells := Function.update pass.cells type updated.1
    message := pass.message ++ updated.2 }

/-- The body of `on_system_update` for one connection: update every type, then, for the
types whose timer elapsed, drop the caches of components that no longer exist. -/
def synchronizeConnection (settings : SyncSettings V) (statusOf : StatusView)
    (synchronizeNow : TypeHash → Bool) (entities : List Entity)
    (cells : TypeHash → Entity → Cell V) : ConnectionPass V :=
  let pass := settings.types.foldl
    (updateType settings statusOf synchronizeNow entities) ⟨cells, []⟩
  { pass with
    cells := updateAll
      (fun type column =>
        if synchronizeNow type then removeDestroyedComponentData entities column else column)
      settings.types pass.cells }

/-- Clear the tags that mark caches as refreshed. -/
def clearUpToDate (settings : SyncSettings V) (cells : TypeHash → Entity → Cell V) :
    TypeHash → Entity → Cell V :=
  updateAll (fun _ column entity => { column entity with upToDate := false })
    settings.types cells

end VoxelEngine.Ecs
