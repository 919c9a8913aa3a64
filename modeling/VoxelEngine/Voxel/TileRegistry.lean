import Mathlib.Logic.Function.Basic
import VoxelEngine.Data.SlotVector
import VoxelEngine.Transition.Run
import VoxelEngine.Voxel.TileData

/-!
# The tile registry

Registering a tile assigns it an id and, if it has no states, a metadata value, both of
which the tile object itself remembers.  Stateful tiles and stateless tiles live in
separate vectors of slots, and freed slots are handed out again before new ones.
-/

namespace VoxelEngine.Voxel

open VoxelEngine.Data
open VoxelEngine.Transition

/-- Tile objects, of which the registry only needs to know the number of states. -/
class Tile (T : Type) where
  numStates : T → TileMetadata

open Tile (numStates)

variable {T : Type} [Tile T] [DecidableEq T]

/-- `tile::is_stateless` -/
def isStateless (tile : T) : Bool :=
  numStates tile = 1

/-- What the registry stores inside a tile. -/
structure TileInfo where
  id : TileId
  metastate : TileId
  removable : Bool
  deriving DecidableEq

/-- A tile that was never registered. -/
def TileInfo.initial : TileInfo :=
  ⟨invalidTileId, invalidTileId, true⟩

/-- The registry together with what it stored inside the tiles.  The tombstones are
stacks of freed positions. -/
structure TileRegistry (T : Type) where
  statefulTiles : List (Option T)
  statefulTombstones : List TileId
  statelessTiles : Nat → List (Option T)
  statelessTombstones : List (TileId × TileId)
  info : T → TileInfo

namespace TileRegistry

/-- A registry without tiles. -/
def empty : TileRegistry T where
  statefulTiles := []
  statefulTombstones := []
  statelessTiles _ := []
  statelessTombstones := []
  info _ := TileInfo.initial

/-- A tile is registered while it has a valid id. -/
def Registered (registry : TileRegistry T) (tile : T) : Prop :=
  (registry.info tile).id ≠ invalidTileId

instance (registry : TileRegistry T) (tile : T) : Decidable (registry.Registered tile) :=
  inferInstanceAs (Decidable (_ ≠ _))

/-- `register_at` for a stateful tile, whose id is its position. -/
def registerStateful (registry : TileRegistry T) (tile : T) (removable : Bool) (id : TileId) :
    TileRegistry T :=
  { registry with
    statefulTiles := SlotVector.place registry.statefulTiles id.toNat tile
    info := Function.update registry.info tile ⟨id, id, removable⟩ }

/-- `register_at` for a stateless tile, at a position of one of the reserved ids. -/
def registerStateless (registry : TileRegistry T) (tile : T) (removable : Bool)
    (id index : TileId) : TileRegistry T :=
  { registry with
    statelessTiles := Function.update registry.statelessTiles id.toNat
      (SlotVector.place (registry.statelessTiles id.toNat) index.toNat tile)
    info := Function.update registry.info tile ⟨id, index, removable⟩ }

/-- The first reserved id whose vector still has room. -/
def roomyStatelessId (registry : TileRegistry T) : Option Nat :=
  (List.range reservedStatelessTileIds).find? fun id =>
    (registry.statelessTiles id).length < maxTileMetadata

/-- Put a tile into a freed slot or a new one, if none of the assertions of
`register_tile` fails. -/
def placeTile (registry : TileRegistry T) (tile : T) (removable : Bool) :
    Option (TileRegistry T) :=
  if numStates tile = 0 ∨ registry.Registered tile then none
  else if isStateless tile then
    match registry.statelessTombstones with
    | (id, index) :: tombstones =>
        some ({ registry with statelessTombstones := tombstones }.registerStateless tile
          removable id index)
    | [] =>
        registry.roomyStatelessId.map fun id =>
          registry.registerStateless tile removable (UInt16.ofNat id)
            (UInt16.ofNat (registry.statelessTiles id).length)
  else
    match registry.statefulTombstones with
    | id :: tombstones =>
        some ({ registry with statefulTombstones := tombstones }.registerStateful tile
          removable id)
    | [] =>
        if registry.statefulTiles.length + 1 < invalidTileId.toNat then
          some (registry.registerStateful tile removable
            (UInt16.ofNat registry.statefulTiles.length))
        else none

/-- `tile_registry::register_tile` -/
def registerTile (registry : TileRegistry T) (tile : T) (removable : Bool) :
    Option (TileRegistry T × TileData) :=
  (registry.placeTile tile removable).map fun next =>
    (next, ⟨(next.info tile).id, (next.info tile).metastate⟩)

/-- `tile_registry::unregister_tile`, if none of its assertions fails. -/
def unregisterTile (registry : TileRegistry T) (tile : T) : Option (TileRegistry T) :=
  let info := registry.info tile
  if ¬registry.Registered tile ∨ info.removable = false then none
  else
    let forgotten := Function.update registry.info tile
      { info with id := invalidTileId, metastate := invalidTileId }
    if isStateless tile then
      some
        { registry with
          statelessTiles := Function.update registry.statelessTiles info.id.toNat
            (SlotVector.vacate (registry.statelessTiles info.id.toNat) info.metastate.toNat)
          statelessTombstones := (info.id, info.metastate) :: registry.statelessTombstones
          info := forgotten }
    else
      some
        { registry with
          statefulTiles := SlotVector.vacate registry.statefulTiles info.id.toNat
          statefulTombstones := info.id :: registry.statefulTombstones
          info := forgotten }

/-- The loops of `unregister_all`: unregister the removable tiles of a vector and find the
last position that stays occupied.  They dereference every slot, which is not defined for
an empty one. -/
def unregisterSlots (position : TileInfo → TileId) :
    List (Option T) → TileRegistry T → Nat → Option (TileRegistry T × Nat)
  | [], registry, last => some (registry, last)
  | none :: _, _, _ => none
  | some tile :: slots, registry, last =>
      if (registry.info tile).removable then
        (registry.unregisterTile tile).bind fun next => unregisterSlots position slots next last
      else
        unregisterSlots position slots registry
          (max last (position (registry.info tile)).toNat)

/-- The first half of `unregister_all`. -/
def unregisterAllStateful (registry : TileRegistry T) : Option (TileRegistry T) :=
  (unregisterSlots TileInfo.id registry.statefulTiles registry 0).map fun (next, last) =>
    { next with
      statefulTiles := SlotVector.resize next.statefulTiles (last + 1)
      statefulTombstones := next.statefulTombstones.filter fun id => id.toNat ≤ last }

/-- The loop over the reserved ids, which notes the last occupied position of each. -/
def unregisterStatelessIds : List Nat → TileRegistry T → (Nat → Nat) →
    Option (TileRegistry T × (Nat → Nat))
  | [], registry, lasts => some (registry, lasts)
  | id :: ids, registry, lasts =>
      (unregisterSlots TileInfo.metastate (registry.statelessTiles id) registry 0).bind
        fun (next, last) =>
          unregisterStatelessIds ids
            { next with
              statelessTiles := Function.update next.statelessTiles id
                (SlotVector.resize (next.statelessTiles id) (last + 1)) }
            (Function.update lasts id last)

/-- The second half of `unregister_all`. -/
def unregisterAllStateless (registry : TileRegistry T) : Option (TileRegistry T) :=
  (unregisterStatelessIds (List.range reservedStatelessTileIds) registry fun _ => 0).map
    fun (next, lasts) =>
      { next with
        statelessTombstones := next.statelessTombstones.filter fun (id, index) =>
          index.toNat ≤ lasts id.toNat }

/-- `tile_registry::unregister_all` -/
def unregisterAll (registry : TileRegistry T) : Option (TileRegistry T) :=
  registry.unregisterAllStateful.bind unregisterAllStateless

/-- `tile_registry::get_tile_for_state`: what is stored in the slot the data points to, if
there is such a slot. -/
def getTileForState (registry : TileRegistry T) (td : TileData) : Option (Option T) :=
  if td.tileId.toNat < reservedStatelessTileIds then
    (registry.statelessTiles td.tileId.toNat)[td.metadata.toNat]?
  else registry.statefulTiles[td.tileId.toNat]?

/-- `tile_registry::get_effective_metastate` -/
def getEffectiveMetastate (td : TileData) : TileMetadata :=
  if td.tileId.toNat < reservedStatelessTileIds then td.metadata else 0

/-- `tile_registry::get_state` -/
def getState (registry : TileRegistry T) (tile : T) (metadata : TileMetadata) : TileData :=
  if isStateless tile then ⟨(registry.info tile).id, (registry.info tile).metastate⟩
  else ⟨(registry.info tile).id, metadata⟩

/-- `tile_registry::get_default_state` -/
def getDefaultState (registry : TileRegistry T) (tile : T) : TileData :=
  if isStateless tile then ⟨(registry.info tile).id, (registry.info tile).metastate⟩
  else ⟨(registry.info tile).id, 0⟩

/-- `tile_registry::is_removable` -/
def isRemovable (registry : TileRegistry T) (tile : T) : Bool :=
  (registry.info tile).removable

end TileRegistry

/-- The calls that change a registry. -/
inductive RegistryAction (T : Type) where
  | registerTile (tile : T) (removable : Bool)
  | unregisterTile (tile : T)
  | unregisterAll

namespace TileRegistry

/-- The transition relation of the registry. -/
def step : Step (TileRegistry T) (RegistryAction T)
  | registry, .registerTile tile removable =>
      (registry.registerTile tile removable).map Prod.fst
  | registry, .unregisterTile tile => registry.unregisterTile tile
  | registry, .unregisterAll => registry.unregisterAll

end TileRegistry

end VoxelEngine.Voxel
