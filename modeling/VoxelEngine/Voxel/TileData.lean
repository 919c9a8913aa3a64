import Mathlib.Logic.Basic

/-!
# Tile data

Chunks do not store tiles but pairs of a tile id and some metadata, both sixteen bits
wide.
-/

namespace VoxelEngine.Voxel

/-- `tile_id_t` -/
abbrev TileId := UInt16

/-- `tile_metadata_t` -/
abbrev TileMetadata := UInt16

/-- `max_value<tile_id_t>`, the id of a tile that is not registered. -/
def invalidTileId : TileId := 65535

@[simp]
theorem toNat_invalidTileId : invalidTileId.toNat = 65535 :=
  rfl

/-- `max_value<tile_metadata_t>` -/
def maxTileMetadata : Nat := 65535

/-- `voxel_settings::reserved_stateless_tile_ids`: under these ids the metadata tells
tiles without states apart. -/
def reservedStatelessTileIds : Nat := 4

@[simp]
theorem reservedStatelessTileIds_lt : reservedStatelessTileIds < 65535 := by
  decide

/-- What a chunk stores for one tile. -/
structure TileData where
  tileId : TileId
  metadata : TileMetadata
  deriving DecidableEq

end VoxelEngine.Voxel
