import VoxelEngine.Voxel.Chunk
import VoxelEngine.Voxel.TileRegistry

/-!
# Meshing a chunk

The mesh of a chunk is assembled tile by tile.  A side of a tile is part of it unless the
tile next to that side, which may lie in a neighbouring chunk, occludes it.
-/

namespace VoxelEngine.Voxel

/-- `indexed_mesh` -/
structure TileMesh (V : Type) where
  vertices : List V
  indices : List UInt32
  deriving DecidableEq

instance {V : Type} : Inhabited (TileMesh V) :=
  ⟨⟨[], []⟩⟩

/-- A chunk and its neighbours. -/
structure ChunkNeighbourhood where
  chunk : ChunkData
  neighbours : Direction → Option ChunkData

/-- What the mesher asks of the tiles and of their registry. -/
structure Mesher (T V : Type) [Tile T] [DecidableEq T] where
  registry : TileRegistry T
  skipTileList : List T
  unknownTile : T
  rendered : T → Bool
  occludesSide : T → Direction → TileMetadata → Bool
  appendMesh : T → UInt8 → TileMetadata → TileMesh V
  displace : V → LocalPos → V

namespace Mesher

variable {T V : Type} [Tile T] [DecidableEq T]

/-- `skip_tile_list::skip` -/
def skip (mesher : Mesher T V) (td : TileData) : Bool :=
  (mesher.skipTileList.map mesher.registry.getDefaultState).contains td

/-- The state that stands for data that cannot be retrieved. -/
def unknownTileData (mesher : Mesher T V) : TileData :=
  mesher.registry.getDefaultState mesher.unknownTile

/-- `get_tile_for_state`, which is only defined for data of a registered tile. -/
def tileForState (mesher : Mesher T V) (td : TileData) : T :=
  (mesher.registry.getTileForState td).join.getD mesher.unknownTile

/-- The data next to a tile, found in the chunk or in one of its neighbours. -/
def neighbourData (mesher : Mesher T V) (nb : ChunkNeighbourhood) (neighbour : TilePos) :
    TileData :=
  if OutOfBounds neighbour then
    match (neighbourDirection neighbour).bind nb.neighbours with
    | some neighbourChunk => neighbourChunk (toLocalpos neighbour)
    | none => mesher.unknownTileData
  else nb.chunk (toLocalpos neighbour)

/-- Whether data next to a side leaves that side visible. -/
def isVisible (mesher : Mesher T V) (neighbourData : TileData) (side : Direction) : Bool :=
  mesher.skip neighbourData ||
    !mesher.occludesSide (mesher.tileForState neighbourData) side.opposing
      (TileRegistry.getEffectiveMetastate neighbourData)

/-- The bit of a direction. -/
def sideBit (dir : Direction) : UInt8 :=
  1 <<< UInt8.ofNat (directions.idxOf dir)

/-- The set of sides to be rendered, given the data next to each. -/
def visibleSides (mesher : Mesher T V) (adjacent : Direction → TileData) : UInt8 :=
  directions.foldl
    (fun sides dir => if mesher.isVisible (adjacent dir) dir then sides ||| sideBit dir else sides)
    0

/-- Push a mesh to the back of the chunk mesh and move it to its place. -/
def pushAndDenormalize (mesher : Mesher T V) (result mesh : TileMesh V) (place : LocalPos) :
    TileMesh V where
  vertices := result.vertices ++ mesh.vertices.map fun vertex => mesher.displace vertex place
  indices := result.indices ++
    mesh.indices.map fun index => index + UInt32.ofNat result.vertices.length

/-- Add a tile to the chunk mesh, given its data and the data next to it. -/
def meshTile (mesher : Mesher T V) (result : TileMesh V) (place : LocalPos) (data : TileData)
    (adjacent : Direction → TileData) : TileMesh V :=
  if mesher.skip data then result
  else if mesher.rendered (mesher.tileForState data) then
    mesher.pushAndDenormalize result
      (mesher.appendMesh (mesher.tileForState data) (mesher.visibleSides adjacent)
        (TileRegistry.getEffectiveMetastate data))
      place
  else result

/-- `mesh_chunk`.  The cache of tile meshes is left out: what it returns is what the tile
would append again. -/
@[irreducible]
def meshChunk (mesher : Mesher T V) (nb : ChunkNeighbourhood) : TileMesh V :=
  places.foldl
    (fun result place => mesher.meshTile result place (nb.chunk place) fun dir =>
      mesher.neighbourData nb (place.offset.towards dir))
    default

/-- The mesh of a chunk in a world in which every tile can be looked up. -/
def meshWorld (mesher : Mesher T V) (lookup : TilePos → TileData) (chunkpos : TilePos) :
    TileMesh V :=
  places.foldl
    (fun result place =>
      mesher.meshTile result place (lookup (toWorldpos chunkpos place.offset)) fun dir =>
        lookup ((toWorldpos chunkpos place.offset).towards dir))
    default

/-- The tiles that the mesh of a chunk is made from: those within and those next to it. -/
def Reads (chunkpos worldpos : TilePos) : Prop :=
  toChunkpos worldpos = chunkpos ∨ ∃ dir, toChunkpos (worldpos.towards dir) = chunkpos

theorem reads_own (chunkpos : TilePos) (place : LocalPos) :
    Reads chunkpos (toWorldpos chunkpos place.offset) :=
  Or.inl (toChunkpos_toWorldpos chunkpos place)

theorem reads_adjacent (chunkpos : TilePos) (place : LocalPos) (dir : Direction) :
    Reads chunkpos ((toWorldpos chunkpos place.offset).towards dir) :=
  Or.inr ⟨dir.opposing, by rw [towards_opposing, toChunkpos_toWorldpos]⟩

/-- A mesh only depends on the tiles it is made from. -/
theorem meshWorld_congr (mesher : Mesher T V) {lookup other : TilePos → TileData}
    {chunkpos : TilePos}
    (agree : ∀ worldpos, Reads chunkpos worldpos → lookup worldpos = other worldpos) :
    mesher.meshWorld lookup chunkpos = mesher.meshWorld other chunkpos := by
  unfold meshWorld
  congr 1
  funext result place
  rw [agree _ (reads_own chunkpos place)]
  congr 1
  funext dir
  exact agree _ (reads_adjacent chunkpos place dir)

/-- Looking a tile up in a table of chunks. -/
def lookup (mesher : Mesher T V) (stored : TilePos → Option ChunkData) (worldpos : TilePos) :
    TileData :=
  match stored (toChunkpos worldpos) with
  | some data => data (toLocalpos worldpos)
  | none => mesher.unknownTileData

/-- The neighbourhood of a chunk in a table of chunks. -/
def neighbourhood (stored : TilePos → Option ChunkData) (chunkpos : TilePos)
    (chunk : ChunkData) : ChunkNeighbourhood :=
  ⟨chunk, fun dir => stored (chunkpos.towards dir)⟩

/-- The data next to a tile of a chunk is the data at that position in the world. -/
theorem neighbourData_neighbourhood (mesher : Mesher T V)
    {stored : TilePos → Option ChunkData} {chunkpos : TilePos} {chunk : ChunkData}
    (present : stored chunkpos = some chunk) (place : LocalPos) (dir : Direction) :
    mesher.neighbourData (neighbourhood stored chunkpos chunk) (place.offset.towards dir) =
      mesher.lookup stored ((toWorldpos chunkpos place.offset).towards dir) := by
  unfold neighbourData lookup
  rw [toLocalpos_towards]
  by_cases leaves : OutOfBounds (place.offset.towards dir)
  · rw [if_pos leaves, neighbourDirection_towards leaves,
      toChunkpos_towards_of_outOfBounds leaves]
    rfl
  · rw [if_neg leaves, toChunkpos_towards_of_inBounds leaves, present]
    rfl

/-- Meshing the neighbourhood of a chunk is meshing the world around it. -/
theorem meshChunk_neighbourhood (mesher : Mesher T V) {stored : TilePos → Option ChunkData}
    {chunkpos : TilePos} {chunk : ChunkData} (present : stored chunkpos = some chunk) :
    mesher.meshChunk (neighbourhood stored chunkpos chunk) =
      mesher.meshWorld (mesher.lookup stored) chunkpos := by
  unfold meshChunk meshWorld
  congr 1
  funext result place
  have own : (neighbourhood stored chunkpos chunk).chunk place =
      mesher.lookup stored (toWorldpos chunkpos place.offset) := by
    rw [lookup, toChunkpos_toWorldpos, present, toLocalpos_toWorldpos]
    rfl
  rw [own]
  congr 1
  funext dir
  exact mesher.neighbourData_neighbourhood present place dir

/-- A chunk of tiles that are skipped has no mesh. -/
theorem meshChunk_of_skipped (mesher : Mesher T V) {nb : ChunkNeighbourhood}
    (skipped : ∀ place, mesher.skip (nb.chunk place) = true) :
    mesher.meshChunk nb = default := by
  unfold meshChunk
  induction places with
  | nil => rfl
  | cons place rest ih => rw [List.foldl_cons, meshTile, if_pos (skipped place), ih]

/-- Meshing a tile only appends vertices. -/
theorem mem_meshTile {mesher : Mesher T V} {result : TileMesh V} {vertex : V}
    (mem : vertex ∈ result.vertices) (place : LocalPos) (data : TileData)
    (adjacent : Direction → TileData) :
    vertex ∈ (mesher.meshTile result place data adjacent).vertices := by
  unfold meshTile
  split
  · exact mem
  · split
    · exact List.mem_append_left _ mem
    · exact mem

theorem mem_foldl_meshTile {mesher : Mesher T V} {data : LocalPos → TileData}
    {adjacent : LocalPos → Direction → TileData} {vertex : V} {result : TileMesh V}
    (mem : vertex ∈ result.vertices) (rest : List LocalPos) :
    vertex ∈ (rest.foldl (fun result place =>
      mesher.meshTile result place (data place) (adjacent place)) result).vertices := by
  induction rest generalizing result with
  | nil => exact mem
  | cons place rest ih => exact ih (mem_meshTile mem place _ _)

/-- The mesh of a chunk contains what each of its rendered tiles appends. -/
theorem displace_mem_meshChunk (mesher : Mesher T V) (nb : ChunkNeighbourhood)
    (place : LocalPos) (kept : mesher.skip (nb.chunk place) = false)
    (rendered : mesher.rendered (mesher.tileForState (nb.chunk place)) = true) {vertex : V}
    (mem : vertex ∈ (mesher.appendMesh (mesher.tileForState (nb.chunk place))
      (mesher.visibleSides fun dir => mesher.neighbourData nb (place.offset.towards dir))
      (TileRegistry.getEffectiveMetastate (nb.chunk place))).vertices) :
    mesher.displace vertex place ∈ (mesher.meshChunk nb).vertices := by
  obtain ⟨before, after, split⟩ := List.append_of_mem (mem_places place)
  unfold meshChunk
  rw [split, List.foldl_append, List.foldl_cons]
  refine mem_foldl_meshTile ?_ after
  rw [meshTile, if_neg (by simp [kept]), if_pos rendered]
  exact List.mem_append_right _ (List.mem_map_of_mem mem)

end Mesher

end VoxelEngine.Voxel
