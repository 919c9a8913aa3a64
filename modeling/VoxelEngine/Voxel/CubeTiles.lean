import VoxelEngine.Voxel.FlatChunk
import VoxelEngine.Voxel.MeshCache
import VoxelEngine.Voxel.TileConsistency
import VoxelEngine.Voxel.TileFaces

/-!
# The sides of a chunk that are to be seen

A side of a tile is to be seen if the tile is rendered and the tile next to it does not occlude
the side that leads back.  Tiles with several states may answer differently in each of them; the
state of such a tile is the metadata that the chunk stores for it.
-/

namespace VoxelEngine.Voxel

/-- The positions in `cube_face_data`, in halves of a tile. -/
def cubeFacePosition (side : Direction) (corner : Fin 4) : TilePos :=
  let second : Int := if corner.val < 2 then 1 else -1
  let third : Int := if corner.val % 2 = 0 then 1 else -1
  match side with
  | .backward => ⟨second, third, 1⟩
  | .forward => ⟨second, third, -1⟩
  | .up => ⟨second, 1, third⟩
  | .down => ⟨second, -1, third⟩
  | .right => ⟨1, third, second⟩
  | .left => ⟨-1, third, second⟩

/-- What the mesher uses of objects of class `tile`, and of their registry.  Derived classes may
override `occludes_side`; the vertices of a face are those that `assemble_vertex` makes from the
textures of that side.  They are where they were asked to be, moved to the place of the tile. -/
structure CubeTiles (T V : Type) where
  registry : TileRegistry T
  skipTileList : List T
  unknownTile : T
  rendered : T → Bool
  transparent : T → Bool
  overrides : T → Option (Direction → TileMetadata → Bool)
  face : T → TileMetadata → Direction → Face V
  displace : V → LocalPos → V
  /-- In halves of a tile. -/
  position : V → TilePos
  normal : V → TilePos
  position_displace : ∀ tile state side corner place,
    position (displace (face tile state side corner) place) =
      cubeFacePosition side corner + (place.offset + place.offset)
  normal_displace : ∀ tile state side corner place,
    normal (displace (face tile state side corner) place) = side.vector

variable {T V : Type}

namespace CubeTiles

/-- `tile::occludes_side`, where it is not overridden. -/
def occludesSide (tiles : CubeTiles T V) (tile : T) (dir : Direction) (state : TileMetadata) :
    Bool :=
  match tiles.overrides tile with
  | some override => override dir state
  | none => tiles.rendered tile && !tiles.transparent tile

/-- The mesher of tiles that are drawn as cubes. -/
def mesher [Tile T] [DecidableEq T] (tiles : CubeTiles T V) : Mesher T V where
  registry := tiles.registry
  skipTileList := tiles.skipTileList
  unknownTile := tiles.unknownTile
  rendered := tiles.rendered
  occludesSide := tiles.occludesSide
  appendMesh := fun tile visibleSides metadata =>
    appendMesh (tiles.rendered tile) (tiles.face tile metadata) visibleSides
  displace := tiles.displace

/-- The registry is the result of some calls, the unknown tile is registered and without states,
and the tiles to be skipped are registered objects of class `tile` itself for which the assertions
of `skip_tile_list` hold. -/
structure Prepared [Tile T] [DecidableEq T] (tiles : CubeTiles T V) : Prop where
  reachable : ∃ actions,
    Transition.run TileRegistry.step TileRegistry.empty actions = some tiles.registry
  unknown_registered : tiles.registry.Registered tiles.unknownTile
  unknown_stateless : isStateless tiles.unknownTile = true
  registered : ∀ tile ∈ tiles.skipTileList, tiles.registry.Registered tile
  stateless : ∀ tile ∈ tiles.skipTileList, isStateless tile = true
  hidden : ∀ tile ∈ tiles.skipTileList, tiles.rendered tile = false
  plain : ∀ tile ∈ tiles.skipTileList, tiles.overrides tile = none

variable [Tile T] (tiles : CubeTiles T V) (nb : ChunkNeighbourhood)

/-! ## What is to be seen -/

/-- Data stands for the tile in the slot that it leads to.  If this tile has several states, the
metadata is its state. -/
structure Holds (td : TileData) (tile : T) (state : TileMetadata) : Prop where
  found : tiles.registry.getTileForState td = some (some tile)
  state_eq : state = if isStateless tile then 0 else td.metadata

/-- Everything in the chunk and in its neighbours stands for a registered tile. -/
structure Populated : Prop where
  chunk : ∀ place, ∃ tile, tiles.registry.getTileForState (nb.chunk place) = some (some tile)
  neighbours : ∀ side neighbour, nb.neighbours side = some neighbour → ∀ place, ∃ tile,
    tiles.registry.getTileForState (neighbour place) = some (some tile)

/-- The tile next to a side and its state: that of the chunk, that of the neighbour on this side,
whose corner is one chunk away, or the unknown tile. -/
inductive Facing (place : LocalPos) (side : Direction) : T → TileMetadata → Prop
  | inside (other : LocalPos) (tile : T) (state : TileMetadata) :
      other.offset = place.offset.towards side → tiles.Holds (nb.chunk other) tile state →
        Facing place side tile state
  | beyond (neighbour : ChunkData) (other : LocalPos) (tile : T) (state : TileMetadata) :
      nb.neighbours side = some neighbour →
        toWorldpos side.vector other.offset = place.offset.towards side →
          tiles.Holds (neighbour other) tile state → Facing place side tile state
  | missing : nb.neighbours side = none →
      (∀ other : LocalPos, other.offset ≠ place.offset.towards side) →
        Facing place side tiles.unknownTile 0

/-- A tile that is drawn is at this place. -/
def RenderedAt (place : LocalPos) : Prop :=
  ∃ tile state, tiles.Holds (nb.chunk place) tile state ∧ tiles.rendered tile = true

/-- A side leads back to where another one came from. -/
def LeadsBack (place : LocalPos) (side back : Direction) : Prop :=
  (place.offset.towards side).towards back = place.offset

/-- A side is to be seen if its tile is rendered and the tile next to it, in its state, does not
occlude the side that leads back. -/
def Shows (place : LocalPos) (side : Direction) : Prop :=
  tiles.RenderedAt nb place ∧ ∃ tile state back, tiles.Facing nb place side tile state ∧
    LeadsBack place side back ∧ tiles.occludesSide tile back state = false

/-- The faces of a mesh: each side that is to be seen once, with the corners that its tile has in
its state, at its place, and with indices that lead to these corners. -/
structure Emits (mesh : TileMesh V) (faces : List (LocalPos × Direction)) : Prop where
  nodup : faces.Nodup
  shown : ∀ place side, (place, side) ∈ faces ↔ tiles.Shows nb place side
  vertices_length : mesh.vertices.length = 4 * faces.length
  vertices : ∀ (number : Nat) (place : LocalPos) (side : Direction),
    faces[number]? = some (place, side) → ∀ tile state, tiles.Holds (nb.chunk place) tile state →
      ∀ corner : Fin 4, mesh.vertices[4 * number + corner.val]? =
        some (tiles.displace (tiles.face tile state side corner) place)
  indices_length : mesh.indices.length = 6 * faces.length
  indices : ∀ number : Nat, number < faces.length → ∀ corner : Fin 6, ∃ index own,
    mesh.indices[6 * number + corner.val]? = some index ∧
      cubeIndexPattern[corner.val]? = some own ∧ own.toNat < 4 ∧
        index.toNat = 4 * number + own.toNat

/-! ## What the mesher asks for -/

/-- The state that `get_effective_metastate` finds in data of a tile: the number of the slot for a
tile without states, and the first state for every other. -/
def askedState (tile : T) : TileMetadata :=
  if isStateless tile then (tiles.registry.info tile).metastate else 0

/-- In the states in which they are asked, tiles occlude the same sides of rendered tiles, and have
the same corners where they are to be seen, as in their own. -/
structure AnswersAlike : Prop where
  occlusion : ∀ place side, tiles.RenderedAt nb place →
    ∀ tile state, tiles.Facing nb place side tile state → ∀ back, LeadsBack place side back →
      tiles.occludesSide tile back (tiles.askedState tile) = tiles.occludesSide tile back state
  corners : ∀ place side, tiles.Shows nb place side →
    ∀ tile state, tiles.Holds (nb.chunk place) tile state → ∀ corner,
      tiles.displace (tiles.face tile (tiles.askedState tile) side corner) place =
        tiles.displace (tiles.face tile state side corner) place

variable {tiles} {nb} {td : TileData} {tile other : T} {state otherState : TileMetadata}
  {place otherPlace : LocalPos} {side otherSide back : Direction}

/-- Data stands for one tile in one state. -/
theorem Holds.unique (holds : tiles.Holds td tile state)
    (others : tiles.Holds td other otherState) : tile = other ∧ state = otherState := by
  have tile_eq : tile = other :=
    Option.some.inj (Option.some.inj (holds.found.symm.trans others.found))
  subst tile_eq
  exact ⟨rfl, holds.state_eq.trans others.state_eq.symm⟩

/-- Whatever leads to a tile stands for it in some state. -/
theorem exists_holds (found : ∃ tile, tiles.registry.getTileForState td = some (some tile)) :
    ∃ tile state, tiles.Holds td tile state := by
  rcases found with ⟨tile, found⟩
  exact ⟨tile, _, found, rfl⟩

/-- The mesher takes data for the tile that it stands for, but asks this tile in another state. -/
theorem Holds.getEffectiveMetastate_eq (consistent : tiles.registry.Consistent)
    (holds : tiles.Holds td tile state) :
    TileRegistry.getEffectiveMetastate td = tiles.askedState tile := by
  have found := holds.found
  rw [TileRegistry.getTileForState] at found
  rw [TileRegistry.getEffectiveMetastate, askedState]
  by_cases reserved : td.tileId.toNat < reservedStatelessTileIds
  · rw [if_pos reserved] at found ⊢
    have owner := consistent.stateless_owner td.tileId.toNat td.metadata.toNat tile
      (Data.SlotVector.occupant_eq_some_iff.mpr found)
    rw [if_pos owner.2.1]
    exact UInt16.toNat_inj.mp owner.2.2.2.symm
  · rw [if_neg reserved] at found ⊢
    have owner := consistent.stateful_owner td.tileId.toNat tile
      (Data.SlotVector.occupant_eq_some_iff.mpr found)
    rw [owner.1]
    rfl

/-- Exactly the opposing side leads back. -/
theorem leadsBack_iff : LeadsBack place side back ↔ back = side.opposing := by
  constructor
  · intro leads
    have xs := congrArg TilePos.x leads
    have ys := congrArg TilePos.y leads
    have zs := congrArg TilePos.z leads
    simp only [TilePos.towards, TilePos.add_x, TilePos.add_y, TilePos.add_z] at xs ys zs
    cases side <;> cases back <;> simp only [Direction.vector] at xs ys zs <;>
      first
        | rfl
        | omega
  · rintro rfl
    exact towards_opposing place.offset side

theorem vector_injective : Function.Injective Direction.vector := by
  intro first second
  cases first <;> cases second <;> decide

theorem offset_injective : Function.Injective LocalPos.offset := by
  intro first second equal
  rcases TilePos.mk.inj equal with ⟨xs, ys, zs⟩
  ext
  · exact Int.ofNat_inj.mp xs
  · exact Int.ofNat_inj.mp ys
  · exact Int.ofNat_inj.mp zs

omit [Tile T] in
/-- A corner tells the side and the place of its face. -/
theorem face_eq_of_corner_eq {corner : Fin 4}
    (equal : tiles.displace (tiles.face tile state side corner) place =
      tiles.displace (tiles.face other otherState otherSide corner) otherPlace) :
    place = otherPlace ∧ side = otherSide := by
  have normals := congrArg tiles.normal equal
  rw [tiles.normal_displace, tiles.normal_displace] at normals
  have side_eq := vector_injective normals
  subst side_eq
  have positions := congrArg tiles.position equal
  rw [tiles.position_displace, tiles.position_displace] at positions
  have xs := congrArg TilePos.x positions
  have ys := congrArg TilePos.y positions
  have zs := congrArg TilePos.z positions
  simp only [TilePos.add_x, TilePos.add_y, TilePos.add_z] at xs ys zs
  constructor
  · apply offset_injective
    ext <;> omega
  · rfl

end CubeTiles

end VoxelEngine.Voxel
