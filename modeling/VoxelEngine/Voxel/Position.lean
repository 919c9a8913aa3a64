import Mathlib.Data.List.Basic

/-!
# Tile positions, chunk positions and directions

The world is cut into cubes of `chunkSize` tiles a side.  A tile has a position in the
world, which determines the chunk it lies in and its place within that chunk.
-/

namespace VoxelEngine.Voxel

/-- `voxel_settings::chunk_size` -/
abbrev chunkSize : Nat := 32

theorem cast_chunkSize : ((chunkSize : Nat) : Int) = 32 :=
  rfl

theorem val_lt (coordinate : Fin chunkSize) : coordinate.val < 32 :=
  coordinate.isLt

/-- `tilepos`, used both for tiles and for chunks. -/
@[ext]
structure TilePos where
  x : Int
  y : Int
  z : Int
  deriving DecidableEq

instance : Add TilePos :=
  ⟨fun first second => ⟨first.x + second.x, first.y + second.y, first.z + second.z⟩⟩

namespace TilePos

@[simp]
theorem add_x (first second : TilePos) : (first + second).x = first.x + second.x :=
  rfl

@[simp]
theorem add_y (first second : TilePos) : (first + second).y = first.y + second.y :=
  rfl

@[simp]
theorem add_z (first second : TilePos) : (first + second).z = first.z + second.z :=
  rfl

end TilePos

/-- A position within a chunk, an index into its array of tiles. -/
@[ext]
structure LocalPos where
  x : Fin chunkSize
  y : Fin chunkSize
  z : Fin chunkSize
  deriving DecidableEq

/-- A local position as an offset from the corner of its chunk. -/
def LocalPos.offset (place : LocalPos) : TilePos :=
  ⟨place.x, place.y, place.z⟩

/-- `to_chunkpos` -/
def toChunkpos (worldpos : TilePos) : TilePos :=
  ⟨worldpos.x / chunkSize, worldpos.y / chunkSize, worldpos.z / chunkSize⟩

/-- `to_worldpos` -/
def toWorldpos (chunkpos offset : TilePos) : TilePos :=
  ⟨chunkpos.x * chunkSize + offset.x, chunkpos.y * chunkSize + offset.y,
    chunkpos.z * chunkSize + offset.z⟩

/-- One coordinate of `to_localpos`. -/
def localCoordinate (coordinate : Int) : Fin chunkSize :=
  ⟨(coordinate - coordinate / chunkSize * chunkSize).toNat, by
    change _ < 32
    rw [cast_chunkSize]
    omega⟩

/-- `to_localpos` -/
def toLocalpos (worldpos : TilePos) : LocalPos :=
  ⟨localCoordinate worldpos.x, localCoordinate worldpos.y, localCoordinate worldpos.z⟩

theorem localCoordinate_val (coordinate : Int) :
    ((localCoordinate coordinate).val : Int) = coordinate % chunkSize := by
  simp only [localCoordinate, cast_chunkSize]
  omega

/-- A tile is found at its local position in its chunk. -/
@[simp]
theorem toWorldpos_toChunkpos (worldpos : TilePos) :
    toWorldpos (toChunkpos worldpos) (toLocalpos worldpos).offset = worldpos := by
  ext <;> simp only [toWorldpos, toChunkpos, toLocalpos, LocalPos.offset,
    localCoordinate_val, cast_chunkSize] <;> omega

@[simp]
theorem toChunkpos_toWorldpos (chunkpos : TilePos) (place : LocalPos) :
    toChunkpos (toWorldpos chunkpos place.offset) = chunkpos := by
  have xBound := val_lt place.x
  have yBound := val_lt place.y
  have zBound := val_lt place.z
  ext <;> simp only [toWorldpos, toChunkpos, LocalPos.offset, cast_chunkSize] <;> omega

@[simp]
theorem localCoordinate_offset (base : Int) (place : Fin chunkSize) :
    localCoordinate (base * chunkSize + place) = place := by
  apply Fin.ext
  have value := localCoordinate_val (base * chunkSize + place)
  have bound := val_lt place
  rw [cast_chunkSize] at value ⊢
  omega

@[simp]
theorem toLocalpos_toWorldpos (chunkpos : TilePos) (place : LocalPos) :
    toLocalpos (toWorldpos chunkpos place.offset) = place := by
  ext <;> simp only [toWorldpos, toLocalpos, LocalPos.offset, localCoordinate_offset]

/-- `direction_t`, in the order of the table of directions. -/
inductive Direction where
  | backward
  | forward
  | up
  | down
  | right
  | left
  deriving DecidableEq

/-- `directions` -/
def directions : List Direction :=
  [.backward, .forward, .up, .down, .right, .left]

@[simp]
theorem mem_directions (dir : Direction) : dir ∈ directions := by
  cases dir <;> decide

namespace Direction

/-- The unit vector of a direction. -/
def vector : Direction → TilePos
  | backward => ⟨0, 0, 1⟩
  | forward => ⟨0, 0, -1⟩
  | up => ⟨0, 1, 0⟩
  | down => ⟨0, -1, 0⟩
  | right => ⟨1, 0, 0⟩
  | left => ⟨-1, 0, 0⟩

/-- `opposing_direction` -/
def opposing : Direction → Direction
  | backward => forward
  | forward => backward
  | up => down
  | down => up
  | right => left
  | left => right

end Direction

/-- The position one step away. -/
def TilePos.towards (pos : TilePos) (dir : Direction) : TilePos :=
  pos + dir.vector

@[simp]
theorem towards_opposing (pos : TilePos) (dir : Direction) :
    (pos.towards dir).towards dir.opposing = pos := by
  cases dir <;> ext <;>
    simp only [TilePos.towards, TilePos.add_x, TilePos.add_y, TilePos.add_z, Direction.vector,
      Direction.opposing] <;>
    omega

theorem towards_ne (pos : TilePos) (dir : Direction) : pos.towards dir ≠ pos := by
  intro equal
  have xs := congrArg TilePos.x equal
  have ys := congrArg TilePos.y equal
  have zs := congrArg TilePos.z equal
  cases dir <;>
    simp only [TilePos.towards, TilePos.add_x, TilePos.add_y, TilePos.add_z, Direction.vector]
      at xs ys zs <;>
    omega

/-- `direction_from_vector` followed by a lookup in the table of directions. -/
def directionFromVector (vec : TilePos) : Option Direction :=
  directions[(if vec.x + vec.y + vec.z - 1 ≠ 0 then 1 else 0) +
    (if vec.y ≠ 0 then 2 else 0) + (if vec.x ≠ 0 then 4 else 0)]?

@[simp]
theorem directionFromVector_vector (dir : Direction) :
    directionFromVector dir.vector = some dir := by
  cases dir <;> rfl

/-- A coordinate lies outside of the chunk it is relative to. -/
def outside (coordinate : Int) : Prop :=
  coordinate < 0 ∨ coordinate ≥ chunkSize

instance (coordinate : Int) : Decidable (outside coordinate) :=
  inferInstanceAs (Decidable (_ ∨ _))

/-- Whether an offset leaves the chunk. -/
def OutOfBounds (offset : TilePos) : Prop :=
  outside offset.x ∨ outside offset.y ∨ outside offset.z

instance (offset : TilePos) : Decidable (OutOfBounds offset) :=
  inferInstanceAs (Decidable (_ ∨ _))

/-- One coordinate of the vector from which `neighbour_direction` finds its result. -/
def overflow (coordinate : Int) : Int :=
  if coordinate < 0 then -1 else if coordinate ≥ chunkSize then 1 else 0

/-- `neighbour_direction` -/
def neighbourDirection (localpos : TilePos) : Option Direction :=
  directionFromVector ⟨overflow localpos.x, overflow localpos.y, overflow localpos.z⟩

/-- One step out of a chunk overflows in the direction of that step. -/
theorem neighbourDirection_towards {place : LocalPos} {dir : Direction}
    (leaves : OutOfBounds (place.offset.towards dir)) :
    neighbourDirection (place.offset.towards dir) = some dir := by
  have xBound := val_lt place.x
  have yBound := val_lt place.y
  have zBound := val_lt place.z
  have vector : (⟨overflow (place.offset.towards dir).x, overflow (place.offset.towards dir).y,
      overflow (place.offset.towards dir).z⟩ : TilePos) = dir.vector := by
    simp only [OutOfBounds, outside, cast_chunkSize] at leaves
    cases dir <;> ext <;>
      simp only [TilePos.towards, TilePos.add_x, TilePos.add_y, TilePos.add_z,
        Direction.vector, LocalPos.offset, overflow, cast_chunkSize] at leaves ⊢ <;>
      split_ifs <;> omega
  rw [neighbourDirection, vector, directionFromVector_vector]

/-- One step out of a chunk leads to the neighbouring chunk. -/
theorem toChunkpos_towards_of_outOfBounds {place : LocalPos} {dir : Direction}
    (leaves : OutOfBounds (place.offset.towards dir)) (chunkpos : TilePos) :
    toChunkpos ((toWorldpos chunkpos place.offset).towards dir) = chunkpos.towards dir := by
  have xBound := val_lt place.x
  have yBound := val_lt place.y
  have zBound := val_lt place.z
  simp only [OutOfBounds, outside, cast_chunkSize] at leaves
  cases dir <;> ext <;>
    simp only [TilePos.towards, TilePos.add_x, TilePos.add_y, TilePos.add_z, Direction.vector,
      LocalPos.offset, toChunkpos, toWorldpos, cast_chunkSize] at leaves ⊢ <;>
    omega

/-- A step that does not leave the chunk stays in it. -/
theorem toChunkpos_towards_of_inBounds {place : LocalPos} {dir : Direction}
    (stays : ¬OutOfBounds (place.offset.towards dir)) (chunkpos : TilePos) :
    toChunkpos ((toWorldpos chunkpos place.offset).towards dir) = chunkpos := by
  have xBound := val_lt place.x
  have yBound := val_lt place.y
  have zBound := val_lt place.z
  simp only [OutOfBounds, outside, cast_chunkSize] at stays
  cases dir <;> ext <;>
    simp only [TilePos.towards, TilePos.add_x, TilePos.add_y, TilePos.add_z, Direction.vector,
      LocalPos.offset, toChunkpos, toWorldpos, cast_chunkSize] at stays ⊢ <;>
    omega

/-- The local position after a step does not depend on the chunk. -/
@[simp]
theorem toLocalpos_towards (place : LocalPos) (dir : Direction) (chunkpos : TilePos) :
    toLocalpos ((toWorldpos chunkpos place.offset).towards dir) =
      toLocalpos (place.offset.towards dir) := by
  ext <;>
    simp only [toLocalpos, toWorldpos, TilePos.towards, TilePos.add_x, TilePos.add_y,
      TilePos.add_z, ← Int.natCast_inj, localCoordinate_val, cast_chunkSize] <;>
    omega

end VoxelEngine.Voxel
