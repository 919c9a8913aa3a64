import VoxelEngine.Data.MachineInteger
import VoxelEngine.Voxel.Position

/-!
# Positions as the machine computes them

The coordinates of a position are signed words of thirty-two bits, which are split into the
coordinates of a chunk and of a place in it by shifting them.  None of these steps wraps
around, for any position, so that they compute what the same steps compute on integers.
-/

namespace VoxelEngine.Voxel

open VoxelEngine.Data.SignedWord

/-- `vec3i`, the type of `tilepos`. -/
@[ext]
structure Vec3i where
  x : Int32
  y : Int32
  z : Int32
  deriving DecidableEq

/-- `lsb`, the number of zeros below the lowest bit that is set. -/
def lsb (value : Nat) : Nat :=
  ((List.range 64).find? value.testBit).getD 64

/-- `chunk_size` as a coordinate. -/
def extent : Int32 :=
  Int32.ofNat chunkSize

/-- The distance of the shifts between positions of tiles and of chunks. -/
def shift : Int32 :=
  Int32.ofNat (lsb chunkSize)

theorem toInt_extent : extent.toInt = chunkSize := by
  decide

theorem toNat_shift : (shift.toBitVec.smod 32).toNat = 5 := by
  decide

/-- `flatten`, for coordinates of type `i32`. -/
def flatten (pos : Vec3i) (size : Int32) : Int32 :=
  pos.z + pos.y * size + pos.x * (size * size)

namespace Vec3i

instance : Add Vec3i :=
  ⟨fun first second => ⟨first.x + second.x, first.y + second.y, first.z + second.z⟩⟩

instance : Sub Vec3i :=
  ⟨fun first second => ⟨first.x - second.x, first.y - second.y, first.z - second.z⟩⟩

instance : Zero Vec3i :=
  ⟨0, 0, 0⟩

/-- Shift all coordinates to the right. -/
def shiftRight (pos : Vec3i) (amount : Int32) : Vec3i :=
  ⟨pos.x >>> amount, pos.y >>> amount, pos.z >>> amount⟩

/-- Shift all coordinates to the left. -/
def shiftLeft (pos : Vec3i) (amount : Int32) : Vec3i :=
  ⟨pos.x <<< amount, pos.y <<< amount, pos.z <<< amount⟩

/-- `to_chunkpos` -/
def toChunkpos (worldpos : Vec3i) : Vec3i :=
  worldpos.shiftRight shift

/-- `to_worldpos` -/
def toWorldpos (chunkpos offset : Vec3i) : Vec3i :=
  chunkpos.shiftLeft shift + offset

/-- `to_localpos` -/
def toLocalpos (worldpos : Vec3i) : Vec3i :=
  worldpos - (toChunkpos worldpos).toWorldpos 0

/-- The index that a place has in the array of a chunk, converted to `std::size_t`. -/
def index (localpos : Vec3i) : Nat :=
  (flatten localpos extent).toInt64.toUInt64.toNat

/-- The position that the words stand for. -/
def exact (pos : Vec3i) : TilePos :=
  ⟨pos.x.toInt, pos.y.toInt, pos.z.toInt⟩

/-- The words that stand for a position, if it is representable. -/
def ofExact (pos : TilePos) : Vec3i :=
  ⟨Int32.ofInt pos.x, Int32.ofInt pos.y, Int32.ofInt pos.z⟩

theorem exact_injective {first second : Vec3i} (equal : first.exact = second.exact) :
    first = second := by
  have xs := congrArg TilePos.x equal
  have ys := congrArg TilePos.y equal
  have zs := congrArg TilePos.z equal
  ext
  · exact Int32.toInt_inj.mp xs
  · exact Int32.toInt_inj.mp ys
  · exact Int32.toInt_inj.mp zs

end Vec3i

/-- A position whose coordinates are words. -/
structure TilePos.Representable (pos : TilePos) : Prop where
  x : Fits pos.x
  y : Fits pos.y
  z : Fits pos.z

instance (pos : TilePos) : Decidable pos.Representable :=
  decidable_of_iff (Fits pos.x ∧ Fits pos.y ∧ Fits pos.z)
    ⟨fun ⟨x, y, z⟩ => ⟨x, y, z⟩, fun ⟨x, y, z⟩ => ⟨x, y, z⟩⟩

namespace Vec3i

theorem representable_exact (pos : Vec3i) : pos.exact.Representable :=
  ⟨fits_toInt pos.x, fits_toInt pos.y, fits_toInt pos.z⟩

theorem exact_ofExact {pos : TilePos} (representable : pos.Representable) :
    (ofExact pos).exact = pos := by
  ext
  · exact Int32.toInt_ofInt_of_le representable.x.1 representable.x.2
  · exact Int32.toInt_ofInt_of_le representable.y.1 representable.y.2
  · exact Int32.toInt_ofInt_of_le representable.z.1 representable.z.2

@[simp]
theorem ofExact_exact (pos : Vec3i) : ofExact pos.exact = pos :=
  exact_injective (exact_ofExact pos.representable_exact)

theorem exact_add {first second : Vec3i}
    (representable : (first.exact + second.exact).Representable) :
    (first + second).exact = first.exact + second.exact := by
  ext
  · exact toInt_add_of_fits representable.x
  · exact toInt_add_of_fits representable.y
  · exact toInt_add_of_fits representable.z

@[simp]
theorem exact_toChunkpos (worldpos : Vec3i) :
    (toChunkpos worldpos).exact = Voxel.toChunkpos worldpos.exact := by
  ext
  · exact toInt_shiftRight toNat_shift
  · exact toInt_shiftRight toNat_shift
  · exact toInt_shiftRight toNat_shift

/-- The corner of the chunk that a coordinate lies in is representable. -/
theorem fits_corner (word : Int32) : Fits (word.toInt / 32 * 32) := by
  have fits := fits_toInt word
  constructor <;> have lower := fits.1 <;> have upper := fits.2 <;> omega

theorem toInt_corner (word : Int32) :
    ((word >>> shift) <<< shift).toInt = word.toInt / 32 * 32 := by
  have quotient : (word >>> shift).toInt = word.toInt / 32 := toInt_shiftRight toNat_shift
  rw [← quotient]
  apply toInt_shiftLeft_of_fits toNat_shift
  rw [quotient]
  exact fits_corner word

/-- The corner of the chunk that a position lies in is computed without overflow. -/
theorem exact_corner (worldpos : Vec3i) :
    ((toChunkpos worldpos).toWorldpos 0).exact =
      Voxel.toWorldpos (Voxel.toChunkpos worldpos.exact) ⟨0, 0, 0⟩ := by
  have coordinate (word : Int32) :
      ((word >>> shift) <<< shift + 0).toInt = word.toInt / chunkSize * chunkSize + 0 := by
    rw [Int32.add_zero, toInt_corner, Int.add_zero, cast_chunkSize]
  ext
  · exact coordinate worldpos.x
  · exact coordinate worldpos.y
  · exact coordinate worldpos.z

/-- A coordinate relative to its corner lies in the chunk. -/
theorem toInt_sub_corner (word : Int32) :
    (word - ((word >>> shift) <<< shift + 0)).toInt = word.toInt % 32 := by
  have corner : ((word >>> shift) <<< shift + 0).toInt = word.toInt / 32 * 32 := by
    rw [Int32.add_zero, toInt_corner]
  have difference : word.toInt - word.toInt / 32 * 32 = word.toInt % 32 := by omega
  rw [toInt_sub_of_fits, corner, difference]
  rw [corner, difference]
  constructor <;> omega

/-- The place in the chunk is computed without overflow. -/
@[simp]
theorem exact_toLocalpos (worldpos : Vec3i) :
    (toLocalpos worldpos).exact = (Voxel.toLocalpos worldpos.exact).offset := by
  ext
  · exact (toInt_sub_corner worldpos.x).trans (localCoordinate_val _).symm
  · exact (toInt_sub_corner worldpos.y).trans (localCoordinate_val _).symm
  · exact (toInt_sub_corner worldpos.z).trans (localCoordinate_val _).symm

/-- A position is put together again from its chunk and its place in it. -/
@[simp]
theorem toWorldpos_toChunkpos (worldpos : Vec3i) :
    toWorldpos (toChunkpos worldpos) (toLocalpos worldpos) = worldpos := by
  have coordinate (word corner : Int32) : corner + (word - (corner + 0)) = word := by
    rw [Int32.add_zero, Int32.add_comm, Int32.sub_add_cancel]
  ext : 1
  · exact coordinate worldpos.x _
  · exact coordinate worldpos.y _
  · exact coordinate worldpos.z _

/-- Putting a position together does not overflow. -/
@[simp]
theorem exact_toWorldpos (worldpos : Vec3i) :
    (toWorldpos (toChunkpos worldpos) (toLocalpos worldpos)).exact =
      Voxel.toWorldpos (toChunkpos worldpos).exact (toLocalpos worldpos).exact := by
  rw [toWorldpos_toChunkpos, exact_toChunkpos, exact_toLocalpos, Voxel.toWorldpos_toChunkpos]

end Vec3i

/-- `flatten`, for the places of a chunk. -/
def LocalPos.index (place : LocalPos) : Nat :=
  place.z + place.y * chunkSize + place.x * (chunkSize * chunkSize)

/-- `unflatten` -/
def unflatten (index : Fin (chunkSize * chunkSize * chunkSize)) : LocalPos where
  x := ⟨index / (chunkSize * chunkSize), by
    have bound : index.val < 32 * 32 * 32 := index.isLt
    change _ / (32 * 32) < 32
    omega⟩
  y := ⟨index / chunkSize % chunkSize, Nat.mod_lt _ (by decide)⟩
  z := ⟨index % chunkSize, Nat.mod_lt _ (by decide)⟩

namespace LocalPos

theorem index_lt (place : LocalPos) : place.index < chunkSize * chunkSize * chunkSize := by
  have xBound := val_lt place.x
  have yBound := val_lt place.y
  have zBound := val_lt place.z
  change place.z.val + place.y.val * 32 + place.x.val * (32 * 32) < 32 * 32 * 32
  omega

@[simp]
theorem index_unflatten (index : Fin (chunkSize * chunkSize * chunkSize)) :
    (unflatten index).index = index := by
  change index.val % 32 + index.val / 32 % 32 * 32 + index.val / (32 * 32) * (32 * 32) = index
  omega

@[simp]
theorem unflatten_index (place : LocalPos) : unflatten ⟨place.index, place.index_lt⟩ = place := by
  have xBound := val_lt place.x
  have yBound := val_lt place.y
  have zBound := val_lt place.z
  ext
  · change (place.z.val + place.y.val * 32 + place.x.val * (32 * 32)) / (32 * 32) = place.x
    omega
  · change (place.z.val + place.y.val * 32 + place.x.val * (32 * 32)) / 32 % 32 = place.y
    omega
  · change (place.z.val + place.y.val * 32 + place.x.val * (32 * 32)) % 32 = place.z
    omega

theorem index_injective {first second : LocalPos} (equal : first.index = second.index) :
    first = second := by
  rw [← unflatten_index first, ← unflatten_index second]
  exact congrArg unflatten (Fin.ext equal)

theorem representable_offset (place : LocalPos) : place.offset.Representable := by
  have fits (coordinate : Fin chunkSize) : Fits (coordinate.val : Int) := by
    have bound := val_lt coordinate
    constructor <;> omega
  exact ⟨fits place.x, fits place.y, fits place.z⟩

end LocalPos

/-- The index of a place in the chunk is computed without overflow. -/
theorem Vec3i.index_eq {pos : Vec3i} {place : LocalPos} (inside : pos.exact = place.offset) :
    pos.index = place.index := by
  have xBound := val_lt place.x
  have yBound := val_lt place.y
  have zBound := val_lt place.z
  have xs : pos.x.toInt = place.x := congrArg TilePos.x inside
  have ys : pos.y.toInt = place.y := congrArg TilePos.y inside
  have zs : pos.z.toInt = place.z := congrArg TilePos.z inside
  have size : extent.toInt = 32 := toInt_extent
  have area : (extent * extent).toInt = 1024 := by decide
  have yTerm : (pos.y * extent).toInt = place.y * 32 := by
    rw [toInt_mul_of_fits] <;> rw [ys, size]
    constructor <;> omega
  have xTerm : (pos.x * (extent * extent)).toInt = place.x * 1024 := by
    rw [toInt_mul_of_fits] <;> rw [xs, area]
    constructor <;> omega
  have yzTerm : (pos.z + pos.y * extent).toInt = place.z + place.y * 32 := by
    rw [toInt_add_of_fits] <;> rw [zs, yTerm]
    constructor <;> omega
  have whole : (flatten pos extent).toInt = place.z + place.y * 32 + place.x * 1024 := by
    rw [flatten, toInt_add_of_fits] <;> rw [yzTerm, xTerm]
    constructor <;> omega
  rw [Vec3i.index, toNat_toUInt64_of_nonneg (by omega), whole]
  change _ = place.z.val + place.y.val * 32 + place.x.val * (32 * 32)
  omega

end VoxelEngine.Voxel
