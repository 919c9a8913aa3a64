import VoxelEngine.Data.Scan
import VoxelEngine.Transition.Run
import Mathlib.Data.Finset.Basic
import Mathlib.Data.Rat.Floor

/-!
# The texture atlas

A texture atlas hands out rectangles of a large texture.  It keeps track of them in blocks
of a fixed size, and tells where a rectangle lies in fractions of the size of the texture.
Fractions are exact here.
-/

namespace VoxelEngine.Graphics

open VoxelEngine.Data VoxelEngine.Transition

/-- A pair of coordinates. -/
structure Vec2 (α : Type) where
  x : α
  y : α
  deriving DecidableEq

/-- `subtexture`, as far as its position is concerned. -/
structure Subtexture where
  uv : Vec2 ℚ
  wh : Vec2 ℚ
  deriving DecidableEq

/-- `aligned_texture_atlas` -/
structure TextureAtlas where
  atlasSize : Vec2 UInt32
  atlasAlignment : UInt32
  occupiedBlocks : Finset (Vec2 UInt32)
  deriving DecidableEq

/-- The conversion of a number that is not negative to an integer. -/
def truncate (value : ℚ) : UInt32 :=
  UInt32.ofNat ⌊value⌋₊

/-- The exact value of a coordinate. -/
def exact (coordinate : UInt32) : ℚ :=
  coordinate.toNat

namespace TextureAtlas

/-- The constructor, which refuses a size that is not divisible by the alignment. -/
def create (size : Vec2 UInt32) (alignment : UInt32) : Option TextureAtlas :=
  if alignment ≠ 0 ∧ size.x % alignment = 0 ∧ size.y % alignment = 0 then
    some ⟨size, alignment, ∅⟩
  else none

/-- `aligned_texture_atlas::unaligned_to_blockpos` along one axis. -/
def blockCoordinate (alignment coordinate : UInt32) : UInt32 :=
  (coordinate + alignment - 1) / alignment

/-- `aligned_texture_atlas::unaligned_to_blockpos` -/
def unalignedToBlockpos (atlas : TextureAtlas) (vec : Vec2 UInt32) : Vec2 UInt32 :=
  ⟨blockCoordinate atlas.atlasAlignment vec.x, blockCoordinate atlas.atlasAlignment vec.y⟩

/-- The test of `aligned_texture_atlas::find_storage` at one position. -/
def isFree (atlas : TextureAtlas) (location size : Vec2 UInt32) : Bool :=
  (counters 0 size.x).all fun dx => (counters 0 size.y).all fun dy =>
    decide (⟨location.x + dx, location.y + dy⟩ ∉ atlas.occupiedBlocks)

/-- The size of the atlas in blocks. -/
def blocks (atlas : TextureAtlas) : Vec2 UInt32 :=
  ⟨atlas.atlasSize.x / atlas.atlasAlignment, atlas.atlasSize.y / atlas.atlasAlignment⟩

/-- The inner loop of `aligned_texture_atlas::find_storage`. -/
def searchColumn (atlas : TextureAtlas) (size : Vec2 UInt32) (x : UInt32) :
    Scan (Vec2 UInt32) :=
  scan (atlas.blocks.y - size.y) fun y =>
    if atlas.isFree ⟨x, y⟩ size then .found ⟨x, y⟩ else .exhausted

/-- The search of `aligned_texture_atlas::find_storage`. -/
def findStorage (atlas : TextureAtlas) (size : Vec2 UInt32) : Scan (Vec2 UInt32) :=
  scan (atlas.blocks.x - size.x) (atlas.searchColumn size)

/-- `aligned_texture_atlas::mark_storage` -/
def markStorage (atlas : TextureAtlas) (occupied : Bool) (location size : Vec2 UInt32) :
    TextureAtlas :=
  let blocks := (counters location.x (location.x + size.x)).flatMap fun x =>
    (counters location.y (location.y + size.y)).map fun y => (⟨x, y⟩ : Vec2 UInt32)
  { atlas with
    occupiedBlocks :=
      if occupied then atlas.occupiedBlocks ∪ blocks.toFinset
      else atlas.occupiedBlocks \ blocks.toFinset }

/-- The subtexture that `aligned_texture_atlas::prepare_storage` returns for a location. -/
def subtextureAt (atlas : TextureAtlas) (location size : Vec2 UInt32) : Subtexture where
  uv := ⟨exact (location.x * atlas.atlasAlignment) / exact atlas.atlasSize.x,
    exact (location.y * atlas.atlasAlignment) / exact atlas.atlasSize.y⟩
  wh := ⟨exact size.x / exact atlas.atlasSize.x, exact size.y / exact atlas.atlasSize.y⟩

/-- `aligned_texture_atlas::prepare_storage`, which returns a subtexture, throws an
`atlas_full_error`, or does not return. -/
def prepareStorage (atlas : TextureAtlas) (size : Vec2 UInt32) :
    Option (TextureAtlas × Except String Subtexture) :=
  let blockSize := atlas.unalignedToBlockpos size
  match atlas.findStorage blockSize with
  | .found location =>
      some (atlas.markStorage true location blockSize, .ok (atlas.subtextureAt location size))
  | .exhausted =>
      some (atlas, .error ("Atlas has no space for texture that would occupy " ++
        s!"{blockSize.x} x {blockSize.y} blocks."))
  | .endless => none

/-- `aligned_texture_atlas::remove` -/
def remove (atlas : TextureAtlas) (subtexture : Subtexture) : TextureAtlas :=
  let position (part : Vec2 ℚ) : Vec2 UInt32 :=
    ⟨truncate (part.x * exact atlas.atlasSize.x), truncate (part.y * exact atlas.atlasSize.y)⟩
  atlas.markStorage false (atlas.unalignedToBlockpos (position subtexture.uv))
    (atlas.unalignedToBlockpos (position subtexture.wh))

end TextureAtlas

/-- A call of an atlas by someone who keeps the subtextures that are alive in a list. -/
inductive AtlasCall where
  | prepare (size : Vec2 UInt32)
  | remove (position : Nat)
  deriving DecidableEq

/-- An atlas with its living subtextures. -/
structure AtlasUse where
  atlas : TextureAtlas
  live : List Subtexture

namespace AtlasUse

/-- The transition by a call.  Only living subtextures are removed. -/
def step : Step AtlasUse AtlasCall
  | use, .prepare size =>
      match use.atlas.prepareStorage size with
      | some (atlas, .ok subtexture) => some ⟨atlas, use.live ++ [subtexture]⟩
      | some (atlas, .error _) => some ⟨atlas, use.live⟩
      | none => none
  | use, .remove position =>
      use.live[position]?.map fun subtexture =>
        ⟨use.atlas.remove subtexture, use.live.eraseIdx position⟩

end AtlasUse

end VoxelEngine.Graphics

/-!
## Groups of textures and generative atlases

A group of textures is stored in one atlas or not at all.  A generative atlas tries the atlases
that it has one after the other, and makes a new one if none of them has room.
-/

namespace VoxelEngine.Graphics

open VoxelEngine.Transition

namespace TextureAtlas

/-- The loop of `texture_atlas::prepare_storage_for_all`, which prepared storage for some sizes
already. -/
def prepareEach (atlas : TextureAtlas) (result : List Subtexture) :
    List (Vec2 UInt32) → Option (TextureAtlas × List Subtexture × Option String)
  | [] => some (atlas, result, none)
  | size :: rest =>
      match atlas.prepareStorage size with
      | some (next, .ok subtexture) => next.prepareEach (result ++ [subtexture]) rest
      | some (next, .error text) => some (next, result, some text)
      | none => none

/-- `texture_atlas::prepare_storage_for_all` -/
def prepareStorageForAll (atlas : TextureAtlas) (sizes : List (Vec2 UInt32)) :
    Option (TextureAtlas × Except String (List Subtexture)) :=
  match atlas.prepareEach [] sizes with
  | some (reached, result, none) => some (reached, .ok result)
  | some (reached, result, some text) => some (result.foldl remove reached, .error text)
  | none => none

end TextureAtlas

/-- `subtexture`, with the index of its atlas. -/
structure BoundSubtexture where
  region : Subtexture
  binding : UInt8
  deriving DecidableEq

/-- `generative_texture_atlas`.  Its constructor function makes an empty atlas, which may depend
on how many it made before. -/
structure GenerativeAtlas where
  atlases : List TextureAtlas
  constructor : Nat → TextureAtlas

namespace GenerativeAtlas

/-- The constructor. -/
def create (constructor : Nat → TextureAtlas) : GenerativeAtlas :=
  ⟨[constructor 0], constructor⟩

/-- What is tried with an atlas and its index. -/
abbrev Attempt (β : Type) :=
  TextureAtlas → UInt8 → Option (TextureAtlas × Except String β)

variable {β : Type}

/-- The loop of `generative_texture_atlas::invoke_until_success`, which continues with the atlas
of an index. -/
def invokeEach (attempt : Attempt β) (index : Nat) :
    List TextureAtlas → Option (List TextureAtlas × Option β)
  | [] => some ([], none)
  | atlas :: rest =>
      match attempt atlas (UInt8.ofNat index) with
      | some (next, .ok value) => some (next :: rest, some value)
      | some (next, .error _) =>
          (invokeEach attempt (index + 1) rest).map fun (others, value) => (next :: others, value)
      | none => none

/-- `generative_texture_atlas::invoke_until_success` -/
def invokeUntilSuccess (atlas : GenerativeAtlas) (attempt : Attempt β) :
    Option (GenerativeAtlas × Except String β) :=
  match invokeEach attempt 0 atlas.atlases with
  | some (atlases, some value) => some ({ atlas with atlases := atlases }, .ok value)
  | some (atlases, none) =>
      if 255 ≤ atlases.length then
        some ({ atlas with atlases := atlases }, .error
          "Generative atlas cannot generate more atlases: u8 max value exceeded.")
      else
        (attempt (atlas.constructor atlases.length) (UInt8.ofNat atlases.length)).map
          fun (made, result) => ({ atlas with atlases := atlases ++ [made] }, result)
  | none => none

/-- The function that `generative_texture_atlas::prepare_storage` invokes. -/
def prepareOne (size : Vec2 UInt32) : Attempt BoundSubtexture :=
  fun atlas index => (atlas.prepareStorage size).map fun (next, result) =>
    (next, result.map fun region => ⟨region, index⟩)

/-- The function that `generative_texture_atlas::prepare_storage_for_all` invokes. -/
def prepareGroup (sizes : List (Vec2 UInt32)) : Attempt (List BoundSubtexture) :=
  fun atlas index => (atlas.prepareStorageForAll sizes).map fun (next, result) =>
    (next, result.map fun regions => regions.map fun region => ⟨region, index⟩)

/-- `generative_texture_atlas::prepare_storage` -/
def prepareStorage (atlas : GenerativeAtlas) (size : Vec2 UInt32) :
    Option (GenerativeAtlas × Except String BoundSubtexture) :=
  atlas.invokeUntilSuccess (prepareOne size)

/-- `generative_texture_atlas::prepare_storage_for_all` -/
def prepareStorageForAll (atlas : GenerativeAtlas) (sizes : List (Vec2 UInt32)) :
    Option (GenerativeAtlas × Except String (List BoundSubtexture)) :=
  atlas.invokeUntilSuccess (prepareGroup sizes)

end GenerativeAtlas

/-- A call of a generative atlas. -/
inductive GenerativeCall where
  | prepare (size : Vec2 UInt32)
  | prepareAll (sizes : List (Vec2 UInt32))

/-- The sizes that a call is about. -/
def GenerativeCall.sizes : GenerativeCall → List (Vec2 UInt32)
  | .prepare size => [size]
  | .prepareAll sizes => sizes

/-- A generative atlas with its living subtextures.  There is no way to remove them. -/
structure GenerativeUse where
  atlas : GenerativeAtlas
  live : List BoundSubtexture

namespace GenerativeUse

/-- What a call returns is alive from then on. -/
def handOut (use : GenerativeUse) :
    GenerativeAtlas × Except String (List BoundSubtexture) → GenerativeUse
  | (next, .ok subtextures) => ⟨next, use.live ++ subtextures⟩
  | (next, .error _) => ⟨next, use.live⟩

/-- The transition by a call. -/
def step : Step GenerativeUse GenerativeCall
  | use, .prepare size => (use.atlas.prepareStorage size).map fun (next, result) =>
      use.handOut (next, result.map fun subtexture => [subtexture])
  | use, .prepareAll sizes => (use.atlas.prepareStorageForAll sizes).map use.handOut

end GenerativeUse

end VoxelEngine.Graphics
