import VoxelEngine.Data.HashTable
import VoxelEngine.Graphics.TextureAtlas

/-!
# The texture manager

A texture manager keeps the subtextures that it loaded in a cache, by the names of their sources.
A list of textures is either taken from the cache as a whole, or stored as a whole.
-/

namespace VoxelEngine.Graphics

open VoxelEngine.Data VoxelEngine.Transition

/-- `texture_source`, with the size of the image that it supplies. -/
structure TextureSource where
  name : String
  size : Vec2 UInt32
  deriving DecidableEq

/-- `texture_manager` -/
structure TextureManager where
  atlas : GenerativeAtlas
  subtextures : HashTable String BoundSubtexture

namespace TextureManager

/-- The constructor. -/
def create (constructor : Nat → TextureAtlas) : TextureManager :=
  ⟨GenerativeAtlas.create constructor, HashTable.empty⟩

/-- `texture_manager::get_if_exists` -/
def getIfExists (manager : TextureManager) (name : String) : Option BoundSubtexture :=
  manager.subtextures.find name

/-- The state of `texture_manager::get_if_exists_common_texture`, and `texture_id` where it is
set. -/
inductive LookupState where
  | undecided
  | unloaded
  | loaded (textureId : UInt8)

/-- The loop of `texture_manager::get_if_exists_common_texture`, if no assertion fires. -/
def lookUp (manager : TextureManager) :
    LookupState → List BoundSubtexture → List String → Option (List BoundSubtexture)
  | _, result, [] => some result
  | state, result, name :: rest =>
      match manager.getIfExists name, state with
      | some texture, .undecided =>
          manager.lookUp (.loaded texture.binding) (result ++ [texture]) rest
      | some texture, .loaded textureId =>
          if textureId = texture.binding then
            manager.lookUp (.loaded textureId) (result ++ [texture]) rest
          else none
      | some _, .unloaded => none
      | none, .loaded _ => none
      | none, _ => manager.lookUp .unloaded result rest

/-- `texture_manager::get_if_exists_common_texture`, if no assertion fires. -/
def getIfExistsCommonTexture (manager : TextureManager) (names : List String) :
    Option (List BoundSubtexture) :=
  manager.lookUp .undecided [] names

/-- `texture_manager::load_to_common_texture`, but for the upload. -/
def loadToCommonTexture (manager : TextureManager) (images : List TextureSource) :
    Option (TextureManager × Except String (List BoundSubtexture)) :=
  match manager.atlas.prepareStorageForAll (images.map TextureSource.size) with
  | some (atlas, .ok result) =>
      let subtextures :=
        manager.subtextures.emplaceAll ((images.map TextureSource.name).zip result)
      some (⟨atlas, subtextures⟩, .ok result)
  | some (atlas, .error text) => some (⟨atlas, manager.subtextures⟩, .error text)
  | none => none

/-- `texture_manager::get_or_load` -/
def getOrLoad (manager : TextureManager) (source : TextureSource) :
    Option (TextureManager × Except String BoundSubtexture) :=
  match manager.getIfExists source.name with
  | some texture => some (manager, .ok texture)
  | none =>
      match manager.loadToCommonTexture [source] with
      | some (next, .ok result) => result[0]?.map fun texture => (next, .ok texture)
      | some (next, .error text) => some (next, .error text)
      | none => none

/-- `texture_manager::get_or_load_to_common_texture`, if no assertion fires. -/
def getOrLoadToCommonTexture (manager : TextureManager) (sources : List TextureSource) :
    Option (TextureManager × Except String (List BoundSubtexture)) :=
  match manager.getIfExistsCommonTexture (sources.map TextureSource.name) with
  | some [] => manager.loadToCommonTexture sources
  | some textures => some (manager, .ok textures)
  | none => none

end TextureManager

/-- A call of a texture manager. -/
inductive TextureCall where
  | getOrLoad (source : TextureSource)
  | getOrLoadToCommonTexture (sources : List TextureSource)

/-- The sources that a call is about. -/
def TextureCall.sources : TextureCall → List TextureSource
  | .getOrLoad source => [source]
  | .getOrLoadToCommonTexture sources => sources

namespace TextureManager

/-- Make a call, which returns a list of subtextures or throws, if no assertion fires. -/
def call (manager : TextureManager) :
    TextureCall → Option (TextureManager × Except String (List BoundSubtexture))
  | .getOrLoad source => (manager.getOrLoad source).map fun (next, result) =>
      (next, result.map fun texture => [texture])
  | .getOrLoadToCommonTexture sources => manager.getOrLoadToCommonTexture sources

/-- The transition by a call, which keeps what an exception leaves. -/
def step : Step TextureManager TextureCall :=
  fun manager made => (manager.call made).map Prod.fst

end TextureManager

end VoxelEngine.Graphics
