import VoxelEngine.Graphics.GenerativeAllocation
import VoxelEngine.Graphics.TextureManager
import Mathlib.Data.List.Forall2

/-!
# Looking up textures

If no assertion fires, then either all textures of a list are in the cache, or none of them is.
-/

namespace VoxelEngine.Graphics

open VoxelEngine.Data

namespace TextureManager

/-- None of the sources is loaded. -/
def Fresh (manager : TextureManager) (sources : List TextureSource) : Prop :=
  ∀ source ∈ sources, manager.getIfExists source.name = none

section Lookup

variable {manager next : TextureManager} {names : List String}
  {result found textures : List BoundSubtexture} {sources : List TextureSource}

end Lookup

end TextureManager

end VoxelEngine.Graphics
