import VoxelEngine.Data.HashTable
import VoxelEngine.Voxel.ChunkMesher

/-!
# The cache of tile meshes

Each thread keeps the meshes that tiles appended, by the data of the tile and its visible sides.
A tile for which there is such a mesh is not asked for it again.  The states that are looked for
in a chunk, of tiles that are skipped and of the unknown tile, are determined once.
-/

namespace VoxelEngine.Voxel

open VoxelEngine.Data

/-- `mesh_cache_key` -/
structure MeshCacheKey where
  data : TileData
  visibleSides : UInt8
  deriving DecidableEq

/-- `mesh_cache` -/
abbrev MeshCache (V : Type) := HashTable MeshCacheKey (TileMesh V)

/-- The static variables `skip_list` and `unknown_tile_data` of `mesh_chunk`. -/
structure MeshStatics where
  skipData : List TileData
  unknownTileData : TileData

namespace MeshStatics

variable {T V : Type} [Tile T] [DecidableEq T] (statics : MeshStatics) (mesher : Mesher T V)

/-- `skip_tile_list::skip` -/
def skip (td : TileData) : Bool :=
  statics.skipData.contains td

/-- The data next to a tile, found in the chunk or in one of its neighbours. -/
def neighbourData (nb : ChunkNeighbourhood) (neighbour : TilePos) : TileData :=
  if OutOfBounds neighbour then
    match (neighbourDirection neighbour).bind nb.neighbours with
    | some neighbourChunk => neighbourChunk (toLocalpos neighbour)
    | none => statics.unknownTileData
  else nb.chunk (toLocalpos neighbour)

/-- Whether data next to a side leaves that side visible. -/
def isVisible (neighbourData : TileData) (side : Direction) : Bool :=
  statics.skip neighbourData ||
    !mesher.occludesSide (mesher.tileForState neighbourData) side.opposing
      (TileRegistry.getEffectiveMetastate neighbourData)

/-- The set of sides of a place to be rendered. -/
def visibleSides (nb : ChunkNeighbourhood) (place : LocalPos) : UInt8 :=
  directions.foldl
    (fun sides dir =>
      if statics.isVisible mesher (statics.neighbourData nb (place.offset.towards dir)) dir then
        sides ||| Mesher.sideBit dir
      else sides)
    0

/-- The key under which the mesh of a place is kept. -/
def keyAt (nb : ChunkNeighbourhood) (place : LocalPos) : MeshCacheKey :=
  ⟨nb.chunk place, statics.visibleSides mesher nb place⟩

/-- Whether there is a mesh to be made for a place. -/
def kept (nb : ChunkNeighbourhood) (place : LocalPos) : Bool :=
  !statics.skip (nb.chunk place) && mesher.rendered (mesher.tileForState (nb.chunk place))

/-- One round of the loop of `mesh_chunk`, which takes the mesh of a tile from the cache or
puts it there. -/
def meshTile (nb : ChunkNeighbourhood) (state : TileMesh V × MeshCache V) (place : LocalPos) :
    TileMesh V × MeshCache V :=
  let data := nb.chunk place
  if statics.skip data then state
  else if mesher.rendered (mesher.tileForState data) then
    let key := statics.keyAt mesher nb place
    match state.2.find key with
    | some mesh => (mesher.pushAndDenormalize state.1 mesh place, state.2)
    | none =>
        let mesh := mesher.appendMesh (mesher.tileForState data) key.visibleSides
          (TileRegistry.getEffectiveMetastate data)
        (mesher.pushAndDenormalize state.1 mesh place, state.2.emplace (key, mesh))
  else state

/-- `mesh_chunk`, after its static variables are initialised. -/
@[irreducible]
def meshChunk (cache : MeshCache V) (nb : ChunkNeighbourhood) : TileMesh V × MeshCache V :=
  places.foldl (statics.meshTile mesher nb) (default, cache)

end MeshStatics

namespace Mesher

variable {T V : Type} [Tile T] [DecidableEq T]

/-- What a tile appends for given data and sides. -/
def tileMesh (mesher : Mesher T V) (key : MeshCacheKey) : TileMesh V :=
  mesher.appendMesh (mesher.tileForState key.data) key.visibleSides
    (TileRegistry.getEffectiveMetastate key.data)

/-- The static variables as the first call of `mesh_chunk` finds them. -/
def statics (mesher : Mesher T V) : MeshStatics :=
  ⟨mesher.skipTileList.map mesher.registry.getDefaultState, mesher.unknownTileData⟩

end Mesher

namespace MeshStatics

variable {T V : Type} [Tile T] [DecidableEq T] {statics : MeshStatics} {mesher : Mesher T V}
  {cache : MeshCache V} {nb : ChunkNeighbourhood}

/-- What is kept for the tiles of a chunk is what they append. -/
def Serves (statics : MeshStatics) (mesher : Mesher T V) (nb : ChunkNeighbourhood)
    (cache : MeshCache V) : Prop :=
  ∀ place, statics.kept mesher nb place = true → ∀ mesh,
    cache.find (statics.keyAt mesher nb place) = some mesh →
      mesh = mesher.tileMesh (statics.keyAt mesher nb place)

/-- Add the mesh of a place, which its tile is asked for. -/
def freshTile (statics : MeshStatics) (mesher : Mesher T V) (nb : ChunkNeighbourhood)
    (result : TileMesh V) (place : LocalPos) : TileMesh V :=
  if statics.kept mesher nb place then
    mesher.pushAndDenormalize result (mesher.tileMesh (statics.keyAt mesher nb place)) place
  else result

/-- The entries of the cache that some places ask for. -/
def demanded (statics : MeshStatics) (mesher : Mesher T V) (nb : ChunkNeighbourhood)
    (among : List LocalPos) : List (MeshCacheKey × TileMesh V) :=
  (among.filter (statics.kept mesher nb)).map fun place =>
    (statics.keyAt mesher nb place, mesher.tileMesh (statics.keyAt mesher nb place))

theorem meshTile_of_not_kept {place : LocalPos} (dropped : statics.kept mesher nb place = false)
    (state : TileMesh V × MeshCache V) : statics.meshTile mesher nb state place = state := by
  rw [kept, Bool.and_eq_false_iff, Bool.not_eq_false'] at dropped
  rw [meshTile]
  rcases dropped with skipped | hidden
  · rw [if_pos skipped]
  · simp only [hidden, Bool.false_eq_true, if_false, ite_self]

/-- A round finds the mesh in the cache or puts it there. -/
theorem meshTile_of_kept {place : LocalPos} (isKept : statics.kept mesher nb place = true)
    (state : TileMesh V × MeshCache V) :
    statics.meshTile mesher nb state place =
      (mesher.pushAndDenormalize state.1
        ((state.2.find (statics.keyAt mesher nb place)).getD
          (mesher.tileMesh (statics.keyAt mesher nb place))) place,
        state.2.emplace (statics.keyAt mesher nb place,
          mesher.tileMesh (statics.keyAt mesher nb place))) := by
  rw [kept, Bool.and_eq_true, Bool.not_eq_true'] at isKept
  rw [meshTile]
  dsimp only
  rw [if_neg (by simp [isKept.1]), if_pos isKept.2]
  cases found : state.2.find (statics.keyAt mesher nb place) with
  | none => rfl
  | some mesh =>
      have unchanged : state.2.emplace (statics.keyAt mesher nb place,
          mesher.tileMesh (statics.keyAt mesher nb place)) = state.2 :=
        HashTable.emplace_of_find found
      rw [unchanged]
      rfl

/-- Only the tiles that are to be drawn take part. -/
theorem meshChunk_eq_foldl_filter (statics : MeshStatics) (mesher : Mesher T V)
    (cache : MeshCache V) (nb : ChunkNeighbourhood) :
    statics.meshChunk mesher cache nb =
      (places.filter (statics.kept mesher nb)).foldl (statics.meshTile mesher nb)
        (default, cache) := by
  have loop (among : List LocalPos) (state : TileMesh V × MeshCache V) :
      among.foldl (statics.meshTile mesher nb) state =
        (among.filter (statics.kept mesher nb)).foldl (statics.meshTile mesher nb) state := by
    induction among generalizing state with
    | nil => rfl
    | cons place rest ih =>
        cases isKept : statics.kept mesher nb place with
        | false =>
            rw [List.foldl_cons, meshTile_of_not_kept isKept,
              List.filter_cons_of_neg (by simp [isKept]), ih]
        | true =>
            rw [List.foldl_cons, List.filter_cons_of_pos isKept, List.foldl_cons, ih]
  unfold meshChunk
  exact loop places (default, cache)

/-- A chunk in which one tile is to be drawn. -/
theorem meshChunk_of_single {place : LocalPos}
    (single : places.filter (statics.kept mesher nb) = [place]) (cache : MeshCache V) :
    statics.meshChunk mesher cache nb =
      (mesher.pushAndDenormalize default
        ((cache.find (statics.keyAt mesher nb place)).getD
          (mesher.tileMesh (statics.keyAt mesher nb place))) place,
        cache.emplace (statics.keyAt mesher nb place,
          mesher.tileMesh (statics.keyAt mesher nb place))) := by
  have isKept : statics.kept mesher nb place = true := by
    have mem : place ∈ places.filter (statics.kept mesher nb) := by
      rw [single]
      exact List.mem_cons_self
    exact (List.mem_filter.mp mem).2
  rw [meshChunk_eq_foldl_filter, single, List.foldl_cons, List.foldl_nil,
    meshTile_of_kept isKept]

/-- What serves the chunk before a round serves it afterwards. -/
theorem Serves.meshTile {state : TileMesh V × MeshCache V}
    (serves : Serves statics mesher nb state.2) (place : LocalPos) :
    Serves statics mesher nb (statics.meshTile mesher nb state place).2 := by
  cases isKept : statics.kept mesher nb place with
  | false =>
      rw [meshTile_of_not_kept isKept]
      exact serves
  | true =>
      rw [meshTile_of_kept isKept]
      intro other otherKept mesh found
      rw [HashTable.find_emplace, Option.or_eq_some_iff] at found
      rcases found with old | ⟨_, new⟩
      · exact serves other otherKept mesh old
      · split at new
        · rename_i same
          rw [same]
          exact (Option.some.inj new).symm
        · cases new

/-- A round adds what the tile appends. -/
theorem meshTile_result {state : TileMesh V × MeshCache V}
    (serves : Serves statics mesher nb state.2) (place : LocalPos) :
    (statics.meshTile mesher nb state place).1 =
      freshTile statics mesher nb state.1 place := by
  rw [freshTile]
  cases isKept : statics.kept mesher nb place with
  | false =>
      rw [meshTile_of_not_kept isKept]
      rfl
  | true =>
      rw [meshTile_of_kept isKept, if_pos rfl]
      cases found : state.2.find (statics.keyAt mesher nb place) with
      | none => rfl
      | some mesh => rw [Option.getD_some, serves place isKept mesh found]

/-- A cache that serves the chunk does not show in its mesh. -/
theorem meshChunk_result (serves : Serves statics mesher nb cache) :
    (statics.meshChunk mesher cache nb).1 =
      places.foldl (freshTile statics mesher nb) default := by
  have loop (among : List LocalPos) (state : TileMesh V × MeshCache V)
      (serves : Serves statics mesher nb state.2) :
      (among.foldl (statics.meshTile mesher nb) state).1 =
        among.foldl (freshTile statics mesher nb) state.1 := by
    induction among generalizing state with
    | nil => rfl
    | cons place rest ih =>
        rw [List.foldl_cons, List.foldl_cons, ih _ (serves.meshTile place),
          meshTile_result serves place]
  unfold meshChunk
  generalize places = among
  exact loop among (default, cache) serves

/-- The cache is filled with what the tiles of the chunk append. -/
theorem meshChunk_cache (statics : MeshStatics) (mesher : Mesher T V) (cache : MeshCache V)
    (nb : ChunkNeighbourhood) :
    (statics.meshChunk mesher cache nb).2 =
      cache.emplaceAll (demanded statics mesher nb places) := by
  have loop (among : List LocalPos) (state : TileMesh V × MeshCache V) :
      (among.foldl (statics.meshTile mesher nb) state).2 =
        state.2.emplaceAll (demanded statics mesher nb among) := by
    induction among generalizing state with
    | nil => rfl
    | cons place rest ih =>
        rw [List.foldl_cons, ih]
        cases isKept : statics.kept mesher nb place with
        | false =>
            rw [meshTile_of_not_kept isKept, demanded, demanded,
              List.filter_cons_of_neg (by simp [isKept])]
        | true =>
            rw [meshTile_of_kept isKept, demanded, demanded,
              List.filter_cons_of_pos isKept, List.map_cons]
            rfl
  unfold meshChunk
  generalize places = among
  exact loop among (default, cache)

theorem serves_empty (statics : MeshStatics) (mesher : Mesher T V) (nb : ChunkNeighbourhood) :
    Serves statics mesher nb HashTable.empty := by
  intro place _ mesh found
  cases found

end MeshStatics

namespace Mesher

variable {T V : Type} [Tile T] [DecidableEq T]

/-- All meshes that are kept are what the tiles append. -/
def Accurate (mesher : Mesher T V) (cache : MeshCache V) : Prop :=
  ∀ key mesh, cache.find key = some mesh → mesh = mesher.tileMesh key

theorem Accurate.serves {mesher : Mesher T V} {cache : MeshCache V}
    (accurate : mesher.Accurate cache) (statics : MeshStatics) (nb : ChunkNeighbourhood) :
    MeshStatics.Serves statics mesher nb cache :=
  fun _ _ mesh found => accurate _ mesh found

/-- Meshing a chunk keeps an accurate cache accurate. -/
theorem Accurate.meshChunk {mesher : Mesher T V} {cache : MeshCache V}
    (accurate : mesher.Accurate cache) (statics : MeshStatics) (nb : ChunkNeighbourhood) :
    mesher.Accurate (statics.meshChunk mesher cache nb).2 := by
  intro key mesh found
  rw [MeshStatics.meshChunk_cache, HashTable.find_emplaceAll, List.lookup_append,
    Option.or_eq_some_iff] at found
  rcases found with old | ⟨_, new⟩
  · exact accurate key mesh old
  · rcases List.lookup_eq_some_iff.mp new with ⟨before, after, entries_eq, _⟩
    have mem : (key, mesh) ∈ MeshStatics.demanded statics mesher nb places := by
      rw [entries_eq]
      exact List.mem_append_right _ List.mem_cons_self
    rcases List.mem_map.mp mem with ⟨place, _, entry_eq⟩
    rw [Prod.mk.injEq] at entry_eq
    rw [← entry_eq.1]
    exact entry_eq.2.symm

/-- With an accurate cache, the mesh of a chunk is what it is without one. -/
theorem meshChunk_statics {mesher : Mesher T V} {cache : MeshCache V}
    (accurate : mesher.Accurate cache) (nb : ChunkNeighbourhood) :
    (mesher.statics.meshChunk mesher cache nb).1 = mesher.meshChunk nb := by
  have rounds : MeshStatics.freshTile mesher.statics mesher nb = fun result place =>
      mesher.meshTile result place (nb.chunk place) fun dir =>
        mesher.neighbourData nb (place.offset.towards dir) := by
    funext result place
    rw [MeshStatics.freshTile, MeshStatics.kept, meshTile]
    change (if (!mesher.skip (nb.chunk place) &&
      mesher.rendered (mesher.tileForState (nb.chunk place))) = true then _ else _) = _
    cases mesher.skip (nb.chunk place) with
    | true => rfl
    | false => rfl
  rw [MeshStatics.meshChunk_result (accurate.serves mesher.statics nb), rounds]
  unfold meshChunk
  rfl

end Mesher

end VoxelEngine.Voxel
