import VoxelEngine.Voxel.VisibleFaces

/-!
# The cache while tiles come and go

The cache of a thread outlives the tiles whose meshes it holds.  Once the data of a tile that was
unregistered is given to another tile, a chunk with that data is drawn with the mesh of the tile
that is gone.
-/

namespace VoxelEngine.Voxel

open VoxelEngine.Data
open VoxelEngine.Transition

/-- A thread that meshes chunks, with the registry.  The owners are not part of the program:
they record for which tile each entry of the cache was made. -/
structure MesherThread (T V : Type) where
  registry : TileRegistry T
  statics : Option MeshStatics
  cache : MeshCache V
  owners : HashTable MeshCacheKey T

/-- The calls that change the registry, and the meshing of a chunk on the thread. -/
inductive MesherAction (T : Type) where
  | registry (action : RegistryAction T)
  | meshChunk (nb : ChunkNeighbourhood)

variable {T V : Type} [Tile T] [DecidableEq T]

/-- The mesher with the registry as it is now. -/
def Mesher.under (mesher : Mesher T V) (registry : TileRegistry T) : Mesher T V :=
  { mesher with registry := registry }

/-- The assertions of `skip_tile_list`. -/
def Mesher.assertions (mesher : Mesher T V) : Bool :=
  mesher.skipTileList.all fun tile =>
    isStateless tile && !mesher.rendered tile && !mesher.registry.isRemovable tile

namespace MesherThread

/-- A thread that has not meshed anything. -/
def initial (registry : TileRegistry T) : MesherThread T V :=
  ⟨registry, none, HashTable.empty, HashTable.empty⟩

variable (mesher : Mesher T V) (thread : MesherThread T V) (nb : ChunkNeighbourhood)

/-- The mesher that the thread uses. -/
def current : Mesher T V :=
  mesher.under thread.registry

/-- The static variables once `mesh_chunk` is called. -/
def currentStatics : MeshStatics :=
  thread.statics.getD (thread.current mesher).statics

/-- `mesh_chunk`, with what there is in a cache. -/
def meshWith (cache : MeshCache V) : TileMesh V × MeshCache V :=
  (thread.currentStatics mesher).meshChunk (thread.current mesher) cache nb

/-- The tiles that are asked for the meshes of a chunk. -/
def askedTiles : List (MeshCacheKey × T) :=
  (places.filter ((thread.currentStatics mesher).kept (thread.current mesher) nb)).map fun place =>
    ((thread.currentStatics mesher).keyAt (thread.current mesher) nb place,
      (thread.current mesher).tileForState (nb.chunk place))

/-- One call.  The assertions are checked by the first call that meshes a chunk. -/
def step : Step (MesherThread T V) (MesherAction T)
  | thread, .registry action =>
      (TileRegistry.step thread.registry action).map fun registry =>
        { thread with registry := registry }
  | thread, .meshChunk nb =>
      if thread.statics.isNone && !(thread.current mesher).assertions then none
      else
        some
          { thread with
            statics := some (thread.currentStatics mesher)
            cache := (thread.meshWith mesher nb thread.cache).2
            owners := thread.owners.emplaceAll (thread.askedTiles mesher nb) }

/-- No data of the chunk for which there is an entry in the cache has been given to another tile
since that entry was made. -/
def KeepsMeaning (thread : MesherThread T V) : MesherAction T → Prop
  | .registry _ => True
  | .meshChunk nb => ∀ asked ∈ thread.askedTiles mesher nb, ∀ owner,
      thread.owners.find asked.1 = some owner → owner = asked.2

/-- Each entry of the cache is what its owner appended. -/
def Recorded (thread : MesherThread T V) : Prop :=
  ∀ key, thread.cache.find key =
    (thread.owners.find key).map fun owner =>
      mesher.appendMesh owner key.visibleSides (TileRegistry.getEffectiveMetastate key.data)

variable {mesher thread nb}

theorem recorded_initial (registry : TileRegistry T) : (initial registry).Recorded mesher :=
  fun _ => rfl

theorem recorded_of_follows {registry : TileRegistry T} {statics : Option MeshStatics}
    {cache : MeshCache V} {owners : HashTable MeshCacheKey T}
    (follows : ∀ key, cache.find key = (owners.find key).map fun owner =>
      mesher.appendMesh owner key.visibleSides (TileRegistry.getEffectiveMetastate key.data)) :
    Recorded mesher ⟨registry, statics, cache, owners⟩ :=
  follows

/-- What is put in the cache is what the tiles that are asked append. -/
theorem demanded_eq : (thread.currentStatics mesher).demanded (thread.current mesher) nb places =
    (thread.askedTiles mesher nb).map fun asked =>
      (asked.1, mesher.appendMesh asked.2 asked.1.visibleSides
        (TileRegistry.getEffectiveMetastate asked.1.data)) := by
  rw [MeshStatics.demanded, askedTiles, List.map_map]
  apply List.map_congr_left
  intro place _
  rfl

/-- Every call keeps the record right. -/
theorem Recorded.step {next : MesherThread T V} {action : MesherAction T}
    (recorded : thread.Recorded mesher)
    (stepEq : MesherThread.step mesher thread action = some next) : next.Recorded mesher := by
  cases action with
  | registry action =>
      rcases Option.map_eq_some_iff.mp stepEq with ⟨registry, _, rfl⟩
      exact recorded
  | meshChunk nb =>
      have cached : (thread.meshWith mesher nb thread.cache).2 = _ :=
        MeshStatics.meshChunk_cache _ _ _ _
      simp only [MesherThread.step] at stepEq
      generalize thread.meshWith mesher nb thread.cache = outcome at cached stepEq
      split at stepEq
      · cases stepEq
      · cases stepEq
        have follows := HashTable.find_emplaceAll_map recorded (thread.askedTiles mesher nb)
        rw [← demanded_eq, ← cached] at follows
        exact recorded_of_follows follows

/-- As long as data keeps its meaning, the cache serves the chunk. -/
theorem serves_of_keepsMeaning (recorded : thread.Recorded mesher)
    (keeps : thread.KeepsMeaning mesher (.meshChunk nb)) :
    MeshStatics.Serves (thread.currentStatics mesher) (thread.current mesher) nb thread.cache := by
  intro place isKept mesh found
  have asked : ((thread.currentStatics mesher).keyAt (thread.current mesher) nb place,
      (thread.current mesher).tileForState (nb.chunk place)) ∈ thread.askedTiles mesher nb := by
    rw [askedTiles]
    exact List.mem_map_of_mem (List.mem_filter.mpr ⟨mem_places place, isKept⟩)
  rw [recorded, Option.map_eq_some_iff] at found
  rcases found with ⟨owner, ownerEq, rfl⟩
  rw [keeps _ asked owner ownerEq]
  rfl

/-- Then it does not show. -/
theorem meshWith_cache_of_keepsMeaning (recorded : thread.Recorded mesher)
    (keeps : thread.KeepsMeaning mesher (.meshChunk nb)) :
    (thread.meshWith mesher nb thread.cache).1 =
      (thread.meshWith mesher nb HashTable.empty).1 := by
  have cached := MeshStatics.meshChunk_result (serves_of_keepsMeaning recorded keeps)
  have fresh := MeshStatics.meshChunk_result
    (MeshStatics.serves_empty (thread.currentStatics mesher) (thread.current mesher) nb)
  exact cached.trans fresh.symm

/-- In a run in which the data of chunks keeps its meaning, every chunk is meshed as it would be
without a cache. -/
theorem transparent_throughout {registry : TileRegistry T} {actions : List (MesherAction T)}
    (guarded : Guarded (step mesher) (KeepsMeaning mesher) (initial registry) actions) :
    ∀ before nb after thread, actions = before ++ .meshChunk nb :: after →
      run (step mesher) (initial registry) before = some thread →
        (thread.meshWith mesher nb thread.cache).1 =
          (thread.meshWith mesher nb HashTable.empty).1 := by
  rintro before nb after thread rfl runEq
  have recorded : thread.Recorded mesher :=
    run_invariant (fun _ _ _ holds _ stepEq => Recorded.step holds stepEq)
      (recorded_initial registry) (guarded_true _ _ _) runEq
  have later := (guarded_append_iff.mp guarded).2 thread runEq
  exact meshWith_cache_of_keepsMeaning recorded (guarded_cons_iff.mp later).1

end MesherThread

namespace PlainTile

/-- A chunk with one tile of the third kind in its corner, which is empty otherwise. -/
def corner : ChunkNeighbourhood where
  chunk place := if place.index = 0 then ⟨0, 2⟩ else ⟨0, 0⟩
  neighbours _ := none

/-- The registry after the grass gave way to the sand. -/
def replaced : TileRegistry PlainTile :=
  (run TileRegistry.step registry [.unregisterTile .grass, .registerTile .sand true]).getD
    TileRegistry.empty

/-- The key of the tile in the corner, all of whose sides are to be seen. -/
def cornerKey : MeshCacheKey :=
  ⟨⟨0, 2⟩, 63⟩

theorem filter_places (place : LocalPos) :
    places.filter (· == place) = [place] := by
  rw [List.filter_beq, List.count_eq_one_of_mem nodup_places (mem_places place)]
  rfl

theorem filter_kept {mesher : Mesher PlainTile (PlainTile × Direction × Fin 4 × Option LocalPos)}
    {statics : MeshStatics} (drawn : statics.kept mesher corner ⟨0, 0, 0⟩ = true)
    (skipsAir : statics.skip ⟨0, 0⟩ = true) :
    places.filter (statics.kept mesher corner) = [⟨0, 0, 0⟩] := by
  rw [← filter_places]
  apply List.filter_congr
  intro place _
  by_cases equal : place = ⟨0, 0, 0⟩
  · rw [equal, drawn]
    rfl
  · have air : corner.chunk place = ⟨0, 0⟩ :=
      if_neg fun index_eq => equal (LocalPos.index_injective index_eq)
    rw [MeshStatics.kept, air, skipsAir]
    simp [equal]

/-- The thread after the chunk was meshed, with some registry. -/
def meshedThread (current : TileRegistry PlainTile) :
    MesherThread PlainTile (PlainTile × Direction × Fin 4 × Option LocalPos) where
  registry := current
  statics := some tiles.mesher.statics
  cache := HashTable.empty.emplace (cornerKey, tiles.mesher.tileMesh cornerKey)
  owners := HashTable.empty.emplaceAll [(cornerKey, .grass)]

/-- The chunk is meshed with the tile that is in its corner now, unless the cache has a mesh. -/
theorem meshWith_corner {current : TileRegistry PlainTile}
    (drawn : tiles.mesher.statics.kept (tiles.mesher.under current) corner ⟨0, 0, 0⟩ = true)
    (key : tiles.mesher.statics.keyAt (tiles.mesher.under current) corner ⟨0, 0, 0⟩ = cornerKey)
    {thread : MesherThread PlainTile (PlainTile × Direction × Fin 4 × Option LocalPos)}
    (registry_eq : thread.registry = current)
    (statics_eq : thread.currentStatics tiles.mesher = tiles.mesher.statics)
    (cache : MeshCache (PlainTile × Direction × Fin 4 × Option LocalPos)) :
    thread.meshWith tiles.mesher corner cache =
      (tiles.mesher.pushAndDenormalize default
        ((cache.find cornerKey).getD ((tiles.mesher.under current).tileMesh cornerKey))
          ⟨0, 0, 0⟩,
        cache.emplace (cornerKey, (tiles.mesher.under current).tileMesh cornerKey)) := by
  have single := filter_kept drawn (by decide)
  rw [MesherThread.meshWith, statics_eq, MesherThread.current, registry_eq,
    MeshStatics.meshChunk_of_single single, key]
  rfl

/-- The run in which the chunk is meshed with grass, which then gives way to the sand. -/
def recycling : List (MesherAction PlainTile) :=
  registrations.map .registry ++
    [.meshChunk corner, .registry (.unregisterTile .grass), .registry (.registerTile .sand true)]

/-- The thread before it meshes anything. -/
def freshThread : MesherThread PlainTile (PlainTile × Direction × Fin 4 × Option LocalPos) :=
  MesherThread.initial registry

theorem askedTiles_corner
    {thread : MesherThread PlainTile (PlainTile × Direction × Fin 4 × Option LocalPos)}
    (registry_eq : thread.registry = registry)
    (statics_eq : thread.currentStatics tiles.mesher = tiles.mesher.statics) :
    thread.askedTiles tiles.mesher corner = [(cornerKey, .grass)] := by
  have single : places.filter (tiles.mesher.statics.kept (tiles.mesher.under registry) corner) =
      [⟨0, 0, 0⟩] :=
    filter_kept (by decide) (by decide)
  rw [MesherThread.askedTiles, statics_eq, MesherThread.current, registry_eq, single]
  decide

theorem step_corner :
    MesherThread.step tiles.mesher freshThread (.meshChunk corner) =
      some (meshedThread registry) := by
  have meshed := @meshWith_corner registry (by decide) (by decide) freshThread rfl rfl
    HashTable.empty
  have asserted : ¬(freshThread.statics.isNone &&
      !(freshThread.current tiles.mesher).assertions) = true := by
    decide
  simp only [MesherThread.step]
  rw [if_neg asserted, askedTiles_corner rfl rfl]
  have cache_eq : (freshThread.meshWith tiles.mesher corner freshThread.cache).2 =
      HashTable.empty.emplace (cornerKey, tiles.mesher.tileMesh cornerKey) :=
    congrArg Prod.snd meshed
  rw [cache_eq]
  rfl

theorem run_recycling : run (MesherThread.step tiles.mesher)
    (MesherThread.initial TileRegistry.empty) recycling = some (meshedThread replaced) := by
  have first : run (MesherThread.step tiles.mesher) (MesherThread.initial TileRegistry.empty)
      (registrations.map .registry) = some freshThread := rfl
  have last : run (MesherThread.step tiles.mesher) (meshedThread registry)
      [.registry (.unregisterTile .grass), .registry (.registerTile .sand true)] =
        some (meshedThread replaced) := rfl
  apply (run_append_eq_some_iff _ _ _ _ _).mpr
  exact ⟨_, first, (run_cons_eq_some_iff _ _ _ _ _).mpr ⟨_, step_corner, last⟩⟩

end PlainTile

/-- The sand is drawn as the grass that it replaced. -/
theorem MesherThread.shows_replaced_tile :
    ∃ thread, run (step PlainTile.tiles.mesher) (initial TileRegistry.empty)
        PlainTile.recycling = some thread ∧
      (thread.meshWith PlainTile.tiles.mesher PlainTile.corner thread.cache).1 ≠
        (thread.meshWith PlainTile.tiles.mesher PlainTile.corner HashTable.empty).1 := by
  refine ⟨_, PlainTile.run_recycling, ?_⟩
  rw [PlainTile.meshWith_corner (by decide) (by decide) rfl rfl,
    PlainTile.meshWith_corner (by decide) (by decide) rfl rfl]
  decide

theorem MesherThread.transparent_corner :
    ((PlainTile.meshedThread PlainTile.registry).meshWith PlainTile.tiles.mesher PlainTile.corner
        (PlainTile.meshedThread PlainTile.registry).cache).1 =
      ((PlainTile.meshedThread PlainTile.registry).meshWith PlainTile.tiles.mesher
        PlainTile.corner HashTable.empty).1 := by
  have guarded : Guarded (step PlainTile.tiles.mesher) (KeepsMeaning PlainTile.tiles.mesher)
      (initial PlainTile.registry) [.meshChunk PlainTile.corner, .meshChunk PlainTile.corner] := by
    apply guarded_cons_iff.mpr
    constructor
    · intro asked _ owner found
      cases found
    · intro next stepEq
      rw [← Option.some.inj (PlainTile.step_corner.symm.trans stepEq), guarded_cons_iff]
      constructor
      · intro asked mem owner found
        rw [PlainTile.askedTiles_corner rfl rfl, List.mem_singleton] at mem
        subst mem
        exact (Option.some.inj found).symm
      · intro last _
        trivial
  have ran : run (step PlainTile.tiles.mesher) (initial PlainTile.registry)
      [.meshChunk PlainTile.corner] = some (PlainTile.meshedThread PlainTile.registry) :=
    (run_cons_eq_some_iff _ _ _ _ _).mpr ⟨_, PlainTile.step_corner, rfl⟩
  exact transparent_throughout guarded [.meshChunk PlainTile.corner] PlainTile.corner [] _ rfl ran

end VoxelEngine.Voxel
