import VoxelEngine.Voxel.CubeTiles

/-!
# The faces in the mesh of a chunk

The mesh of a chunk consists of one face for each side of its tiles that the mesher finds visible,
moved to the place of its tile, whether or not the faces of that tile were taken from the cache.
These are the sides that are to be seen exactly if tiles answer in the states in which they are
asked as they do in their own.
-/

namespace VoxelEngine.Voxel

open VoxelEngine.Data
open VoxelEngine.Data.SlotVector
open VoxelEngine.Transition

variable {T V : Type}

namespace CubeTiles

variable [Tile T] [DecidableEq T] (tiles : CubeTiles T V) (nb : ChunkNeighbourhood)

/-- The tile that the mesher looks up for data. -/
def tileOf (td : TileData) : T :=
  tiles.mesher.tileForState td

/-- The data that the mesher finds next to a side. -/
def facingData (place : LocalPos) (side : Direction) : TileData :=
  if OutOfBounds (place.offset.towards side) then
    match nb.neighbours side with
    | some neighbourChunk => neighbourChunk (toLocalpos (place.offset.towards side))
    | none => tiles.registry.getDefaultState tiles.unknownTile
  else nb.chunk (toLocalpos (place.offset.towards side))

/-- The mesher finds that a side is visible. -/
def Drawn (place : LocalPos) (side : Direction) : Prop :=
  tiles.rendered (tiles.tileOf (nb.chunk place)) = true ∧
    tiles.occludesSide (tiles.tileOf (tiles.facingData nb place side)) side.opposing
      (TileRegistry.getEffectiveMetastate (tiles.facingData nb place side)) = false

/-- The vertices that are appended for one side of a place. -/
def faceAt (face : LocalPos × Direction) : Face V :=
  fun corner =>
    tiles.displace
      (tiles.face (tiles.tileOf (nb.chunk face.1))
        (TileRegistry.getEffectiveMetastate (nb.chunk face.1)) face.2 corner) face.1

end CubeTiles

/-- The default state of a registered tile without states leads to it. -/
theorem TileRegistry.Consistent.getTileForState_getDefaultState [Tile T] [DecidableEq T]
    {registry : TileRegistry T} (consistent : registry.Consistent) {tile : T}
    (registered : registry.Registered tile) (stateless : isStateless tile = true) :
    (registry.getTileForState (registry.getDefaultState tile)).join = some tile := by
  have home := consistent.stateless_home tile registered stateless
  rw [getDefaultState, if_pos stateless, getTileForState, if_pos home.1]
  exact home.2

namespace CubeTiles

variable [Tile T] [DecidableEq T] {tiles : CubeTiles T V} {nb : ChunkNeighbourhood}

/-- Data that is skipped stands for a tile of the list. -/
theorem tileOf_mem_of_skip (prepared : tiles.Prepared) {td : TileData}
    (skipped : tiles.mesher.skip td = true) : tiles.tileOf td ∈ tiles.skipTileList := by
  rcases prepared.reachable with ⟨actions, runEq⟩
  have consistent := TileRegistry.consistent_run TileRegistry.consistent_empty runEq
  rw [Mesher.skip, List.contains_iff_mem, List.mem_map] at skipped
  rcases skipped with ⟨tile, mem, rfl⟩
  have found := consistent.getTileForState_getDefaultState (prepared.registered tile mem)
    (prepared.stateless tile mem)
  have tile_eq : tiles.tileOf (tiles.mesher.registry.getDefaultState tile) = tile := by
    rw [tileOf, Mesher.tileForState]
    exact congrArg (fun stored : Option T => stored.getD tiles.unknownTile) found
  rw [tile_eq]
  exact mem

/-- A tile that is skipped does not occlude any side. -/
theorem occludesSide_of_skip (prepared : tiles.Prepared) {td : TileData}
    (skipped : tiles.mesher.skip td = true) (dir : Direction) (metadata : TileMetadata) :
    tiles.occludesSide (tiles.tileOf td) dir metadata = false := by
  have mem := tileOf_mem_of_skip prepared skipped
  rw [occludesSide, prepared.plain _ mem, prepared.hidden _ mem]
  rfl

/-- The mesher looks for the data next to a side where it is. -/
theorem neighbourData_eq_facingData (place : LocalPos) (side : Direction) :
    tiles.mesher.neighbourData nb (place.offset.towards side) = tiles.facingData nb place side := by
  rw [Mesher.neighbourData, facingData]
  by_cases leaves : OutOfBounds (place.offset.towards side)
  · rw [if_pos leaves, if_pos leaves, neighbourDirection_towards leaves]
    rfl
  · rw [if_neg leaves, if_neg leaves]

theorem isVisible_facingData_iff (prepared : tiles.Prepared) (place : LocalPos) (side : Direction) :
    tiles.mesher.isVisible (tiles.facingData nb place side) side = true ↔
      tiles.occludesSide (tiles.tileOf (tiles.facingData nb place side)) side.opposing
        (TileRegistry.getEffectiveMetastate (tiles.facingData nb place side)) = false := by
  rw [Mesher.isVisible, Bool.or_eq_true, Bool.not_eq_true']
  constructor
  · rintro (skipped | seen)
    · exact occludesSide_of_skip prepared skipped _ _
    · exact seen
  · intro seen
    exact Or.inr seen

/-- The sides to be rendered of a tile that is. -/
def sidesAt (tiles : CubeTiles T V) (nb : ChunkNeighbourhood) (place : LocalPos) :
    List Direction :=
  if tiles.mesher.skip (nb.chunk place) = false ∧
      tiles.rendered (tiles.tileOf (nb.chunk place)) = true then
    sidesOf (tiles.mesher.visibleSides fun dir =>
      tiles.mesher.neighbourData nb (place.offset.towards dir))
  else []

theorem mem_sidesAt_iff (prepared : tiles.Prepared) (place : LocalPos) (side : Direction) :
    side ∈ tiles.sidesAt nb place ↔ tiles.Drawn nb place side := by
  rw [sidesAt]
  split
  · rename_i drawn
    rw [mem_sidesOf_visibleSides, neighbourData_eq_facingData, isVisible_facingData_iff prepared]
    constructor
    · intro seen
      exact ⟨drawn.2, seen⟩
    · intro drawn
      exact drawn.2
  · rename_i hidden
    constructor
    · intro mem
      cases mem
    · intro drawn
      refine absurd ⟨?_, drawn.1⟩ hidden
      cases skipped : tiles.mesher.skip (nb.chunk place) with
      | false => rfl
      | true =>
          have unrendered := prepared.hidden _ (tileOf_mem_of_skip prepared skipped)
          rw [drawn.1] at unrendered
          cases unrendered

/-- The faces in the order in which they are emitted. -/
def facesOf (tiles : CubeTiles T V) (nb : ChunkNeighbourhood) (among : List LocalPos) :
    List (LocalPos × Direction) :=
  among.flatMap fun place => (tiles.sidesAt nb place).map fun side => (place, side)

theorem mem_facesOf_iff (prepared : tiles.Prepared) (among : List LocalPos) (place : LocalPos)
    (side : Direction) :
    (place, side) ∈ tiles.facesOf nb among ↔ place ∈ among ∧ tiles.Drawn nb place side := by
  rw [facesOf, List.mem_flatMap]
  constructor
  · rintro ⟨other, otherMem, mem⟩
    rcases List.mem_map.mp mem with ⟨_, sideMem, equal⟩
    cases equal
    exact ⟨otherMem, (mem_sidesAt_iff prepared _ _).mp sideMem⟩
  · rintro ⟨mem, drawn⟩
    exact ⟨place, mem, List.mem_map_of_mem ((mem_sidesAt_iff prepared place side).mpr drawn)⟩

theorem nodup_sidesAt (tiles : CubeTiles T V) (nb : ChunkNeighbourhood) (place : LocalPos) :
    (tiles.sidesAt nb place).Nodup := by
  rw [sidesAt]
  split
  · apply List.Nodup.filter
    decide
  · exact List.nodup_nil

theorem nodup_facesOf (tiles : CubeTiles T V) (nb : ChunkNeighbourhood) {among : List LocalPos}
    (distinct : among.Nodup) : (tiles.facesOf nb among).Nodup := by
  induction among with
  | nil => exact List.nodup_nil
  | cons place rest ih =>
      rw [List.nodup_cons] at distinct
      rw [facesOf, List.flatMap_cons]
      apply List.Nodup.append
      · exact (tiles.nodup_sidesAt nb place).map fun _ _ equal => (Prod.mk.inj equal).2
      · exact ih distinct.2
      · intro face own later
        rcases List.mem_map.mp own with ⟨side, _, rfl⟩
        rcases List.mem_flatMap.mp later with ⟨other, otherMem, mem⟩
        rcases List.mem_map.mp mem with ⟨_, _, equal⟩
        exact distinct.1 ((Prod.mk.inj equal).1 ▸ otherMem)

/-- A tile is added as further faces. -/
theorem meshTile_faceMesh (tiles : CubeTiles T V) (nb : ChunkNeighbourhood)
    (faces : List (LocalPos × Direction)) (place : LocalPos) :
    tiles.mesher.meshTile (faceMesh (faces.map (tiles.faceAt nb))) place (nb.chunk place)
        (fun dir => tiles.mesher.neighbourData nb (place.offset.towards dir)) =
      faceMesh ((faces ++ (tiles.sidesAt nb place).map fun side => (place, side)).map
        (tiles.faceAt nb)) := by
  rw [Mesher.meshTile, sidesAt]
  cases skipped : tiles.mesher.skip (nb.chunk place) with
  | true => rw [if_pos rfl, if_neg (by simp), List.map_nil, List.append_nil]
  | false =>
      rw [if_neg (by simp)]
      cases rendered : tiles.rendered (tiles.tileOf (nb.chunk place)) with
      | false =>
          rw [if_neg (by simpa [mesher, tileOf] using rendered), if_neg (by simp), List.map_nil,
            List.append_nil]
      | true =>
          have appended (visibleSides : UInt8) :
              tiles.mesher.appendMesh (tiles.mesher.tileForState (nb.chunk place)) visibleSides
                  (TileRegistry.getEffectiveMetastate (nb.chunk place)) =
                faceMesh ((sidesOf visibleSides).map
                  (tiles.face (tiles.tileOf (nb.chunk place))
                    (TileRegistry.getEffectiveMetastate (nb.chunk place)))) := by
            rw [← appendMesh_of_rendered, ← rendered]
            rfl
          have drawn : tiles.mesher.rendered (tiles.mesher.tileForState (nb.chunk place)) = true :=
            rendered
          rw [if_pos drawn, if_pos ⟨rfl, rfl⟩, appended, pushAndDenormalize_faceMesh,
            List.map_append, List.map_map, List.map_map]
          rfl

/-- Going through some places adds their faces. -/
theorem foldl_meshTile (tiles : CubeTiles T V) (nb : ChunkNeighbourhood)
    (among : List LocalPos) :
    among.foldl
        (fun result place => tiles.mesher.meshTile result place (nb.chunk place) fun dir =>
          tiles.mesher.neighbourData nb (place.offset.towards dir)) default =
      faceMesh ((tiles.facesOf nb among).map (tiles.faceAt nb)) := by
  have loop (faces : List (LocalPos × Direction)) :
      among.foldl
          (fun result place => tiles.mesher.meshTile result place (nb.chunk place) fun dir =>
            tiles.mesher.neighbourData nb (place.offset.towards dir))
          (faceMesh (faces.map (tiles.faceAt nb))) =
        faceMesh ((faces ++ tiles.facesOf nb among).map (tiles.faceAt nb)) := by
    induction among generalizing faces with
    | nil => rw [List.foldl_nil, facesOf, List.flatMap_nil, List.append_nil]
    | cons place rest ih =>
        rw [List.foldl_cons, meshTile_faceMesh, ih, List.append_assoc]
        rfl
  exact loop []

/-- The mesh of a chunk consists of its faces. -/
theorem meshChunk_eq_faceMesh (tiles : CubeTiles T V) (nb : ChunkNeighbourhood) :
    tiles.mesher.meshChunk nb = faceMesh ((tiles.facesOf nb places).map (tiles.faceAt nb)) := by
  unfold Mesher.meshChunk
  exact tiles.foldl_meshTile nb places

/-- There are few enough faces for their indices not to wrap around. -/
theorem length_facesOf_le (tiles : CubeTiles T V) (nb : ChunkNeighbourhood) :
    (tiles.facesOf nb places).length ≤ 6 * chunkVolume := by
  have volume : places.length = chunkVolume := by
    rw [← List.length_map LocalPos.index, map_index_places, List.length_range]
  rw [← volume]
  apply length_flatMap_le
  intro place
  rw [List.length_map, sidesAt]
  split
  · exact List.length_filter_le _ directions
  · exact Nat.zero_le 6

theorem length_indices_faceMesh (faces : List (Face V)) :
    (faceMesh faces).indices.length = 6 * faces.length := by
  rw [faceMesh, faceIndices, List.length_flatMap]
  simp [cubeIndexPattern, Nat.mul_comm]

/-- An index of a face is one of its corners. -/
theorem exists_index {faces : List (Face V)} (few : faces.length ≤ 6 * chunkVolume)
    {number : Nat} (inRange : number < faces.length) (corner : Fin 6) :
    ∃ index own, (faceMesh faces).indices[6 * number + corner]? = some index ∧
      cubeIndexPattern[corner.val]? = some own ∧ own.toNat < 4 ∧
        index.toNat = 4 * number + own.toNat := by
  have own : ∃ own : UInt32, cubeIndexPattern[corner.val]? = some own ∧ own.toNat < 4 := by
    revert corner
    decide
  rcases own with ⟨own, found, small⟩
  refine ⟨own + UInt32.ofNat (4 * number), own, ?_, found, small, ?_⟩
  · rw [getElem?_indices_faceMesh inRange, found]
    rfl
  · have volume : chunkVolume = 32768 := rfl
    rw [UInt32.toNat_add, UInt32.toNat_ofNat']
    omega

/-- The mesh does not depend on what was meshed before with the same registry. -/
theorem meshChunk_after (tiles : CubeTiles T V) (earlier : List ChunkNeighbourhood)
    (nb : ChunkNeighbourhood) :
    (tiles.mesher.statics.meshChunk tiles.mesher
        (earlier.foldl
          (fun cache other => (tiles.mesher.statics.meshChunk tiles.mesher cache other).2)
          HashTable.empty) nb).1 =
      faceMesh ((tiles.facesOf nb places).map (tiles.faceAt nb)) := by
  have loop (cache : MeshCache V) (start : tiles.mesher.Accurate cache) :
      tiles.mesher.Accurate (earlier.foldl
        (fun cache other => (tiles.mesher.statics.meshChunk tiles.mesher cache other).2) cache) := by
    induction earlier generalizing cache with
    | nil => exact start
    | cons other rest ih => exact ih _ (start.meshChunk tiles.mesher.statics other)
  have accurate := loop HashTable.empty fun _ _ found => by cases found
  rw [Mesher.meshChunk_statics accurate, meshChunk_eq_faceMesh]

/-! ## The sides that are drawn and those that are to be seen -/

theorem Prepared.consistent (prepared : tiles.Prepared) : tiles.registry.Consistent := by
  rcases prepared.reachable with ⟨actions, runEq⟩
  exact TileRegistry.consistent_run TileRegistry.consistent_empty runEq

/-- The mesher looks up the tile that data stands for. -/
theorem Holds.tileOf_eq {td : TileData} {tile : T} {state : TileMetadata}
    (holds : tiles.Holds td tile state) : tiles.tileOf td = tile := by
  have found : tiles.mesher.registry.getTileForState td = some (some tile) := holds.found
  rw [tileOf, Mesher.tileForState, found]
  rfl

@[simp]
theorem toLocalpos_offset (place : LocalPos) : toLocalpos place.offset = place := by
  have moved := toLocalpos_toWorldpos ⟨0, 0, 0⟩ place
  simp only [toWorldpos, Int.zero_mul, Int.zero_add] at moved
  exact moved

theorem not_outOfBounds_offset (place : LocalPos) : ¬OutOfBounds place.offset := by
  have xBound := val_lt place.x
  have yBound := val_lt place.y
  have zBound := val_lt place.z
  simp only [OutOfBounds, outside, LocalPos.offset, cast_chunkSize]
  omega

/-- Positions within the bounds of a chunk are those of its places. -/
theorem offset_toLocalpos {pos : TilePos} (inside : ¬OutOfBounds pos) :
    (toLocalpos pos).offset = pos := by
  simp only [OutOfBounds, outside, cast_chunkSize] at inside
  ext <;> simp only [LocalPos.offset, toLocalpos, localCoordinate_val, cast_chunkSize] <;> omega

/-- The corner of the neighbour on a side is one chunk away. -/
theorem toWorldpos_vector {place : LocalPos} {side : Direction}
    (leaves : OutOfBounds (place.offset.towards side)) :
    toWorldpos side.vector (toLocalpos (place.offset.towards side)).offset =
      place.offset.towards side := by
  have chunkpos := toChunkpos_towards_of_outOfBounds leaves ⟨0, 0, 0⟩
  have here : toWorldpos ⟨0, 0, 0⟩ place.offset = place.offset := by
    simp only [toWorldpos, Int.zero_mul, Int.zero_add]
  have vector : TilePos.towards ⟨0, 0, 0⟩ side = side.vector := by
    ext <;> simp only [TilePos.towards, TilePos.add_x, TilePos.add_y, TilePos.add_z, Int.zero_add]
  rw [here, vector] at chunkpos
  calc
    toWorldpos side.vector (toLocalpos (place.offset.towards side)).offset =
        toWorldpos (toChunkpos (place.offset.towards side))
          (toLocalpos (place.offset.towards side)).offset := by rw [chunkpos]
    _ = place.offset.towards side := toWorldpos_toChunkpos _

theorem outOfBounds_of_toWorldpos {place other : LocalPos} {side : Direction}
    (beyond : toWorldpos side.vector other.offset = place.offset.towards side) :
    OutOfBounds (place.offset.towards side) := by
  rw [← beyond]
  have xBound := val_lt other.x
  have yBound := val_lt other.y
  have zBound := val_lt other.z
  cases side <;>
    simp only [OutOfBounds, outside, toWorldpos, Direction.vector, LocalPos.offset,
      cast_chunkSize] <;>
    omega

/-- Data of the unknown tile stands for it. -/
theorem Prepared.holds_unknown (prepared : tiles.Prepared) :
    tiles.Holds (tiles.registry.getDefaultState tiles.unknownTile) tiles.unknownTile 0 := by
  constructor
  · have found := prepared.consistent.getTileForState_getDefaultState prepared.unknown_registered
      prepared.unknown_stateless
    exact Option.join_eq_some_iff.mp found
  · rw [if_pos prepared.unknown_stateless]

/-- The tile next to a side is the one that the data found there stands for. -/
theorem facing_iff_holds (prepared : tiles.Prepared) {place : LocalPos} {side : Direction}
    {tile : T} {state : TileMetadata} :
    tiles.Facing nb place side tile state ↔
      tiles.Holds (tiles.facingData nb place side) tile state := by
  rw [facingData]
  constructor
  · intro facing
    cases facing with
    | inside other _ _ here holds =>
        rw [← here, if_neg (not_outOfBounds_offset other), toLocalpos_offset]
        exact holds
    | beyond neighbour other _ _ present there holds =>
        rw [if_pos (outOfBounds_of_toWorldpos there), present, ← there, toLocalpos_toWorldpos]
        exact holds
    | missing absent nowhere =>
        have leaves : OutOfBounds (place.offset.towards side) := by
          by_contra stays
          exact nowhere _ (offset_toLocalpos stays)
        rw [if_pos leaves, absent]
        exact prepared.holds_unknown
  · intro holds
    by_cases leaves : OutOfBounds (place.offset.towards side)
    · rw [if_pos leaves] at holds
      cases present : nb.neighbours side with
      | some neighbour =>
          rw [present] at holds
          exact Facing.beyond neighbour _ tile state present (toWorldpos_vector leaves) holds
      | none =>
          rw [present] at holds
          rcases holds.unique prepared.holds_unknown with ⟨rfl, rfl⟩
          apply Facing.missing present
          intro other here
          exact not_outOfBounds_offset other (here ▸ leaves)
    · rw [if_neg leaves] at holds
      exact Facing.inside _ tile state (offset_toLocalpos leaves) holds

theorem exists_facing (prepared : tiles.Prepared) (populated : tiles.Populated nb)
    (place : LocalPos) (side : Direction) :
    ∃ tile state, tiles.Facing nb place side tile state := by
  have found : ∃ tile state, tiles.Holds (tiles.facingData nb place side) tile state := by
    rw [facingData]
    split
    · cases present : nb.neighbours side with
      | some neighbour => exact exists_holds (populated.neighbours side neighbour present _)
      | none => exact ⟨tiles.unknownTile, 0, prepared.holds_unknown⟩
    · exact exists_holds (populated.chunk _)
  rcases found with ⟨tile, state, holds⟩
  exact ⟨tile, state, (facing_iff_holds prepared).mpr holds⟩

theorem renderedAt_iff (populated : tiles.Populated nb) (place : LocalPos) :
    tiles.RenderedAt nb place ↔ tiles.rendered (tiles.tileOf (nb.chunk place)) = true := by
  constructor
  · rintro ⟨tile, state, holds, rendered⟩
    rw [holds.tileOf_eq]
    exact rendered
  · intro rendered
    rcases exists_holds (populated.chunk place) with ⟨tile, state, holds⟩
    rw [holds.tileOf_eq] at rendered
    exact ⟨tile, state, holds, rendered⟩

section Facing

variable {place : LocalPos} {side : Direction} {tile : T} {state : TileMetadata}

/-- A side is drawn if the tile next to it does not occlude it in the state in which it is
asked. -/
theorem drawn_iff_of_facing (prepared : tiles.Prepared) (populated : tiles.Populated nb)
    (facing : tiles.Facing nb place side tile state) :
    tiles.Drawn nb place side ↔ tiles.RenderedAt nb place ∧
      tiles.occludesSide tile side.opposing (tiles.askedState tile) = false := by
  have holds := (facing_iff_holds prepared).mp facing
  rw [Drawn, holds.tileOf_eq, holds.getEffectiveMetastate_eq prepared.consistent,
    renderedAt_iff populated]

/-- A side is to be seen if the tile next to it does not occlude it in its state. -/
theorem shows_iff_of_facing (prepared : tiles.Prepared)
    (facing : tiles.Facing nb place side tile state) :
    tiles.Shows nb place side ↔ tiles.RenderedAt nb place ∧
      tiles.occludesSide tile side.opposing state = false := by
  constructor
  · rintro ⟨rendered, other, otherState, back, otherFacing, leads, seen⟩
    rcases ((facing_iff_holds prepared).mp otherFacing).unique
      ((facing_iff_holds prepared).mp facing) with ⟨rfl, rfl⟩
    rw [leadsBack_iff.mp leads] at seen
    exact ⟨rendered, seen⟩
  · rintro ⟨rendered, seen⟩
    exact ⟨rendered, tile, state, side.opposing, facing, leadsBack_iff.mpr rfl, seen⟩

end Facing

theorem AnswersAlike.drawn_iff_shows (prepared : tiles.Prepared) (populated : tiles.Populated nb)
    (alike : tiles.AnswersAlike nb) (place : LocalPos) (side : Direction) :
    tiles.Drawn nb place side ↔ tiles.Shows nb place side := by
  rcases exists_facing prepared populated place side with ⟨tile, state, facing⟩
  rw [drawn_iff_of_facing prepared populated facing, shows_iff_of_facing prepared facing]
  apply and_congr_right
  intro rendered
  rw [alike.occlusion place side rendered tile state facing _ (leadsBack_iff.mpr rfl)]

/-- If tiles answer alike, the faces in the mesh are those of the sides to be seen. -/
theorem AnswersAlike.emits (prepared : tiles.Prepared) (populated : tiles.Populated nb)
    (alike : tiles.AnswersAlike nb) :
    tiles.Emits nb (faceMesh ((tiles.facesOf nb places).map (tiles.faceAt nb)))
      (tiles.facesOf nb places) := by
  have shown (place : LocalPos) (side : Direction) :
      (place, side) ∈ tiles.facesOf nb places ↔ tiles.Shows nb place side := by
    rw [mem_facesOf_iff prepared, and_iff_right (mem_places place)]
    exact alike.drawn_iff_shows prepared populated place side
  constructor
  case nodup => exact tiles.nodup_facesOf nb nodup_places
  case shown => exact shown
  case vertices_length => rw [length_vertices_faceMesh, List.length_map]
  case vertices =>
    intro number place side found tile state holds corner
    have visible := (shown place side).mp (List.mem_of_getElem? found)
    rw [← alike.corners place side visible tile state holds corner]
    rw [@getElem?_vertices_faceMesh _ _ number (tiles.faceAt nb (place, side))
      (by rw [List.getElem?_map, found, Option.map_some]) corner, faceAt, holds.tileOf_eq,
      holds.getEffectiveMetastate_eq prepared.consistent]
  case indices_length => rw [length_indices_faceMesh, List.length_map]
  case indices =>
    intro number inRange corner
    apply exists_index
    · rw [List.length_map]
      exact tiles.length_facesOf_le nb
    · rw [List.length_map]
      exact inRange

/-- The corners in the mesh are those of the sides that are drawn. -/
theorem Emits.corner_eq (prepared : tiles.Prepared) (populated : tiles.Populated nb)
    {faces : List (LocalPos × Direction)}
    (emits : tiles.Emits nb (faceMesh ((tiles.facesOf nb places).map (tiles.faceAt nb))) faces)
    {number : Nat} {face drawn : LocalPos × Direction} (found : faces[number]? = some face)
    (drawnFound : (tiles.facesOf nb places)[number]? = some drawn) :
    drawn = face ∧ ∀ tile state, tiles.Holds (nb.chunk face.1) tile state → ∀ corner,
      tiles.displace (tiles.face tile (tiles.askedState tile) face.2 corner) face.1 =
        tiles.displace (tiles.face tile state face.2 corner) face.1 := by
  rcases exists_holds (populated.chunk drawn.1) with ⟨drawnTile, drawnState, drawnHolds⟩
  have same (tile : T) (state : TileMetadata) (holds : tiles.Holds (nb.chunk face.1) tile state)
      (corner : Fin 4) :
      tiles.displace (tiles.face drawnTile (tiles.askedState drawnTile) drawn.2 corner) drawn.1 =
        tiles.displace (tiles.face tile state face.2 corner) face.1 := by
    have emitted := emits.vertices number face.1 face.2 found tile state holds corner
    rw [@getElem?_vertices_faceMesh _ _ number (tiles.faceAt nb drawn)
      (by rw [List.getElem?_map, drawnFound, Option.map_some]) corner, faceAt,
      drawnHolds.tileOf_eq, drawnHolds.getEffectiveMetastate_eq prepared.consistent] at emitted
    exact Option.some.inj emitted
  rcases exists_holds (populated.chunk face.1) with ⟨tile, state, holds⟩
  rcases face_eq_of_corner_eq (same tile state holds 0) with ⟨place_eq, side_eq⟩
  have drawn_eq : drawn = face := Prod.ext place_eq side_eq
  subst drawn_eq
  constructor
  · rfl
  · intro other otherState otherHolds corner
    rcases otherHolds.unique drawnHolds with ⟨rfl, _⟩
    exact same other otherState otherHolds corner

/-- If the faces in the mesh are those of the sides to be seen, tiles answer alike. -/
theorem Emits.answersAlike (prepared : tiles.Prepared) (populated : tiles.Populated nb)
    {faces : List (LocalPos × Direction)}
    (emits : tiles.Emits nb (faceMesh ((tiles.facesOf nb places).map (tiles.faceAt nb))) faces) :
    tiles.AnswersAlike nb := by
  have length_eq : (tiles.facesOf nb places).length = faces.length := by
    have lengths := emits.vertices_length
    rw [length_vertices_faceMesh, List.length_map] at lengths
    omega
  have faces_eq : tiles.facesOf nb places = faces := by
    apply List.ext_getElem length_eq
    intro number drawnRange range
    exact (emits.corner_eq prepared populated (List.getElem?_eq_getElem range)
      (List.getElem?_eq_getElem drawnRange)).1
  have drawn_iff_shows (place : LocalPos) (side : Direction) :
      tiles.Drawn nb place side ↔ tiles.Shows nb place side := by
    rw [← emits.shown, ← faces_eq, mem_facesOf_iff prepared, and_iff_right (mem_places place)]
  constructor
  · intro place side rendered tile state facing back leads
    have same := drawn_iff_shows place side
    rw [drawn_iff_of_facing prepared populated facing, shows_iff_of_facing prepared facing,
      and_iff_right rendered, and_iff_right rendered, ← leadsBack_iff.mp leads] at same
    exact Bool.eq_iff_iff.mpr (by simpa using not_congr same)
  · intro place side visible tile state holds corner
    rcases List.getElem?_of_mem ((emits.shown place side).mpr visible) with ⟨number, found⟩
    exact (emits.corner_eq prepared populated found (faces_eq ▸ found)).2 tile state holds corner

/-- Whatever was meshed before with the same registry, the mesh of a chunk shows each side that is
to be seen, once, if and only if tiles answer in the states in which they are asked as they do in
their own. -/
theorem emits_iff_answersAlike (tiles : CubeTiles T V) (prepared : tiles.Prepared)
    (earlier : List ChunkNeighbourhood) (nb : ChunkNeighbourhood)
    (populated : tiles.Populated nb) :
    (∃ faces, tiles.Emits nb
      (tiles.mesher.statics.meshChunk tiles.mesher
        (earlier.foldl
          (fun cache other => (tiles.mesher.statics.meshChunk tiles.mesher cache other).2)
          HashTable.empty) nb).1 faces) ↔
      tiles.AnswersAlike nb := by
  rw [meshChunk_after]
  constructor
  · rintro ⟨faces, emits⟩
    exact emits.answersAlike prepared populated
  · intro alike
    exact ⟨tiles.facesOf nb places, alike.emits prepared populated⟩

end CubeTiles

/-- The tiles of the engine and two others, none of which has states. -/
inductive PlainTile where
  | air
  | unknown
  | grass
  | sand
  deriving DecidableEq

instance : Tile PlainTile where
  numStates _ := 1

namespace PlainTile

/-- The tiles of the engine and one of the others are registered. -/
def registrations : List (RegistryAction PlainTile) :=
  [.registerTile .air false, .registerTile .unknown false, .registerTile .grass true]

/-- The registry after these calls. -/
def registry : TileRegistry PlainTile :=
  (run TileRegistry.step TileRegistry.empty registrations).getD TileRegistry.empty

/-- Tiles that are drawn unless they are empty, with vertices that tell them apart. -/
def tiles : CubeTiles PlainTile (PlainTile × Direction × Fin 4 × Option LocalPos) where
  registry := registry
  skipTileList := [.air, .unknown]
  unknownTile := .unknown
  rendered tile := tile ≠ .air ∧ tile ≠ .unknown
  transparent _ := false
  overrides _ := none
  face tile _ dir corner := (tile, dir, corner, none)
  displace vertex place := (vertex.1, vertex.2.1, vertex.2.2.1, some place)
  position vertex :=
    cubeFacePosition vertex.2.1 vertex.2.2.1 +
      vertex.2.2.2.elim ⟨0, 0, 0⟩ fun place => place.offset + place.offset
  normal vertex := vertex.2.1.vector
  position_displace _ _ _ _ _ := rfl
  normal_displace _ _ _ _ _ := rfl

theorem prepared_tiles : tiles.Prepared where
  reachable := ⟨registrations, rfl⟩
  unknown_registered := by decide
  unknown_stateless := by decide
  registered := by decide
  stateless := by decide
  hidden := by decide
  plain := by decide

/-- Tiles without states answer alike. -/
theorem answersAlike_tiles (nb : ChunkNeighbourhood) : tiles.AnswersAlike nb where
  occlusion _ _ _ _ _ _ _ _ := rfl
  corners _ _ _ _ _ _ _ := rfl

end PlainTile

theorem CubeTiles.emits_iff_answersAlike_grass :
    ∃ faces, PlainTile.tiles.Emits ⟨fun _ => ⟨0, 2⟩, fun _ => none⟩
      (PlainTile.tiles.mesher.statics.meshChunk PlainTile.tiles.mesher HashTable.empty
        ⟨fun _ => ⟨0, 2⟩, fun _ => none⟩).1 faces := by
  have populated : PlainTile.tiles.Populated ⟨fun _ => ⟨0, 2⟩, fun _ => none⟩ := by
    have found : PlainTile.tiles.registry.getTileForState ⟨0, 2⟩ = some (some .grass) := by
      decide
    constructor
    · intro _
      exact ⟨.grass, found⟩
    · intro side neighbour present
      cases present
  exact (CubeTiles.emits_iff_answersAlike PlainTile.tiles PlainTile.prepared_tiles [] _
    populated).mpr (PlainTile.answersAlike_tiles _)

/-! ## A shutter that is closed in its second state -/

/-- The tiles of the engine, a tile without states, four tiles that take the first identifiers of
tiles with states, and a shutter. -/
inductive ShutterTile where
  | air
  | unknown
  | grass
  | lever (serial : Nat)
  | shutter
  deriving DecidableEq

namespace ShutterTile

instance : Tile ShutterTile where
  numStates
    | .lever _ | .shutter => 2
    | _ => 1

def registrations : List (RegistryAction ShutterTile) :=
  [.registerTile .air false, .registerTile .unknown false, .registerTile .grass true,
    .registerTile (.lever 0) true, .registerTile (.lever 1) true, .registerTile (.lever 2) true,
    .registerTile (.lever 3) true, .registerTile .shutter true]

def registry : TileRegistry ShutterTile :=
  (run TileRegistry.step TileRegistry.empty registrations).getD TileRegistry.empty

/-- The shutter occludes every side in its second state and none in its first. -/
def tiles : CubeTiles ShutterTile (Direction × Fin 4 × Option LocalPos) where
  registry := registry
  skipTileList := [.air, .unknown]
  unknownTile := .unknown
  rendered tile := tile ≠ .air ∧ tile ≠ .unknown
  transparent _ := false
  overrides tile := if tile = .shutter then some fun _ state => state = 1 else none
  face _ _ dir corner := (dir, corner, none)
  displace vertex place := (vertex.1, vertex.2.1, some place)
  position vertex :=
    cubeFacePosition vertex.1 vertex.2.1 +
      vertex.2.2.elim ⟨0, 0, 0⟩ fun place => place.offset + place.offset
  normal vertex := vertex.1.vector
  position_displace _ _ _ _ _ := rfl
  normal_displace _ _ _ _ _ := rfl

theorem prepared_tiles : tiles.Prepared where
  reachable := ⟨registrations, rfl⟩
  unknown_registered := by decide
  unknown_stateless := by decide
  registered := by decide
  stateless := by decide
  hidden := by decide
  plain := by decide

/-- Closed shutters around grass in a corner. -/
def window : ChunkNeighbourhood where
  chunk place := if place.index = 0 then ⟨0, 2⟩ else ⟨4, 1⟩
  neighbours _ := none

theorem populated_window : tiles.Populated window := by
  have grassFound : tiles.registry.getTileForState ⟨0, 2⟩ = some (some grass) := by decide
  have shutterFound : tiles.registry.getTileForState ⟨4, 1⟩ = some (some shutter) := by decide
  constructor
  · intro place
    by_cases corner : place.index = 0
    · exact ⟨grass, (congrArg _ (if_pos corner)).trans grassFound⟩
    · exact ⟨shutter, (congrArg _ (if_neg corner)).trans shutterFound⟩
  · intro side neighbour present
    cases present

end ShutterTile

/-- The side of the grass behind a closed shutter is in the mesh. -/
theorem CubeTiles.window_shows_hidden_side :
    ShutterTile.tiles.Prepared ∧ ShutterTile.tiles.Populated ShutterTile.window ∧
      ¬∃ faces, ShutterTile.tiles.Emits ShutterTile.window
        (ShutterTile.tiles.mesher.statics.meshChunk ShutterTile.tiles.mesher HashTable.empty
          ShutterTile.window).1 faces := by
  have meshed := ShutterTile.tiles.meshChunk_after [] ShutterTile.window
  rw [List.foldl_nil] at meshed
  rw [meshed]
  constructor
  · exact ShutterTile.prepared_tiles
  · constructor
    · exact ShutterTile.populated_window
    · rintro ⟨faces, emits⟩
      have alike := emits.answersAlike ShutterTile.prepared_tiles ShutterTile.populated_window
      have rendered : ShutterTile.tiles.RenderedAt ShutterTile.window ⟨0, 0, 0⟩ :=
        ⟨.grass, 0, ⟨by decide, by decide⟩, by decide⟩
      have facing : ShutterTile.tiles.Facing ShutterTile.window ⟨0, 0, 0⟩ .right .shutter 1 :=
        Facing.inside ⟨1, 0, 0⟩ ShutterTile.shutter 1 (by decide) ⟨by decide, by decide⟩
      have answers := alike.occlusion ⟨0, 0, 0⟩ .right rendered .shutter 1 facing .left rfl
      revert answers
      decide

end VoxelEngine.Voxel
