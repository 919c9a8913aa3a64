import VoxelEngine.Voxel.FlatChunk
import VoxelEngine.Voxel.Space

/-!
# Reading and writing the tiles of a space

A space finds a tile by shifting its position, in the array of the chunk that the position
lies in.  What is written to a chunk that is loaded and not locked is read back at its
position, and nowhere else.
-/

namespace VoxelEngine.Voxel

open VoxelEngine.Data.SignedWord

/-- The entry of `directions` as words. -/
def Direction.words (dir : Direction) : Vec3i :=
  Vec3i.ofExact dir.vector

/-- The place of a position in the array of its chunk. -/
def Vec3i.arrayPos (worldpos : Vec3i) : ArrayPos :=
  ArrayPos.ofInside (toLocalpos worldpos) (Voxel.toLocalpos worldpos.exact)
    (exact_toLocalpos worldpos)

@[simp]
theorem Vec3i.place_arrayPos (worldpos : Vec3i) :
    worldpos.arrayPos.place = Voxel.toLocalpos worldpos.exact :=
  ArrayPos.place_ofInside _

/-- What `voxel_space::per_chunk_data` holds of a chunk, for reading and writing tiles. -/
structure MachineEntry where
  chunk : FlatChunk
  meshStatus : MeshStatus

/-- `voxel_space::chunks` -/
structure MachineSpace where
  chunks : Vec3i → Option MachineEntry

namespace MachineSpace

/-- `voxel_space::get_data`, given the default state of the unknown tile. -/
def getData (space : MachineSpace) (unknown : TileData) (worldpos : Vec3i) : TileData :=
  match space.chunks worldpos.toChunkpos with
  | some entry => entry.chunk.getData worldpos.arrayPos
  | none => unknown

/-- Ask for a new mesh of a chunk, if it is loaded. -/
def needMesh (space : MachineSpace) (chunkpos : Vec3i) : MachineSpace :=
  match space.chunks chunkpos with
  | some entry =>
      ⟨Function.update space.chunks chunkpos (some { entry with meshStatus := .needsMeshing })⟩
  | none => space

/-- The loop of `voxel_space::set_data` over the directions. -/
def needMeshes (space : MachineSpace) (worldpos : Vec3i) : MachineSpace :=
  directions.foldl
    (fun current dir =>
      let neighbour := (worldpos + dir.words).toChunkpos
      if neighbour ≠ worldpos.toChunkpos then current.needMesh neighbour else current)
    space

/-- `voxel_space::set_data`, which returns the old tile. -/
def setData (space : MachineSpace) (unknown : TileData) (worldpos : Vec3i) (td : TileData) :
    TileData × MachineSpace :=
  match space.chunks worldpos.toChunkpos with
  | some entry =>
      let written := entry.chunk.setData worldpos.arrayPos td
      (written.1,
        needMeshes
          ⟨Function.update space.chunks worldpos.toChunkpos
            (some ⟨written.2, .needsMeshing⟩)⟩ worldpos)
  | none => (unknown, space)

/-- The chunk at a position, if it is loaded. -/
def chunkAt (space : MachineSpace) (chunkpos : Vec3i) : Option FlatChunk :=
  (space.chunks chunkpos).map MachineEntry.chunk

theorem getData_eq (space : MachineSpace) (unknown : TileData) (worldpos : Vec3i) :
    space.getData unknown worldpos =
      ((space.chunkAt worldpos.toChunkpos).map fun chunk =>
        chunk.getData worldpos.arrayPos).getD unknown := by
  rw [getData, chunkAt]
  cases space.chunks worldpos.toChunkpos <;> rfl

/-- Asking for a mesh changes no chunk. -/
@[simp]
theorem chunkAt_needMesh (space : MachineSpace) (chunkpos : Vec3i) :
    (space.needMesh chunkpos).chunkAt = space.chunkAt := by
  funext pos
  unfold needMesh
  split
  · rename_i entry present
    by_cases equal : pos = chunkpos
    · simp [chunkAt, equal, present]
    · simp [chunkAt, equal]
  · rfl

@[simp]
theorem chunkAt_needMeshes (space : MachineSpace) (worldpos : Vec3i) :
    (space.needMeshes worldpos).chunkAt = space.chunkAt := by
  have fold (dirs : List Direction) (current : MachineSpace) :
      (dirs.foldl
        (fun current dir =>
          let neighbour := (worldpos + dir.words).toChunkpos
          if neighbour ≠ worldpos.toChunkpos then current.needMesh neighbour else current)
        current).chunkAt = current.chunkAt := by
    induction dirs generalizing current with
    | nil => rfl
    | cons dir rest ih =>
        rw [List.foldl_cons, ih]
        dsimp only
        split
        · exact chunkAt_needMesh current _
        · rfl
  exact fold directions space

/-- Writing to a chunk that is loaded changes that chunk only. -/
theorem chunkAt_setData {space : MachineSpace} {worldpos : Vec3i} {entry : MachineEntry}
    (loaded : space.chunks worldpos.toChunkpos = some entry) (unknown td : TileData) :
    (space.setData unknown worldpos td).2.chunkAt =
      Function.update space.chunkAt worldpos.toChunkpos
        (some (entry.chunk.setData worldpos.arrayPos td).2) := by
  rw [setData, loaded]
  dsimp only
  rw [chunkAt_needMeshes]
  funext pos
  by_cases equal : pos = worldpos.toChunkpos
  · simp [chunkAt, equal]
  · simp [chunkAt, equal]

/-- Two positions in one chunk differ in their places in its array. -/
theorem eq_of_index_eq {first second : Vec3i} (chunks : first.toChunkpos = second.toChunkpos)
    (places : first.arrayPos.index = second.arrayPos.index) : first = second := by
  have localpos : toLocalpos first.exact = toLocalpos second.exact := by
    rw [← first.place_arrayPos, ← second.place_arrayPos]
    apply LocalPos.index_injective
    rw [ArrayPos.index_place, ArrayPos.index_place]
    exact places
  have exactChunks := congrArg Vec3i.exact chunks
  rw [Vec3i.exact_toChunkpos, Vec3i.exact_toChunkpos] at exactChunks
  apply Vec3i.exact_injective
  rw [← toWorldpos_toChunkpos first.exact, exactChunks, localpos, toWorldpos_toChunkpos]

/-- The position lies at a place inside of its chunk and is put together again from the two,
where every step has the value that it has on integers. -/
structure SplitsExactly (worldpos : Vec3i) : Prop where
  chunkpos : worldpos.toChunkpos.exact = toChunkpos worldpos.exact
  corner : (worldpos.toChunkpos.toWorldpos 0).exact =
    toWorldpos (toChunkpos worldpos.exact) ⟨0, 0, 0⟩
  localpos : worldpos.toLocalpos.exact = (toLocalpos worldpos.exact).offset
  inside : ¬OutOfBounds worldpos.toLocalpos.exact
  joined : worldpos.toChunkpos.toWorldpos worldpos.toLocalpos = worldpos
  joinedExactly : (worldpos.toChunkpos.toWorldpos worldpos.toLocalpos).exact =
    toWorldpos worldpos.toChunkpos.exact worldpos.toLocalpos.exact

theorem splitsExactly (worldpos : Vec3i) : SplitsExactly worldpos where
  chunkpos := worldpos.exact_toChunkpos
  corner := worldpos.exact_corner
  localpos := worldpos.exact_toLocalpos
  inside := by
    rw [Vec3i.exact_toLocalpos]
    have xBound := val_lt (toLocalpos worldpos.exact).x
    have yBound := val_lt (toLocalpos worldpos.exact).y
    have zBound := val_lt (toLocalpos worldpos.exact).z
    simp only [OutOfBounds, outside, LocalPos.offset, cast_chunkSize]
    omega
  joined := worldpos.toWorldpos_toChunkpos
  joinedExactly := worldpos.exact_toWorldpos

theorem representable_vector (dir : Direction) : dir.vector.Representable := by
  cases dir <;> decide

/-- A neighbouring position that is representable is computed without overflow. -/
theorem exact_add_words {worldpos : Vec3i} {dir : Direction}
    (near : (worldpos.exact.towards dir).Representable) :
    (worldpos + dir.words).exact = worldpos.exact.towards dir := by
  have step : dir.words.exact = dir.vector := Vec3i.exact_ofExact (representable_vector dir)
  rw [Vec3i.exact_add] <;> rw [step]
  · rfl
  · exact near

/-- Writing returns what was read before, and only the tile at its position is changed. -/
def WritesOnlyAt (space : MachineSpace) (unknown : TileData) (worldpos : Vec3i)
    (td : TileData) : Prop :=
  (space.setData unknown worldpos td).1 = space.getData unknown worldpos ∧
    ∀ other, (space.setData unknown worldpos td).2.getData unknown other =
      if other = worldpos then td else space.getData unknown other

theorem writesOnlyAt {space : MachineSpace} {worldpos : Vec3i} {entry : MachineEntry}
    (loaded : space.chunks worldpos.toChunkpos = some entry)
    (unlocked : entry.chunk.locked = false) (unknown td : TileData) :
    space.WritesOnlyAt unknown worldpos td := by
  have written : entry.chunk.setData worldpos.arrayPos td =
      (entry.chunk.getData worldpos.arrayPos,
        { entry.chunk with data := FlatData.write entry.chunk.data worldpos.arrayPos td }) := by
    rw [FlatChunk.setData, if_neg (by simp [unlocked])]
    rfl
  constructor
  · rw [setData, getData, loaded]
    exact congrArg Prod.fst written
  · intro other
    rw [getData_eq, chunkAt_setData loaded, written]
    by_cases chunks : other.toChunkpos = worldpos.toChunkpos
    · rw [chunks, Function.update_self]
      split
      · rename_i equal
        rw [equal]
        exact FlatData.read_write_self entry.chunk.data worldpos.arrayPos td
      · rename_i different
        have places : worldpos.arrayPos.index ≠ other.arrayPos.index := by
          intro equal
          exact different (eq_of_index_eq chunks equal.symm)
        rw [getData, chunks, loaded]
        exact FlatData.read_write_of_ne places entry.chunk.data td
    · have different : other ≠ worldpos := by
        rintro rfl
        exact chunks rfl
      rw [Function.update_of_ne chunks, if_neg different, getData_eq]

/-- A tile that was written is read back, and all others are as they were; without a chunk at
the position nothing happens. -/
theorem read_after_write (space : MachineSpace) (unknown : TileData) (worldpos : Vec3i)
    (td : TileData) (near : ∀ dir, (worldpos.exact.towards dir).Representable) :
    SplitsExactly worldpos ∧
      (∀ dir, (worldpos + dir.words).exact = worldpos.exact.towards dir) ∧
      (∀ entry, space.chunks worldpos.toChunkpos = some entry →
        entry.chunk.locked = false → space.WritesOnlyAt unknown worldpos td) ∧
      (space.chunks worldpos.toChunkpos = none →
        (space.setData unknown worldpos td).2 = space) := by
  constructor
  · exact splitsExactly worldpos
  constructor
  · intro dir
    exact exact_add_words (near dir)
  constructor
  · intro entry loaded unlocked
    exact writesOnlyAt loaded unlocked unknown td
  · intro missing
    rw [setData, missing]

/-- A space with one chunk, whose tiles are all alike, at the far side of the origin. -/
def single (td : TileData) : MachineSpace where
  chunks := Function.update (fun _ => none) ⟨-1, -1, -1⟩
    (some ⟨⟨Vector.replicate chunkVolume td, false, []⟩, .meshed⟩)

theorem read_after_write_single :
    ((single ⟨5, 0⟩).setData ⟨4, 0⟩ ⟨-1, -32, -7⟩ ⟨6, 1⟩).2.getData ⟨4, 0⟩ ⟨-1, -32, -7⟩ =
      ⟨6, 1⟩ := by
  have near : ∀ dir, ((⟨-1, -32, -7⟩ : Vec3i).exact.towards dir).Representable := by
    intro dir
    cases dir <;> decide
  have chunkpos : (⟨-1, -32, -7⟩ : Vec3i).toChunkpos = ⟨-1, -1, -1⟩ := by
    decide
  have loaded : (single ⟨5, 0⟩).chunks (⟨-1, -32, -7⟩ : Vec3i).toChunkpos =
      some ⟨⟨Vector.replicate chunkVolume ⟨5, 0⟩, false, []⟩, .meshed⟩ := by
    rw [chunkpos]
    dsimp only [single]
    rw [Function.update_self]
  have writes := (read_after_write (single ⟨5, 0⟩) ⟨4, 0⟩ ⟨-1, -32, -7⟩ ⟨6, 1⟩ near).2.2.1 _
    loaded rfl
  exact writes.2 ⟨-1, -32, -7⟩

end MachineSpace

/-- What the entry is without the parts that the machine does not hold. -/
def MachineEntry.view (entry : MachineEntry) : PerChunkData Unit :=
  ⟨entry.chunk.view, 0, (), entry.meshStatus, 0, 0⟩

namespace MachineSpace

/-- The space over all integer positions, of which only those can be loaded that are
representable. -/
def view (space : MachineSpace) : VoxelSpace Unit where
  chunks := fun pos =>
    if pos.Representable then (space.chunks (Vec3i.ofExact pos)).map MachineEntry.view else none
  allocated := 0

@[simp]
theorem view_chunks_exact (space : MachineSpace) (pos : Vec3i) :
    space.view.chunks pos.exact = (space.chunks pos).map MachineEntry.view := by
  simp only [view, if_pos pos.representable_exact, Vec3i.ofExact_exact]

theorem view_update (space : MachineSpace) (chunkpos : Vec3i) (entry : MachineEntry) :
    view ⟨Function.update space.chunks chunkpos (some entry)⟩ =
      space.view.insert chunkpos.exact entry.view := by
  apply congrArg fun chunks => (⟨chunks, 0⟩ : VoxelSpace Unit)
  funext pos
  by_cases equal : pos = chunkpos.exact
  · subst equal
    simp [chunkpos.representable_exact]
  · rw [Function.update_of_ne equal]
    split
    · rename_i representable
      have different : Vec3i.ofExact pos ≠ chunkpos := by
        rintro rfl
        exact equal (Vec3i.exact_ofExact representable).symm
      dsimp only
      rw [Function.update_of_ne different]
      exact (if_pos representable).symm
    · rename_i large
      exact (if_neg large).symm

/-- Change what is held of a chunk, if it is loaded. -/
def modify (space : MachineSpace) (chunkpos : Vec3i) (change : MachineEntry → MachineEntry) :
    MachineSpace :=
  match space.chunks chunkpos with
  | some entry => ⟨Function.update space.chunks chunkpos (some (change entry))⟩
  | none => space

theorem view_modify (space : MachineSpace) (chunkpos : Vec3i)
    (change : MachineEntry → MachineEntry) (exactChange : PerChunkData Unit → PerChunkData Unit)
    (same : ∀ entry, (change entry).view = exactChange entry.view) :
    (space.modify chunkpos change).view = space.view.modify chunkpos.exact exactChange := by
  cases present : space.chunks chunkpos with
  | none =>
      have absent : space.view.chunks chunkpos.exact = none := by
        rw [view_chunks_exact, present]
        rfl
      rw [modify, present, VoxelSpace.modify, absent, Option.map_none, ← absent,
        Function.update_eq_self]
  | some entry =>
      rw [modify, present]
      dsimp only
      rw [view_update, VoxelSpace.insert, VoxelSpace.modify, view_chunks_exact, present, same]
      rfl

theorem view_needMesh (space : MachineSpace) (chunkpos : Vec3i) :
    (space.needMesh chunkpos).view =
      space.view.modify chunkpos.exact PerChunkData.needMesh :=
  space.view_modify chunkpos (fun entry => { entry with meshStatus := .needsMeshing }) _
    fun _ => rfl

/-- The loop over the directions asks for meshes of the other chunks that the tile touches. -/
theorem view_needMeshes {space : MachineSpace} {worldpos : Vec3i}
    (near : ∀ dir, (worldpos.exact.towards dir).Representable) :
    (space.needMeshes worldpos).view =
      space.view.requestMeshes (VoxelSpace.touchedNeighbours worldpos.exact) := by
  have fold (dirs : List Direction) (current : MachineSpace) :
      (dirs.foldl
        (fun current dir =>
          let neighbour := (worldpos + dir.words).toChunkpos
          if neighbour ≠ worldpos.toChunkpos then current.needMesh neighbour else current)
        current).view =
      current.view.requestMeshes
        ((dirs.map fun dir => toChunkpos (worldpos.exact.towards dir)).filter
          fun pos => pos ≠ toChunkpos worldpos.exact) := by
    induction dirs generalizing current with
    | nil => rfl
    | cons dir rest ih =>
        have neighbour : ((worldpos + dir.words).toChunkpos).exact =
            toChunkpos (worldpos.exact.towards dir) := by
          rw [Vec3i.exact_toChunkpos, exact_add_words (near dir)]
        have own := worldpos.exact_toChunkpos
        rw [List.foldl_cons, ih, List.map_cons]
        by_cases equal : (worldpos + dir.words).toChunkpos = worldpos.toChunkpos
        · have exactly : toChunkpos (worldpos.exact.towards dir) = toChunkpos worldpos.exact := by
            rw [← neighbour, equal, own]
          simp [equal, exactly]
        · have exactly : toChunkpos (worldpos.exact.towards dir) ≠ toChunkpos worldpos.exact := by
            rw [← neighbour, ← own]
            exact fun same => equal (Vec3i.exact_injective same)
          simp only [ne_eq, equal, not_false_eq_true, if_true, view_needMesh, neighbour]
          rw [List.filter_cons_of_pos (by simpa using exactly)]
          rfl
  exact fold directions space

/-- Reading a tile is reading it at its exact position. -/
@[simp]
theorem view_getData (space : MachineSpace) (unknown : TileData) (worldpos : Vec3i) :
    space.view.getData unknown worldpos.exact = space.getData unknown worldpos := by
  rw [VoxelSpace.getData, getData, ← Vec3i.exact_toChunkpos, view_chunks_exact]
  cases space.chunks worldpos.toChunkpos with
  | none => rfl
  | some entry =>
      have found := entry.chunk.view_getData worldpos.arrayPos
      rw [worldpos.place_arrayPos] at found
      exact found

/-- Writing a tile is writing it at its exact position. -/
theorem view_setData {space : MachineSpace} {worldpos : Vec3i}
    (near : ∀ dir, (worldpos.exact.towards dir).Representable) (unknown td : TileData) :
    space.view.setData unknown worldpos.exact td =
      ((space.setData unknown worldpos td).1, (space.setData unknown worldpos td).2.view) := by
  rw [VoxelSpace.setData, setData, ← Vec3i.exact_toChunkpos, view_chunks_exact]
  cases space.chunks worldpos.toChunkpos with
  | none => rfl
  | some entry =>
      have written := entry.chunk.view_setData worldpos.arrayPos td
      rw [worldpos.place_arrayPos] at written
      simp only [Option.map_some, view_needMeshes near, view_update]
      simp only [MachineEntry.view, written]

end MachineSpace

/-! ## Runs -/

/-- The calls by which the tiles of a space are read and changed. -/
inductive TileCall (P D : Type) where
  | getData (worldpos : P)
  | setData (worldpos : P) (td : TileData)
  | toggleWriteLock (chunkpos : P) (locked : Bool)
  | setChunkData (chunkpos : P) (data : D)

/-- The call at its exact position, with the tiles of an array by their places. -/
def TileCall.exact : TileCall Vec3i FlatData → TileCall TilePos ChunkData
  | getData worldpos => getData worldpos.exact
  | setData worldpos td => setData worldpos.exact td
  | toggleWriteLock chunkpos locked => toggleWriteLock chunkpos.exact locked
  | setChunkData chunkpos data => setChunkData chunkpos.exact data.view

/-- The neighbours of a position that is written to are representable. -/
def TileCall.Near : TileCall Vec3i FlatData → Prop
  | setData worldpos _ => ∀ dir, (worldpos.exact.towards dir).Representable
  | _ => True

/-- A call, and the tile that it returns. -/
def MachineSpace.perform (unknown : TileData) (space : MachineSpace) :
    TileCall Vec3i FlatData → Option TileData × MachineSpace
  | .getData worldpos => (some (space.getData unknown worldpos), space)
  | .setData worldpos td => (space.setData unknown worldpos td).map some id
  | .toggleWriteLock chunkpos locked =>
      (none, space.modify chunkpos fun entry =>
        { entry with chunk := entry.chunk.toggleWriteLock locked })
  | .setChunkData chunkpos data =>
      (none, space.modify chunkpos fun entry =>
        { entry with chunk := entry.chunk.setChunkData data })

/-- A call at an exact position. -/
def VoxelSpace.perform (unknown : TileData) (space : VoxelSpace Unit) :
    TileCall TilePos ChunkData → Option TileData × VoxelSpace Unit
  | .getData worldpos => (some (space.getData unknown worldpos), space)
  | .setData worldpos td => (space.setData unknown worldpos td).map some id
  | .toggleWriteLock chunkpos locked =>
      (none, space.modify chunkpos fun entry =>
        { entry with chunk := entry.chunk.toggleWriteLock locked })
  | .setChunkData chunkpos data =>
      (none, space.modify chunkpos fun entry =>
        { entry with chunk := entry.chunk.setChunkData data })

/-- What calls return one after the other, and the state after them. -/
def performAll {σ α ρ : Type} (perform : σ → α → ρ × σ) (state : σ) : List α → List ρ × σ
  | [] => ([], state)
  | call :: rest =>
      let performed := perform state call
      (performAll perform performed.2 rest).map (List.cons performed.1) id

namespace MachineSpace

theorem view_perform (unknown : TileData) (space : MachineSpace) {call : TileCall Vec3i FlatData}
    (near : call.Near) :
    space.view.perform unknown call.exact =
      ((space.perform unknown call).1, (space.perform unknown call).2.view) := by
  cases call with
  | getData worldpos =>
      exact congrArg (fun td => (some td, space.view)) (view_getData space unknown worldpos)
  | setData worldpos td =>
      exact congrArg (Prod.map some id) (view_setData near unknown td)
  | toggleWriteLock chunkpos locked =>
      exact congrArg (Prod.mk none) (space.view_modify chunkpos _
        (fun entry => { entry with chunk := entry.chunk.toggleWriteLock locked }) fun entry => by
          rw [MachineEntry.view, entry.chunk.view_toggleWriteLock]
          rfl).symm
  | setChunkData chunkpos data =>
      exact congrArg (Prod.mk none) (space.view_modify chunkpos _
        (fun entry => { entry with chunk := entry.chunk.setChunkData data.view }) fun entry => by
          rw [MachineEntry.view, entry.chunk.view_setChunkData]
          rfl).symm

/-- On machine words and arrays the tiles of a space are read and changed as they are at all
integer positions, as long as nothing is written at the end of the range. -/
theorem view_performAll (unknown : TileData) (space : MachineSpace)
    (calls : List (TileCall Vec3i FlatData)) (near : ∀ call ∈ calls, call.Near) :
    performAll (VoxelSpace.perform unknown) space.view (calls.map TileCall.exact) =
      ((performAll (perform unknown) space calls).1,
        (performAll (perform unknown) space calls).2.view) := by
  induction calls generalizing space with
  | nil => rfl
  | cons call rest ih =>
      have later := ih (space.perform unknown call).2 fun other mem =>
        near other (List.mem_cons_of_mem call mem)
      rw [List.map_cons, performAll, view_perform unknown space (near call List.mem_cons_self)]
      dsimp only
      rw [later]
      rfl

/-- A write that waits for the lock of its chunk. -/
def waitingCalls : List (TileCall Vec3i FlatData) :=
  [.toggleWriteLock ⟨-1, -1, -1⟩ true, .setData ⟨-1, -32, -7⟩ ⟨6, 1⟩,
    .toggleWriteLock ⟨-1, -1, -1⟩ false, .getData ⟨-1, -32, -7⟩]

theorem view_performAll_waiting :
    performAll (VoxelSpace.perform ⟨4, 0⟩) (single ⟨5, 0⟩).view
        (waitingCalls.map TileCall.exact) =
      ((performAll (perform ⟨4, 0⟩) (single ⟨5, 0⟩) waitingCalls).1,
        (performAll (perform ⟨4, 0⟩) (single ⟨5, 0⟩) waitingCalls).2.view) := by
  apply view_performAll
  simp only [waitingCalls, List.forall_mem_cons, TileCall.Near, true_and]
  constructor
  · intro dir
    cases dir <;> decide
  · exact List.forall_mem_nil _

end MachineSpace

end VoxelEngine.Voxel
