import VoxelEngine.Voxel.MeshRequests

/-!
# Mesh freshness

When no task is in flight and no chunk is waiting for a mesh, the stored meshes ought to
be the meshes of the present tiles.  This holds of all runs in which no task that is
completed overwrites a request made while it ran, and no task is started from tiles of a
neighbour for which a write is queued.
-/

namespace VoxelEngine.Voxel

open Mesher (Reads)
open VoxelEngine.Transition

namespace Mesher

variable {T V : Type} [Tile T] [DecidableEq T]

instance (pos worldpos : TilePos) : Decidable (Reads pos worldpos) :=
  decidable_of_iff
    (toChunkpos worldpos = pos ∨ ∃ dir ∈ directions, toChunkpos (worldpos.towards dir) = pos)
    (by simp [Reads])

/-- The mesh that a chunk of a space would be given now. -/
def freshMesh (mesher : Mesher T V) (space : VoxelSpace (TileMesh V)) (pos : TilePos) :
    TileMesh V :=
  mesher.meshWorld (fun worldpos => (space.tile worldpos).getD mesher.unknownTileData) pos

theorem lookup_stored (mesher : Mesher T V) (space : VoxelSpace (TileMesh V)) :
    mesher.lookup space.stored =
      fun worldpos => (space.tile worldpos).getD mesher.unknownTileData := by
  funext worldpos
  unfold lookup VoxelSpace.stored VoxelSpace.tile
  cases space.chunks (toChunkpos worldpos) <;> rfl

/-- It is what `mesh_chunk` makes from the chunk and its loaded neighbours. -/
theorem meshChunk_eq_freshMesh (mesher : Mesher T V) {space : VoxelSpace (TileMesh V)}
    {pos : TilePos} {chunkData : PerChunkData (TileMesh V)}
    (present : space.chunks pos = some chunkData) :
    mesher.meshChunk (neighbourhood space.stored pos chunkData.chunk.data) =
      mesher.freshMesh space pos := by
  have stored : space.stored pos = some chunkData.chunk.data := by
    rw [VoxelSpace.stored, present, Option.map_some]
  rw [meshChunk_neighbourhood mesher stored, lookup_stored]
  rfl

theorem freshMesh_congr (mesher : Mesher T V) {before after : VoxelSpace (TileMesh V)}
    {pos : TilePos}
    (same : ∀ worldpos, Reads pos worldpos → after.tile worldpos = before.tile worldpos) :
    mesher.freshMesh after pos = mesher.freshMesh before pos :=
  mesher.meshWorld_congr fun worldpos reads => by rw [same worldpos reads]

end Mesher

variable {T V : Type} [Tile T] [DecidableEq T]

namespace MeshTask

/-- A task is up to date when it has locked just the chunks that the mesh of its chunk is
made from, and what its worker has read of them is still what they contain. -/
def Current (space : VoxelSpace (TileMesh V)) (task : MeshTask) : Prop :=
  ∀ worldpos, Reads task.chunkpos worldpos →
    ((space.tile worldpos).isSome ↔ toChunkpos worldpos ∈ task.positions) ∧
      ∀ data, task.seen (toChunkpos worldpos) = some data →
        space.tile worldpos = some (data (toLocalpos worldpos))

/-- Workers only read chunks that their task has locked. -/
structure Confined (task : MeshTask) : Prop where
  own : task.chunkpos ∈ task.positions
  seen : ∀ pos data, task.seen pos = some data → pos ∈ task.positions

theorem Current.congr {before after : VoxelSpace (TileMesh V)} {task : MeshTask}
    (current : Current before task)
    (same : ∀ worldpos, Reads task.chunkpos worldpos →
      after.tile worldpos = before.tile worldpos) : Current after task := by
  intro worldpos reads
  rw [same worldpos reads]
  exact current worldpos reads

/-- The result of an up to date task is the mesh that its chunk should have. -/
theorem Current.mesh_eq {space : VoxelSpace (TileMesh V)} {task : MeshTask}
    (current : Current space task) (confined : task.Confined)
    (finished : task.finished = true) (mesher : Mesher T V) :
    task.mesh mesher = mesher.freshMesh space task.chunkpos := by
  have everything : ∀ pos ∈ task.positions, ∃ data, task.seen pos = some data :=
    fun pos mem => Option.isSome_iff_exists.mp (List.all_eq_true.mp finished pos mem)
  obtain ⟨own, ownEq⟩ := everything _ confined.own
  rw [mesh, ownEq]
  change mesher.meshChunk (Mesher.neighbourhood task.seen task.chunkpos own) = _
  rw [Mesher.meshChunk_neighbourhood mesher ownEq]
  refine mesher.meshWorld_congr fun worldpos reads => ?_
  obtain ⟨locked, contents⟩ := current worldpos reads
  unfold Mesher.lookup
  cases seen : task.seen (toChunkpos worldpos) with
  | some data => rw [contents data seen, Option.getD_some]
  | none =>
      have absent : space.tile worldpos = none := by
        rw [← Option.not_isSome_iff_eq_none, locked]
        intro mem
        obtain ⟨data, dataEq⟩ := everything _ mem
        cases seen.symm.trans dataEq
      rw [absent, Option.getD_none]

end MeshTask

namespace MeshingSpace

/-- Stored meshes are fresh unless a new one is due, queued writes have been announced to
the chunks that read them, and the newest task of a chunk is up to date unless the chunk
is waiting for another one. -/
structure MeshInvariant (mesher : Mesher T V) (state : MeshingSpace V) : Prop where
  fresh : ∀ pos chunkData, state.space.chunks pos = some chunkData →
    chunkData.meshStatus = .meshed → chunkData.subbuffer = mesher.freshMesh state.space pos
  requested : state.space.PendingRequested
  current : ∀ task ∈ state.tasks, ∀ chunkData,
    state.space.chunks task.chunkpos = some chunkData → chunkData.meshStatus = .meshing →
      chunkData.mostRecentMeshTask.toUInt64 = task.taskId →
        MeshTask.Current state.space task
  confined : ∀ task ∈ state.tasks, task.Confined

theorem meshInvariant_empty (mesher : Mesher T V) :
    MeshInvariant mesher (empty : MeshingSpace V) where
  fresh _ _ present := by cases present
  requested := by
    rintro worldpos ⟨td, mem⟩
    exact absurd mem List.not_mem_nil
  current _ mem := absurd mem List.not_mem_nil
  confined _ mem := absurd mem List.not_mem_nil

/-- Operations that ask for all meshes they spoil keep the invariant. -/
theorem MeshInvariant.keeps {mesher : Mesher T V} {before after : VoxelSpace (TileMesh V)}
    {tasks : List MeshTask} (inv : MeshInvariant mesher ⟨before, tasks⟩)
    (keeps : before.Keeps after) : MeshInvariant mesher ⟨after, tasks⟩ where
  fresh pos next present status := by
    obtain ⟨previous, kept⟩ := keeps pos next present (by simp [status])
    rw [kept.subbuffer, inv.fresh pos previous kept.present (kept.meshStatus ▸ status)]
    exact (mesher.freshMesh_congr kept.tile).symm
  requested := keeps.pendingRequested inv.requested
  current task mem next present status recent := by
    obtain ⟨previous, kept⟩ := keeps task.chunkpos next present (by simp [status])
    exact (inv.current task mem previous kept.present (kept.meshStatus ▸ status)
      (kept.mostRecentMeshTask ▸ recent)).congr kept.tile
  confined := inv.confined

/-- No neighbour of the chunk has queued writes that the mesh of the chunk reads. -/
def NeighboursSettled (space : VoxelSpace (TileMesh V)) (pos : TilePos) : Prop :=
  ∀ dir ∈ directions, ∀ queued ∈ space.pending (pos.towards dir),
    ¬Reads pos (toWorldpos (pos.towards dir) queued.1.offset)

/-- A visit of `update_meshes` starts a task for this chunk. -/
def Starts (space : VoxelSpace (TileMesh V)) (pos : TilePos) : Prop :=
  (space.chunks pos).any fun chunkData =>
    !chunkData.chunk.hasPendingChanges && chunkData.meshStatus = .needsMeshing

/-- The number of the next task of this chunk is not in use. -/
def FreshTaskId (state : MeshingSpace V) (pos : TilePos) : Prop :=
  ∀ task ∈ state.tasks, task.chunkpos = pos →
    (state.space.chunks pos).all fun chunkData =>
      (chunkData.mostRecentMeshTask + 1).toUInt64 ≠ task.taskId

/-- The conditions under which the two slips do not matter: a task is not started from
tiles that are about to change, and the newest task of a chunk does not complete when
another mesh was asked for since it was started. -/
def Undisturbed (state : MeshingSpace V) : MeshingAction → Prop
  | .updateMeshes order => ∀ pos ∈ order, Starts state.space pos →
      NeighboursSettled state.space pos ∧ FreshTaskId state pos
  | .completeTask index => ∀ task ∈ state.tasks[index]?, ∀ chunkData ∈ state.space.chunks task.chunkpos,
      chunkData.mostRecentMeshTask.toUInt64 = task.taskId → chunkData.meshStatus = .meshing
  | _ => True

theorem starts_iff {space : VoxelSpace (TileMesh V)} {pos : TilePos} :
    Starts space pos ↔ ∃ chunkData, space.chunks pos = some chunkData ∧
      chunkData.chunk.pendingChanges = [] ∧ chunkData.meshStatus = .needsMeshing := by
  unfold Starts
  cases space.chunks pos with
  | none => simp
  | some chunkData => simp [Chunk.hasPendingChanges]

theorem updateMeshesAt_of_starts {state : MeshingSpace V} {pos : TilePos}
    {chunkData : PerChunkData (TileMesh V)} (present : state.space.chunks pos = some chunkData)
    (settled : chunkData.chunk.pendingChanges = [])
    (status : chunkData.meshStatus = .needsMeshing)
    (generate : ChunkGenerator (TileMesh V)) :
    state.updateMeshesAt generate pos = state.startTask generate pos chunkData := by
  unfold updateMeshesAt
  rw [present]
  simp [Chunk.hasPendingChanges, settled, status]

theorem updateMeshesAt_of_not_starts {state : MeshingSpace V} {pos : TilePos}
    (idle : ¬Starts state.space pos) (generate : ChunkGenerator (TileMesh V)) :
    state.updateMeshesAt generate pos = state := by
  unfold updateMeshesAt
  cases present : state.space.chunks pos with
  | none => rfl
  | some chunkData =>
      simp only
      split
      · rfl
      · rename_i settled
        split
        · rename_i status
          refine absurd (starts_iff.mpr ⟨chunkData, present, ?_, status⟩) idle
          exact (Chunk.hasPendingChanges_eq_false_iff _).mp (by simpa using settled)
        · rfl

/-- Nothing that a chunk reads has queued writes when a task is started for it. -/
theorem not_pendingAt_of_reads {space : VoxelSpace (TileMesh V)} {pos : TilePos}
    {chunkData : PerChunkData (TileMesh V)} (present : space.chunks pos = some chunkData)
    (settled : chunkData.chunk.pendingChanges = [])
    (neighbours : NeighboursSettled space pos) {worldpos : TilePos}
    (reads : Reads pos worldpos) : ¬space.PendingAt worldpos := by
  rintro ⟨td, mem⟩
  rcases toChunkpos_of_reads reads with own | ⟨dir, next⟩
  · rw [own, VoxelSpace.pending, present] at mem
    simp only [settled] at mem
    exact absurd mem List.not_mem_nil
  · rw [next] at mem
    refine neighbours dir (mem_directions dir) _ mem ?_
    rw [← next, toWorldpos_toChunkpos]
    exact reads

/-- A task has locked all loaded chunks that its chunk reads, and no others. -/
theorem newTask_current (space : VoxelSpace (TileMesh V)) {pos : TilePos}
    {chunkData : PerChunkData (TileMesh V)} (present : space.chunks pos = some chunkData) :
    MeshTask.Current space (newTask space pos chunkData) := by
  intro worldpos (reads : Reads pos worldpos)
  refine ⟨?_, fun data seen => by cases seen⟩
  change _ ↔ toChunkpos worldpos ∈ taskPositions space pos
  have loaded : (space.tile worldpos).isSome = space.isLoaded (toChunkpos worldpos) := by
    unfold VoxelSpace.tile VoxelSpace.isLoaded
    rw [Option.isSome_map]
  rw [loaded, taskPositions, List.mem_cons, List.mem_filter, VoxelSpace.mem_neighbours]
  rcases toChunkpos_of_reads reads with own | ⟨dir, next⟩
  · simp [own, VoxelSpace.isLoaded, present]
  · simp [next, towards_ne]

/-- Starting a task keeps the invariant. -/
theorem MeshInvariant.startTask {mesher : Mesher T V} {state : MeshingSpace V}
    (inv : MeshInvariant mesher state) {pos : TilePos}
    {chunkData : PerChunkData (TileMesh V)} (present : state.space.chunks pos = some chunkData)
    (settled : chunkData.chunk.pendingChanges = [])
    (neighbours : NeighboursSettled state.space pos) (freshId : FreshTaskId state pos)
    (generate : ChunkGenerator (TileMesh V)) :
    MeshInvariant mesher (state.startTask generate pos chunkData) := by
  let marked := state.space.insert pos
    { chunkData with
      meshStatus := .meshing
      mostRecentMeshTask := chunkData.mostRecentMeshTask + 1 }
  have tiles : ∀ worldpos, marked.tile worldpos = state.space.tile worldpos := by
    intro worldpos
    by_cases chunk_eq : toChunkpos worldpos = pos
    · simp [marked, VoxelSpace.tile, chunk_eq, present]
    · simp [marked, VoxelSpace.tile, VoxelSpace.insert_chunks_of_ne chunk_eq]
  have queued : ∀ worldpos, marked.PendingAt worldpos → state.space.PendingAt worldpos := by
    intro worldpos
    by_cases chunk_eq : toChunkpos worldpos = pos
    · simp [marked, VoxelSpace.PendingAt, VoxelSpace.pending, chunk_eq, present]
    · simp [marked, VoxelSpace.PendingAt, VoxelSpace.pending,
        VoxelSpace.insert_chunks_of_ne chunk_eq]
  have markedInv : MeshInvariant mesher
      ⟨marked, state.tasks ++ [newTask state.space pos chunkData]⟩ :=
    { fresh := by
        intro other otherData otherPresent status
        by_cases other_eq : other = pos
        · subst other_eq
          rw [VoxelSpace.insert_chunks_self] at otherPresent
          exact absurd (Option.some.inj otherPresent ▸ status) (by simp)
        · rw [VoxelSpace.insert_chunks_of_ne other_eq] at otherPresent
          rw [inv.fresh other otherData otherPresent status]
          exact (mesher.freshMesh_congr fun worldpos _ => tiles worldpos).symm
      requested := by
        intro worldpos atPos other otherData otherPresent reads
        have was := queued worldpos atPos
        by_cases other_eq : other = pos
        · subst other_eq
          exact absurd was (not_pendingAt_of_reads present settled neighbours reads)
        · rw [VoxelSpace.insert_chunks_of_ne other_eq] at otherPresent
          exact inv.requested worldpos was other otherData otherPresent reads
      current := by
        intro task mem otherData otherPresent status recent
        rcases List.mem_append.mp mem with old | new
        · by_cases task_eq : task.chunkpos = pos
          · have unused := freshId task old task_eq
            rw [present, Option.all_some] at unused
            rw [task_eq, VoxelSpace.insert_chunks_self] at otherPresent
            rw [← Option.some.inj otherPresent] at recent
            exact absurd recent (by simpa using unused)
          · rw [VoxelSpace.insert_chunks_of_ne task_eq] at otherPresent
            exact (inv.current task old otherData otherPresent status recent).congr
              fun worldpos _ => tiles worldpos
        · rw [List.mem_singleton.mp new]
          exact (newTask_current state.space present).congr fun worldpos _ => tiles worldpos
      confined := by
        intro task mem
        rcases List.mem_append.mp mem with old | new
        · exact inv.confined task old
        · rw [List.mem_singleton.mp new]
          exact ⟨List.mem_cons_self, fun _ _ seen => by cases seen⟩ }
  exact markedInv.keeps (VoxelSpace.keeps_lockChunks generate markedInv.requested _)

/-- What locking chunks that are already loaded leaves alone. -/
def meshView (chunkData : PerChunkData (TileMesh V)) :
    List PendingChange × MeshStatus × UInt32 :=
  (chunkData.chunk.pendingChanges, chunkData.meshStatus, chunkData.mostRecentMeshTask)

/-- Whether a task is started for a chunk is told by the part of the space that locking
leaves alone. -/
def SameView (before after : VoxelSpace (TileMesh V)) : Prop :=
  ∀ pos, (after.chunks pos).map meshView = (before.chunks pos).map meshView

theorem SameView.trans {first second third : VoxelSpace (TileMesh V)}
    (left : SameView first second) (right : SameView second third) : SameView first third :=
  fun pos => (right pos).trans (left pos)

theorem SameView.isLoaded {before after : VoxelSpace (TileMesh V)}
    (same : SameView before after) (pos : TilePos) :
    after.isLoaded pos = before.isLoaded pos := by
  have viewEq := congrArg Option.isSome (same pos)
  simpa [VoxelSpace.isLoaded] using viewEq

theorem sameView_modify {space : VoxelSpace (TileMesh V)} {chunkpos : TilePos}
    {change : PerChunkData (TileMesh V) → PerChunkData (TileMesh V)}
    (view : ∀ chunkData, meshView (change chunkData) = meshView chunkData) :
    SameView space (space.modify chunkpos change) := by
  intro pos
  by_cases pos_eq : pos = chunkpos
  · subst pos_eq
    rw [VoxelSpace.modify_chunks_self, Option.map_map]
    exact Option.map_congr fun chunkData _ => view chunkData
  · rw [VoxelSpace.modify_chunks_of_ne pos_eq]

theorem sameView_foldl {operation : VoxelSpace (TileMesh V) → TilePos → VoxelSpace (TileMesh V)}
    (each : ∀ space pos, space.isLoaded pos = true → SameView space (operation space pos))
    {positions : List TilePos} {space : VoxelSpace (TileMesh V)}
    (loaded : ∀ pos ∈ positions, space.isLoaded pos = true) :
    SameView space (positions.foldl operation space) := by
  induction positions generalizing space with
  | nil => exact fun _ => rfl
  | cons pos rest ih =>
      have first := each space pos (loaded pos List.mem_cons_self)
      refine first.trans (ih fun other mem => ?_)
      rw [first.isLoaded]
      exact loaded other (List.mem_cons_of_mem _ mem)

theorem sameView_lockChunks (generate : ChunkGenerator (TileMesh V))
    {space : VoxelSpace (TileMesh V)} {positions : List TilePos}
    (loaded : ∀ pos ∈ positions, space.isLoaded pos = true) :
    SameView space (space.lockChunks generate positions) := by
  have held : SameView space (positions.foldl (VoxelSpace.loadChunk generate) space) := by
    refine sameView_foldl (fun current pos isLoaded => ?_) loaded
    obtain ⟨chunkData, present⟩ := Option.isSome_iff_exists.mp isLoaded
    rw [VoxelSpace.loadChunk_of_present present, VoxelSpace.insert_eq_modify present
      fun chunkData => { chunkData with loadCount := chunkData.loadCount + 1 }]
    exact sameView_modify fun _ => rfl
  refine held.trans (sameView_foldl (fun current pos _ => ?_) fun pos mem => ?_)
  · exact sameView_modify fun _ => rfl
  · exact (held.isLoaded pos).trans (loaded pos mem)

/-- Starting a task changes nothing that matters to the other chunks. -/
theorem sameView_startTask {state : MeshingSpace V} {pos : TilePos}
    {chunkData : PerChunkData (TileMesh V)} (present : state.space.chunks pos = some chunkData)
    (generate : ChunkGenerator (TileMesh V)) :
    SameView
      (state.space.insert pos
        { chunkData with
          meshStatus := .meshing
          mostRecentMeshTask := chunkData.mostRecentMeshTask + 1 })
      (state.startTask generate pos chunkData).space := by
  refine sameView_lockChunks generate fun other mem => ?_
  by_cases other_eq : other = pos
  · subst other_eq
    simp [VoxelSpace.isLoaded]
  · rw [VoxelSpace.isLoaded, VoxelSpace.insert_chunks_of_ne other_eq]
    have rest := (List.mem_cons.mp mem).resolve_left other_eq
    exact (List.mem_filter.mp rest).2

theorem pending_eq_of_view {before after : VoxelSpace (TileMesh V)} {pos : TilePos}
    (same : (after.chunks pos).map meshView = (before.chunks pos).map meshView) :
    after.pending pos = before.pending pos := by
  unfold VoxelSpace.pending
  cases afterEq : after.chunks pos with
  | none =>
      rw [afterEq, Option.map_none, eq_comm, Option.map_eq_none_iff] at same
      rw [same]
  | some next =>
      rw [afterEq, Option.map_some, eq_comm, Option.map_eq_some_iff] at same
      obtain ⟨previous, previousEq, view⟩ := same
      rw [previousEq]
      exact congrArg Prod.fst view.symm

/-- Visiting one chunk leaves the conditions for the other visits in force. -/
theorem undisturbed_startTask {state : MeshingSpace V} {pos : TilePos}
    {chunkData : PerChunkData (TileMesh V)} (present : state.space.chunks pos = some chunkData)
    (generate : ChunkGenerator (TileMesh V)) {other : TilePos}
    (starts : Starts (state.startTask generate pos chunkData).space other) :
    Starts state.space other ∧
      (NeighboursSettled state.space other ∧ FreshTaskId state other →
        NeighboursSettled (state.startTask generate pos chunkData).space other ∧
          FreshTaskId (state.startTask generate pos chunkData) other) := by
  have same := sameView_startTask present generate
  obtain ⟨next, nextEq, nextSettled, nextStatus⟩ := starts_iff.mp starts
  have other_ne : other ≠ pos := by
    rintro rfl
    have view := same other
    rw [nextEq, VoxelSpace.insert_chunks_self] at view
    have status := congrArg (fun view => view.2.1) (Option.some.inj view)
    exact absurd (status.symm.trans nextStatus) (by simp [meshView])
  have view := same other
  rw [VoxelSpace.insert_chunks_of_ne other_ne, nextEq, eq_comm, Option.map_some,
    Option.map_eq_some_iff] at view
  obtain ⟨previous, previousEq, viewEq⟩ := view
  obtain ⟨pendingEq, statusEq, recentEq⟩ : previous.chunk.pendingChanges =
      next.chunk.pendingChanges ∧ previous.meshStatus = next.meshStatus ∧
        previous.mostRecentMeshTask = next.mostRecentMeshTask := by
    simpa [meshView] using viewEq
  refine ⟨starts_iff.mpr ⟨previous, previousEq, pendingEq.trans nextSettled,
    statusEq.trans nextStatus⟩, fun ⟨neighbours, freshId⟩ => ⟨?_, ?_⟩⟩
  · intro dir mem queued queuedMem
    refine neighbours dir mem queued ?_
    rw [pending_eq_of_view (same _)] at queuedMem
    by_cases next_eq : other.towards dir = pos
    · rw [next_eq, VoxelSpace.pending, VoxelSpace.insert_chunks_self] at queuedMem
      rw [next_eq, VoxelSpace.pending, present]
      exact queuedMem
    · rw [VoxelSpace.pending, VoxelSpace.insert_chunks_of_ne next_eq] at queuedMem
      exact queuedMem
  · intro task mem task_eq
    rw [nextEq, Option.all_some, ← recentEq]
    rcases List.mem_append.mp mem with old | new
    · have unused := freshId task old task_eq
      rwa [previousEq, Option.all_some] at unused
    · rw [List.mem_singleton.mp new] at task_eq
      exact absurd task_eq.symm other_ne

/-- An update keeps the invariant. -/
theorem MeshInvariant.updateMeshes {mesher : Mesher T V} {state : MeshingSpace V}
    (inv : MeshInvariant mesher state) {order : List TilePos}
    (undisturbed : Undisturbed state (.updateMeshes order))
    (generate : ChunkGenerator (TileMesh V)) :
    MeshInvariant mesher (state.updateMeshes generate order) := by
  induction order generalizing state with
  | nil => exact inv
  | cons pos rest ih =>
      have restUndisturbed : Undisturbed state (.updateMeshes rest) := fun other mem =>
        undisturbed other (List.mem_cons_of_mem _ mem)
      change MeshInvariant mesher ((state.updateMeshesAt generate pos).updateMeshes generate rest)
      by_cases starts : Starts state.space pos
      · obtain ⟨chunkData, present, settled, status⟩ := starts_iff.mp starts
        obtain ⟨neighbours, freshId⟩ := undisturbed pos List.mem_cons_self starts
        rw [updateMeshesAt_of_starts present settled status generate]
        refine ih (inv.startTask present settled neighbours freshId generate) ?_
        intro other mem otherStarts
        obtain ⟨before, later⟩ := undisturbed_startTask present generate otherStarts
        exact later (restUndisturbed other mem before)
      · rw [updateMeshesAt_of_not_starts starts generate]
        exact ih inv restUndisturbed

/-- A worker that reads a chunk keeps the invariant. -/
theorem MeshInvariant.readChunk {mesher : Mesher T V} {state next : MeshingSpace V}
    (inv : MeshInvariant mesher state) {index : Nat} {pos : TilePos}
    (readEq : state.readChunk index pos = some next) : MeshInvariant mesher next := by
  unfold MeshingSpace.readChunk at readEq
  obtain ⟨task, taskEq, readEq⟩ := Option.bind_eq_some_iff.mp readEq
  obtain ⟨data, dataEq, readEq⟩ := Option.bind_eq_some_iff.mp readEq
  have taskMem : task ∈ state.tasks := List.mem_of_getElem? taskEq
  split at readEq
  · rename_i allowed
    rw [← Option.some.inj readEq]
    refine ⟨inv.fresh, inv.requested, fun other mem chunkData present status recent => ?_,
      fun other mem => ?_⟩
    · rcases List.mem_or_eq_of_mem_set mem with old | rfl
      · exact inv.current other old chunkData present status recent
      · have current := inv.current task taskMem chunkData present status recent
        intro worldpos reads
        refine ⟨(current worldpos reads).1, fun contents seen => ?_⟩
        by_cases chunk_eq : toChunkpos worldpos = pos
        · simp only [chunk_eq, Function.update_self, Option.some.injEq] at seen
          unfold VoxelSpace.stored at dataEq
          obtain ⟨own, ownEq, rfl⟩ := Option.map_eq_some_iff.mp dataEq
          simp only [VoxelSpace.tile, chunk_eq, ownEq, Option.map_some, seen]
        · simp only [Function.update_of_ne chunk_eq] at seen
          exact (current worldpos reads).2 contents seen
    · rcases List.mem_or_eq_of_mem_set mem with old | rfl
      · exact inv.confined other old
      · refine ⟨(inv.confined task taskMem).own, fun seenPos contents seen => ?_⟩
        by_cases pos_eq : seenPos = pos
        · exact pos_eq ▸ allowed.1
        · simp only [Function.update_of_ne pos_eq] at seen
          exact (inv.confined task taskMem).seen seenPos contents seen
  · cases readEq

/-- Storing the mesh of a finished task keeps the invariant. -/
theorem MeshInvariant.storeMesh {mesher : Mesher T V} {state : MeshingSpace V}
    (inv : MeshInvariant mesher state) {task : MeshTask} (mem : task ∈ state.tasks)
    {chunkData : PerChunkData (TileMesh V)}
    (present : state.space.chunks task.chunkpos = some chunkData)
    (finished : task.finished = true)
    (undisturbed : chunkData.mostRecentMeshTask.toUInt64 = task.taskId →
      chunkData.meshStatus = .meshing) :
    MeshInvariant mesher ⟨storeMesh mesher state.space task chunkData, state.tasks⟩ := by
  unfold MeshingSpace.storeMesh
  split
  · rename_i newest
    have status := undisturbed newest
    have current := inv.current task mem chunkData present status newest
    have meshEq := current.mesh_eq (inv.confined task mem) finished mesher
    have tiles : ∀ worldpos, (state.space.insert task.chunkpos
        { chunkData with subbuffer := task.mesh mesher, meshStatus := .meshed }).tile worldpos =
          state.space.tile worldpos := by
      intro worldpos
      by_cases chunk_eq : toChunkpos worldpos = task.chunkpos
      · simp [VoxelSpace.tile, chunk_eq, present]
      · simp [VoxelSpace.tile, VoxelSpace.insert_chunks_of_ne chunk_eq]
    have queued : ∀ worldpos, (state.space.insert task.chunkpos
        { chunkData with subbuffer := task.mesh mesher, meshStatus := .meshed }).PendingAt
          worldpos → state.space.PendingAt worldpos := by
      intro worldpos
      by_cases chunk_eq : toChunkpos worldpos = task.chunkpos
      · simp [VoxelSpace.PendingAt, VoxelSpace.pending, chunk_eq, present]
      · simp [VoxelSpace.PendingAt, VoxelSpace.pending,
          VoxelSpace.insert_chunks_of_ne chunk_eq]
    refine ⟨fun pos other otherPresent otherStatus => ?_, ?_, ?_, inv.confined⟩
    · rw [mesher.freshMesh_congr fun worldpos _ => tiles worldpos]
      by_cases pos_eq : pos = task.chunkpos
      · subst pos_eq
        rw [VoxelSpace.insert_chunks_self] at otherPresent
        rw [← Option.some.inj otherPresent]
        exact meshEq
      · rw [VoxelSpace.insert_chunks_of_ne pos_eq] at otherPresent
        exact inv.fresh pos other otherPresent otherStatus
    · intro worldpos atPos pos other otherPresent reads
      have was := queued worldpos atPos
      by_cases pos_eq : pos = task.chunkpos
      · subst pos_eq
        have asked := inv.requested worldpos was _ chunkData present reads
        exact absurd (asked.symm.trans status) (by simp)
      · rw [VoxelSpace.insert_chunks_of_ne pos_eq] at otherPresent
        exact inv.requested worldpos was pos other otherPresent reads
    · intro other otherMem otherData otherPresent otherStatus recent
      by_cases pos_eq : other.chunkpos = task.chunkpos
      · rw [pos_eq, VoxelSpace.insert_chunks_self] at otherPresent
        exact absurd (Option.some.inj otherPresent ▸ otherStatus) (by simp)
      · rw [VoxelSpace.insert_chunks_of_ne pos_eq] at otherPresent
        exact (inv.current other otherMem otherData otherPresent otherStatus recent).congr
          fun worldpos _ => tiles worldpos
  · exact inv

/-- Completing a task keeps the invariant. -/
theorem MeshInvariant.completeTask {mesher : Mesher T V} {state next : MeshingSpace V}
    (inv : MeshInvariant mesher state) {index : Nat}
    (undisturbed : Undisturbed state (.completeTask index))
    (completeEq : state.completeTask mesher index = some next) :
    MeshInvariant mesher next := by
  unfold MeshingSpace.completeTask at completeEq
  obtain ⟨task, taskEq, completeEq⟩ := Option.bind_eq_some_iff.mp completeEq
  obtain ⟨chunkData, present, completeEq⟩ := Option.bind_eq_some_iff.mp completeEq
  split at completeEq
  · rename_i finished
    obtain ⟨released, releaseEq, nextEq⟩ := Option.map_eq_some_iff.mp completeEq
    have stored := inv.storeMesh (List.mem_of_getElem? taskEq) present finished
      (undisturbed task taskEq chunkData present)
    have kept := stored.keeps (VoxelSpace.keeps_releaseChunks stored.requested releaseEq)
    rw [← nextEq]
    exact
      { fresh := kept.fresh
        requested := kept.requested
        current := fun other mem => kept.current other (List.mem_of_mem_eraseIdx mem)
        confined := fun other mem => kept.confined other (List.mem_of_mem_eraseIdx mem) }
  · cases completeEq

/-- Every undisturbed step keeps the invariant. -/
theorem meshInvariant_step {mesher : Mesher T V} {generate : ChunkGenerator (TileMesh V)}
    {state next : MeshingSpace V} {action : MeshingAction} (inv : MeshInvariant mesher state)
    (undisturbed : Undisturbed state action)
    (stepEq : step mesher generate state action = some next) : MeshInvariant mesher next := by
  cases action with
  | setData worldpos td =>
      rw [← Option.some.inj stepEq]
      exact inv.keeps (VoxelSpace.keeps_setData state.space _ worldpos td)
  | loadChunk chunkpos =>
      rw [← Option.some.inj stepEq]
      exact inv.keeps (VoxelSpace.keeps_loadChunk generate state.space chunkpos)
  | unloadChunk chunkpos =>
      rw [← Option.some.inj stepEq]
      exact inv.keeps (VoxelSpace.keeps_unloadChunk state.space chunkpos)
  | updateMeshes order =>
      rw [← Option.some.inj stepEq]
      exact inv.updateMeshes undisturbed generate
  | readChunk index pos => exact inv.readChunk stepEq
  | completeTask index => exact inv.completeTask undisturbed stepEq

/-- When nothing is in flight and every loaded chunk is meshed, every stored mesh is what
`mesh_chunk` makes from the present tiles. -/
def MeshesFresh (mesher : Mesher T V) (state : MeshingSpace V) : Prop :=
  state.tasks = [] →
    (∀ pos chunkData, state.space.chunks pos = some chunkData →
      chunkData.meshStatus = .meshed) →
    ∀ pos chunkData, state.space.chunks pos = some chunkData →
      chunkData.subbuffer = mesher.meshChunk
        (Mesher.neighbourhood state.space.stored pos chunkData.chunk.data)

/-- Meshes are fresh in every state that is reached by undisturbed steps. -/
theorem meshesFresh_of_run (mesher : Mesher T V) (generate : ChunkGenerator (TileMesh V))
    {actions : List MeshingAction} {state : MeshingSpace V}
    (undisturbed : Guarded (step mesher generate) Undisturbed empty actions)
    (runEq : run (step mesher generate) empty actions = some state) :
    MeshesFresh mesher state := by
  intro _ meshed pos chunkData present
  have inv := run_invariant (fun _ _ _ inv here stepEq => meshInvariant_step inv here stepEq)
    (meshInvariant_empty mesher) undisturbed runEq
  rw [inv.fresh pos chunkData present (meshed pos chunkData present)]
  exact (mesher.meshChunk_eq_freshMesh present).symm

/-- Chunks are only loaded by loads. -/
theorem isLoaded_of_step {mesher : Mesher T V} {generate : ChunkGenerator (TileMesh V)}
    {state next : MeshingSpace V} {action : MeshingAction}
    (stepEq : step mesher generate state action = some next) {pos : TilePos}
    (loaded : next.space.isLoaded pos = true) :
    state.space.isLoaded pos = true ∨ action = .loadChunk pos := by
  cases action with
  | setData worldpos td =>
      rw [← Option.some.inj stepEq] at loaded
      rw [← VoxelSpace.isLoaded_setData]
      exact Or.inl loaded
  | loadChunk chunkpos =>
      rw [← Option.some.inj stepEq, VoxelSpace.isLoaded_loadChunk, Bool.or_eq_true,
        decide_eq_true_iff] at loaded
      rcases loaded with rfl | old
      · exact Or.inr rfl
      · exact Or.inl old
  | unloadChunk chunkpos =>
      rw [← Option.some.inj stepEq] at loaded
      exact Or.inl (VoxelSpace.isLoaded_of_isLoaded_unloadChunk loaded)
  | updateMeshes order =>
      rw [← Option.some.inj stepEq] at loaded
      left
      clear stepEq
      change (order.foldl (updateMeshesAt generate) state).space.isLoaded pos = true at loaded
      induction order generalizing state with
      | nil => exact loaded
      | cons first rest ih =>
          have visited := ih loaded
          by_cases starts : Starts state.space first
          · obtain ⟨chunkData, present, settled, status⟩ := starts_iff.mp starts
            rw [updateMeshesAt_of_starts present settled status,
              (sameView_startTask present generate).isLoaded] at visited
            by_cases pos_eq : pos = first
            · rw [pos_eq, VoxelSpace.isLoaded, present, Option.isSome_some]
            · rwa [VoxelSpace.isLoaded, VoxelSpace.insert_chunks_of_ne pos_eq] at visited
          · rwa [updateMeshesAt_of_not_starts starts] at visited
  | readChunk index readPos =>
      simp only [step, MeshingSpace.readChunk] at stepEq
      obtain ⟨task, _, stepEq⟩ := Option.bind_eq_some_iff.mp stepEq
      obtain ⟨data, _, stepEq⟩ := Option.bind_eq_some_iff.mp stepEq
      split at stepEq
      · rw [← Option.some.inj stepEq] at loaded
        exact Or.inl loaded
      · cases stepEq
  | completeTask index =>
      simp only [step, MeshingSpace.completeTask] at stepEq
      obtain ⟨task, _, stepEq⟩ := Option.bind_eq_some_iff.mp stepEq
      obtain ⟨chunkData, present, stepEq⟩ := Option.bind_eq_some_iff.mp stepEq
      split at stepEq
      · obtain ⟨released, releaseEq, nextEq⟩ := Option.map_eq_some_iff.mp stepEq
        rw [← nextEq] at loaded
        have stored := VoxelSpace.isLoaded_of_releaseChunks releaseEq loaded
        unfold storeMesh at stored
        split at stored
        · by_cases pos_eq : pos = task.chunkpos
          · rw [pos_eq, VoxelSpace.isLoaded, present, Option.isSome_some]
            exact Or.inl rfl
          · rw [VoxelSpace.isLoaded, VoxelSpace.insert_chunks_of_ne pos_eq] at stored
            exact Or.inl stored
        · exact Or.inl stored
      · cases stepEq

/-- Every loaded chunk was there at the start or has been loaded since. -/
theorem isLoaded_of_run {mesher : Mesher T V} {generate : ChunkGenerator (TileMesh V)}
    {actions : List MeshingAction} {state final : MeshingSpace V}
    (runEq : run (step mesher generate) state actions = some final) {pos : TilePos}
    (loaded : final.space.isLoaded pos = true) :
    state.space.isLoaded pos = true ∨ .loadChunk pos ∈ actions := by
  induction actions generalizing state with
  | nil => exact Or.inl (Option.some.inj runEq ▸ loaded)
  | cons action rest ih =>
      obtain ⟨next, stepEq, restRun⟩ := (run_cons_eq_some_iff _ _ _ _ _).mp runEq
      rcases ih restRun with nextLoaded | mem
      · rcases isLoaded_of_step stepEq nextLoaded with start | rfl
        · exact Or.inl start
        · exact Or.inr List.mem_cons_self
      · exact Or.inr (List.mem_cons_of_mem _ mem)

end MeshingSpace

/-- Tiles for small worlds. -/
inductive GroundTile where
  | air
  | unknown
  | stone
  deriving DecidableEq

instance : Tile GroundTile where
  numStates _ := 1

/-- A mesher for small worlds, in which a stone has one vertex on each visible side. -/
def groundMesher : Mesher GroundTile (Direction × LocalPos) where
  registry := (run TileRegistry.step TileRegistry.empty
    [.registerTile .air false, .registerTile .unknown false, .registerTile .stone true]).getD
      TileRegistry.empty
  skipTileList := [.air, .unknown]
  unknownTile := .unknown
  rendered tile := tile = .stone
  occludesSide tile _ _ := tile = .stone
  appendMesh _ sides _ :=
    ⟨(directions.filter fun dir => sides &&& Mesher.sideBit dir ≠ 0).map fun dir =>
      (dir, ⟨0, 0, 0⟩), []⟩
  displace vertex place := (vertex.1, place)

namespace MeshingSpace

/-- All chunks are generated empty. -/
def generateAir : ChunkGenerator (TileMesh (Direction × LocalPos)) :=
  fun _ _ _ => ⟨0, 0⟩

/-- A stone is placed while the chunk it is placed in is being meshed. -/
def staleRun : List MeshingAction :=
  [.loadChunk ⟨0, 0, 0⟩, .updateMeshes [⟨0, 0, 0⟩], .readChunk 0 ⟨0, 0, 0⟩,
    .setData ⟨0, 0, 0⟩ ⟨0, 2⟩, .completeTask 0]

/-- A stone is placed between two meshings. -/
def remeshRun : List MeshingAction :=
  [.loadChunk ⟨0, 0, 0⟩, .updateMeshes [⟨0, 0, 0⟩], .readChunk 0 ⟨0, 0, 0⟩, .completeTask 0,
    .setData ⟨0, 0, 0⟩ ⟨0, 2⟩, .updateMeshes [⟨0, 0, 0⟩], .readChunk 0 ⟨0, 0, 0⟩,
    .completeTask 0]

instance (space : VoxelSpace (TileMesh V)) (pos : TilePos) : Decidable (Starts space pos) :=
  inferInstanceAs (Decidable (_ = true))

instance (space : VoxelSpace (TileMesh V)) (pos : TilePos) :
    Decidable (NeighboursSettled space pos) :=
  inferInstanceAs (Decidable (∀ dir ∈ directions, ∀ _ ∈ _, _))

instance (state : MeshingSpace V) (pos : TilePos) : Decidable (FreshTaskId state pos) :=
  inferInstanceAs (Decidable (∀ _ ∈ _, _))

instance (state : MeshingSpace V) : (action : MeshingAction) →
    Decidable (Undisturbed state action)
  | .updateMeshes _ => inferInstanceAs (Decidable (∀ _ ∈ _, _))
  | .completeTask _ => inferInstanceAs (Decidable (∀ _ ∈ _, ∀ _ ∈ _, _))
  | .setData .. => inferInstanceAs (Decidable True)
  | .loadChunk _ => inferInstanceAs (Decidable True)
  | .unloadChunk _ => inferInstanceAs (Decidable True)
  | .readChunk .. => inferInstanceAs (Decidable True)

/-- Without a write in the meantime the meshes are fresh, and the chunk has one in the end. -/
theorem meshesFresh_remeshRun :
    ∃ state, run (step groundMesher generateAir) empty remeshRun = some state ∧
      state.tasks.length = 0 ∧
      (state.space.chunks ⟨0, 0, 0⟩).map PerChunkData.meshStatus = some .meshed ∧
      MeshesFresh groundMesher state := by
  refine ⟨_, rfl, by decide +kernel, by decide +kernel, ?_⟩
  have undisturbed : Guarded (step groundMesher generateAir) Undisturbed empty remeshRun := by
    decide +kernel
  exact meshesFresh_of_run groundMesher generateAir undisturbed rfl

/-- A chunk with a stone in its corner. -/
def cornerStone : ChunkData :=
  Function.update (fun _ => ⟨0, 0⟩) (toLocalpos ⟨0, 0, 0⟩) ⟨0, 2⟩

/-- A stone in the corner of a chunk without neighbours is visible. -/
theorem mesh_cornerStone_ne :
    groundMesher.meshChunk ⟨cornerStone, fun _ => none⟩ ≠ default := by
  intro empty
  have vertex := groundMesher.displace_mem_meshChunk ⟨cornerStone, fun _ => none⟩ ⟨0, 0, 0⟩
    (by decide +kernel) (by decide +kernel)
    (show ((Direction.up, ⟨0, 0, 0⟩) : Direction × LocalPos) ∈ _ by decide +kernel)
  rw [empty] at vertex
  exact absurd vertex List.not_mem_nil

/-- The only chunk that is ever loaded is the one at the origin. -/
theorem eq_origin_of_staleRun {state : MeshingSpace (Direction × LocalPos)}
    (runEq : run (step groundMesher generateAir) empty staleRun = some state) {pos : TilePos}
    (loaded : state.space.isLoaded pos = true) : pos = ⟨0, 0, 0⟩ := by
  rcases isLoaded_of_run runEq loaded with start | mem
  · cases start
  · simpa [staleRun] using mem

/-- The request for a new mesh is lost when the task completes. -/
theorem mesh_stale :
    ∃ state, run (step groundMesher generateAir) empty staleRun = some state ∧
      ¬MeshesFresh groundMesher state := by
  obtain ⟨state, runEq⟩ := Option.isSome_iff_exists.mp
    (show (run (step groundMesher generateAir) empty staleRun).isSome = true by decide +kernel)
  refine ⟨state, runEq, fun fresh => ?_⟩
  have tasks : (run (step groundMesher generateAir) empty staleRun).map
      (fun state => state.tasks.length) = some 0 := by decide +kernel
  have status : (run (step groundMesher generateAir) empty staleRun).map
      (fun state => (state.space.chunks ⟨0, 0, 0⟩).map PerChunkData.meshStatus) =
        some (some .meshed) := by decide +kernel
  have subbuffer : (run (step groundMesher generateAir) empty staleRun).map
      (fun state => (state.space.chunks ⟨0, 0, 0⟩).map PerChunkData.subbuffer) =
        some (some (groundMesher.meshChunk (Mesher.neighbourhood
          (Function.update (fun _ => none) ⟨0, 0, 0⟩ (some fun _ => ⟨0, 0⟩)) ⟨0, 0, 0⟩
            fun _ => ⟨0, 0⟩))) := rfl
  have data : (run (step groundMesher generateAir) empty staleRun).map
      (fun state => state.space.stored ⟨0, 0, 0⟩) = some (some cornerStone) := rfl
  simp only [runEq, Option.map_some, Option.some.injEq, List.length_eq_zero_iff,
    VoxelSpace.stored, Option.map_eq_some_iff] at tasks status subbuffer data
  obtain ⟨chunkData, present, statusEq⟩ := status
  simp only [present, Option.some.injEq, exists_eq_left'] at subbuffer data
  have alone : ∀ dir, state.space.stored (TilePos.towards ⟨0, 0, 0⟩ dir) = none := by
    intro dir
    by_contra loaded
    refine towards_ne ⟨0, 0, 0⟩ dir (eq_origin_of_staleRun runEq ?_)
    rw [VoxelSpace.isLoaded, ← Option.isSome_map (f := fun chunkData => chunkData.chunk.data)]
    exact Option.isSome_iff_ne_none.mpr loaded
  have meshed : ∀ pos other, state.space.chunks pos = some other →
      other.meshStatus = .meshed := by
    intro pos other otherPresent
    have pos_eq := eq_origin_of_staleRun runEq
      (show state.space.isLoaded pos = true by
        rw [VoxelSpace.isLoaded, otherPresent, Option.isSome_some])
    rw [pos_eq, present] at otherPresent
    exact Option.some.inj otherPresent ▸ statusEq
  have meshEq := fresh tasks meshed _ chunkData present
  have nb : Mesher.neighbourhood state.space.stored ⟨0, 0, 0⟩ chunkData.chunk.data =
      ⟨cornerStone, fun _ => none⟩ := by
    rw [Mesher.neighbourhood, data]
    congr 1
    exact funext alone
  have airSkipped : groundMesher.skip ⟨0, 0⟩ = true := by decide +kernel
  rw [subbuffer, groundMesher.meshChunk_of_skipped fun _ => airSkipped, nb] at meshEq
  exact mesh_cornerStone_ne meshEq.symm

end MeshingSpace

end VoxelEngine.Voxel
