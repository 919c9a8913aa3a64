import VoxelEngine.Voxel.Meshing

/-!
# Which chunks an operation asks to be meshed anew

The mesh of a chunk is made from its own tiles and those next to it.  Every operation on
a space asks for new meshes wherever it changes what a mesh is made from: chunks that are
not waiting for a mesh afterwards find all they were made from as it was before.
-/

namespace VoxelEngine.Voxel

open Mesher (Reads)

/-- A chunk only reads tiles of itself and of the chunks next to it. -/
theorem toChunkpos_of_reads {pos worldpos : TilePos} (reads : Reads pos worldpos) :
    toChunkpos worldpos = pos ∨ ∃ dir, toChunkpos worldpos = pos.towards dir := by
  rcases reads with own | ⟨dir, next⟩
  · exact Or.inl own
  · have place := toWorldpos_toChunkpos worldpos
    by_cases leaves : OutOfBounds ((toLocalpos worldpos).offset.towards dir)
    · have crossed := toChunkpos_towards_of_outOfBounds leaves (toChunkpos worldpos)
      rw [place, next] at crossed
      exact Or.inr ⟨dir.opposing, by rw [crossed, towards_opposing]⟩
    · have stayed := toChunkpos_towards_of_inBounds leaves (toChunkpos worldpos)
      rw [place, next] at stayed
      exact Or.inl stayed.symm

namespace VoxelSpace

variable {M : Type}

/-- The tile at a position, if its chunk is loaded. -/
def tile (space : VoxelSpace M) (worldpos : TilePos) : Option TileData :=
  (space.chunks (toChunkpos worldpos)).map fun chunkData =>
    chunkData.chunk.data (toLocalpos worldpos)

/-- There is a queued write to this position. -/
def PendingAt (space : VoxelSpace M) (worldpos : TilePos) : Prop :=
  ∃ td, (toLocalpos worldpos, td) ∈ space.pending (toChunkpos worldpos)

theorem tile_eq_of_chunks_eq {before after : VoxelSpace M} {worldpos : TilePos}
    (same : after.chunks (toChunkpos worldpos) = before.chunks (toChunkpos worldpos) ∨
      after.chunks (toChunkpos worldpos) =
        (before.chunks (toChunkpos worldpos)).map PerChunkData.needMesh) :
    after.tile worldpos = before.tile worldpos ∧
      (after.PendingAt worldpos → before.PendingAt worldpos) := by
  unfold tile PendingAt pending
  rcases same with equal | asked
  · rw [equal]
    exact ⟨rfl, id⟩
  · rw [asked]
    cases before.chunks (toChunkpos worldpos) with
    | none => exact ⟨rfl, id⟩
    | some chunkData => exact ⟨rfl, id⟩

/-- What an operation leaves as it was for a chunk that is not waiting for a mesh. -/
structure KeepsChunk (before after : VoxelSpace M) (pos : TilePos)
    (previous next : PerChunkData M) : Prop where
  present : before.chunks pos = some previous
  meshStatus : next.meshStatus = previous.meshStatus
  subbuffer : next.subbuffer = previous.subbuffer
  mostRecentMeshTask : next.mostRecentMeshTask = previous.mostRecentMeshTask
  tile : ∀ worldpos, Reads pos worldpos → after.tile worldpos = before.tile worldpos
  pending : ∀ worldpos, Reads pos worldpos →
    after.PendingAt worldpos → before.PendingAt worldpos

/-- Wherever an operation changes what a mesh is made from, the chunk is waiting for a
new one afterwards. -/
def Keeps (before after : VoxelSpace M) : Prop :=
  ∀ pos next, after.chunks pos = some next → next.meshStatus ≠ .needsMeshing →
    ∃ previous, KeepsChunk before after pos previous next

theorem Keeps.refl (space : VoxelSpace M) : Keeps space space :=
  fun _ next present _ =>
    ⟨next, present, rfl, rfl, rfl, fun _ _ => rfl, fun _ _ atPos => atPos⟩

theorem Keeps.trans {first second third : VoxelSpace M} (left : Keeps first second)
    (right : Keeps second third) : Keeps first third := by
  intro pos next present status
  obtain ⟨middle, later⟩ := right pos next present status
  obtain ⟨previous, earlier⟩ :=
    left pos middle later.present (later.meshStatus ▸ status)
  exact
    ⟨previous, earlier.present, later.meshStatus.trans earlier.meshStatus,
      later.subbuffer.trans earlier.subbuffer,
      later.mostRecentMeshTask.trans earlier.mostRecentMeshTask,
      fun worldpos reads => (later.tile worldpos reads).trans (earlier.tile worldpos reads),
      fun worldpos reads atPos =>
        earlier.pending worldpos reads (later.pending worldpos reads atPos)⟩

/-- Every chunk that would be made from a queued write is waiting for a new mesh. -/
def PendingRequested (space : VoxelSpace M) : Prop :=
  ∀ worldpos, space.PendingAt worldpos → ∀ pos chunkData,
    space.chunks pos = some chunkData → Reads pos worldpos →
      chunkData.meshStatus = .needsMeshing

theorem Keeps.pendingRequested {before after : VoxelSpace M} (keeps : Keeps before after)
    (requested : before.PendingRequested) : after.PendingRequested := by
  intro worldpos atPos pos next present reads
  by_contra status
  obtain ⟨previous, kept⟩ := keeps pos next present status
  exact status (kept.meshStatus.trans
    (requested worldpos (kept.pending worldpos reads atPos) pos previous kept.present reads))

/-- Writing a tile asks for meshes of all loaded chunks that read it. -/
theorem keeps_setData (space : VoxelSpace M) (unknown : TileData) (worldpos : TilePos)
    (td : TileData) : Keeps space (space.setData unknown worldpos td).2 := by
  cases own : space.chunks (toChunkpos worldpos) with
  | none =>
      rw [setData_of_absent own]
      exact Keeps.refl space
  | some chunkData =>
      intro pos next present status
      rw [setData_chunks own] at present
      split at present
      · exact absurd (Option.some.inj present ▸ rfl) status
      rename_i pos_ne
      split at present
      · obtain ⟨previous, _, rfl⟩ := Option.map_eq_some_iff.mp present
        exact absurd rfl status
      rename_i untouched
      have unread : ¬Reads pos worldpos := by
        rintro (reads | ⟨dir, reads⟩)
        · exact pos_ne reads.symm
        · exact untouched ((mem_touchedNeighbours _ _).mpr ⟨pos_ne, dir, reads⟩)
      refine ⟨next, present, rfl, rfl, rfl, fun other reads => ?_, fun other reads => ?_⟩
      all_goals
        have other_ne : other ≠ worldpos := fun equal => unread (equal ▸ reads)
        by_cases chunk_eq : toChunkpos other = toChunkpos worldpos
      · have place_ne : toLocalpos other ≠ toLocalpos worldpos := fun place_eq =>
          other_ne (by
            rw [← toWorldpos_toChunkpos other, chunk_eq, place_eq, toWorldpos_toChunkpos])
        simp only [tile, setData_chunks own, chunk_eq, if_true, own, Option.map_some]
        cases locked : chunkData.chunk.locked with
        | true => rw [Chunk.setData_of_locked locked]
        | false =>
            rw [Chunk.setData_of_unlocked locked]
            exact congrArg some (Function.update_of_ne place_ne _ _)
      · refine (tile_eq_of_chunks_eq ?_).1
        rw [setData_chunks own, if_neg chunk_eq]
        split
        · exact Or.inr rfl
        · exact Or.inl rfl
      · have place_ne : toLocalpos other ≠ toLocalpos worldpos := fun place_eq =>
          other_ne (by
            rw [← toWorldpos_toChunkpos other, chunk_eq, place_eq, toWorldpos_toChunkpos])
        simp only [PendingAt, pending, setData_chunks own, chunk_eq, if_true, own]
        cases locked : chunkData.chunk.locked with
        | true =>
            rw [Chunk.setData_of_locked locked]
            rintro ⟨otherTd, mem⟩
            rcases List.mem_append.mp mem with mem | mem
            · exact ⟨otherTd, mem⟩
            · exact absurd (congrArg Prod.fst (List.mem_singleton.mp mem)) place_ne
        | false =>
            rw [Chunk.setData_of_unlocked locked]
            exact id
      · refine (tile_eq_of_chunks_eq ?_).2
        rw [setData_chunks own, if_neg chunk_eq]
        split
        · exact Or.inr rfl
        · exact Or.inl rfl

/-- An operation that replaces one chunk may only do so if it asks for meshes of its
neighbours and for one of the chunk that it leaves there. -/
theorem keeps_of_replaced {before after : VoxelSpace M} (chunkpos : TilePos)
    (replaced : ∀ next, after.chunks chunkpos = some next →
      next.meshStatus = .needsMeshing)
    (others : ∀ pos, pos ≠ chunkpos → after.chunks pos =
      if pos ∈ neighbours chunkpos then (before.chunks pos).map PerChunkData.needMesh
      else before.chunks pos) : Keeps before after := by
  intro pos next present status
  have pos_ne : pos ≠ chunkpos := fun equal => status (replaced next (equal ▸ present))
  have away : pos ∉ neighbours chunkpos := by
    intro mem
    rw [others pos pos_ne, if_pos mem] at present
    obtain ⟨previous, _, rfl⟩ := Option.map_eq_some_iff.mp present
    exact status rfl
  have unchanged : ∀ worldpos, Reads pos worldpos →
      after.tile worldpos = before.tile worldpos ∧
        (after.PendingAt worldpos → before.PendingAt worldpos) := by
    intro worldpos reads
    have chunk_ne : toChunkpos worldpos ≠ chunkpos := by
      rcases toChunkpos_of_reads reads with equal | ⟨dir, equal⟩
      · exact equal ▸ pos_ne
      · rintro rfl
        exact away ((mem_neighbours _ _).mpr
          ⟨dir.opposing, by rw [equal, towards_opposing]⟩)
    refine tile_eq_of_chunks_eq ?_
    rw [others _ chunk_ne]
    split
    · exact Or.inr rfl
    · exact Or.inl rfl
  rw [others pos pos_ne, if_neg away] at present
  exact ⟨next, present, rfl, rfl, rfl, fun worldpos reads => (unchanged worldpos reads).1,
    fun worldpos reads => (unchanged worldpos reads).2⟩

/-- A change of one entry that keeps its mesh and does not touch any tile or queued write
that a chunk which is not waiting for a mesh reads. -/
theorem keeps_modify {space : VoxelSpace M} {chunkpos : TilePos}
    {change : PerChunkData M → PerChunkData M}
    (meshStatus : ∀ chunkData, (change chunkData).meshStatus = chunkData.meshStatus)
    (subbuffer : ∀ chunkData, (change chunkData).subbuffer = chunkData.subbuffer)
    (recent : ∀ chunkData,
      (change chunkData).mostRecentMeshTask = chunkData.mostRecentMeshTask)
    (tiles : ∀ chunkData, space.chunks chunkpos = some chunkData → ∀ worldpos,
      toChunkpos worldpos = chunkpos →
      (∃ pos previous, space.chunks pos = some previous ∧
        previous.meshStatus ≠ .needsMeshing ∧ Reads pos worldpos) →
      (change chunkData).chunk.data (toLocalpos worldpos) =
        chunkData.chunk.data (toLocalpos worldpos))
    (pending : ∀ chunkData, ∀ queued ∈ (change chunkData).chunk.pendingChanges,
      queued ∈ chunkData.chunk.pendingChanges) :
    Keeps space (space.modify chunkpos change) := by
  intro pos next present status
  have kept : ∃ previous, space.chunks pos = some previous ∧
      next.meshStatus = previous.meshStatus ∧ next.subbuffer = previous.subbuffer ∧
        next.mostRecentMeshTask = previous.mostRecentMeshTask := by
    by_cases pos_eq : pos = chunkpos
    · subst pos_eq
      rw [modify_chunks_self] at present
      obtain ⟨previous, previousEq, rfl⟩ := Option.map_eq_some_iff.mp present
      exact ⟨previous, previousEq, meshStatus previous, subbuffer previous, recent previous⟩
    · rw [modify_chunks_of_ne pos_eq] at present
      exact ⟨next, present, rfl, rfl, rfl⟩
  obtain ⟨previous, previousEq, statusEq, subbufferEq, recentEq⟩ := kept
  refine ⟨previous, previousEq, statusEq, subbufferEq, recentEq,
    fun worldpos reads => ?_, fun worldpos reads => ?_⟩
  all_goals by_cases chunk_eq : toChunkpos worldpos = chunkpos
  · subst chunk_eq
    simp only [tile, modify_chunks_self, Option.map_map]
    refine Option.map_congr fun chunkData own => ?_
    exact tiles chunkData own worldpos rfl
      ⟨pos, previous, previousEq, statusEq ▸ status, reads⟩
  · exact (tile_eq_of_chunks_eq (Or.inl (modify_chunks_of_ne chunk_eq _ _))).1
  · subst chunk_eq
    simp only [PendingAt, VoxelSpace.pending, modify_chunks_self]
    cases own : space.chunks (toChunkpos worldpos) with
    | none => exact id
    | some chunkData =>
        rintro ⟨td, mem⟩
        exact ⟨td, pending chunkData _ mem⟩
  · exact (tile_eq_of_chunks_eq (Or.inl (modify_chunks_of_ne chunk_eq _ _))).2

theorem keeps_loadChunk [Inhabited M] (generate : ChunkGenerator M) (space : VoxelSpace M)
    (chunkpos : TilePos) : Keeps space (space.loadChunk generate chunkpos) := by
  cases own : space.chunks chunkpos with
  | some chunkData =>
      rw [loadChunk_of_present own, insert_eq_modify own fun chunkData =>
        { chunkData with loadCount := chunkData.loadCount + 1 }]
      exact keeps_modify (fun _ => rfl) (fun _ => rfl) (fun _ => rfl)
        (fun _ _ _ _ _ => rfl) fun _ _ => id
  | none =>
      refine keeps_of_replaced chunkpos (fun next present => ?_)
        fun pos pos_ne => ?_
      · rw [loadChunk_chunks_of_absent own, if_pos rfl] at present
        exact Option.some.inj present ▸ rfl
      · rw [loadChunk_chunks_of_absent own, if_neg pos_ne]

theorem keeps_unloadChunk (space : VoxelSpace M) (chunkpos : TilePos) :
    Keeps space (space.unloadChunk chunkpos) := by
  cases own : space.chunks chunkpos with
  | none =>
      rw [unloadChunk_of_absent own]
      exact Keeps.refl space
  | some chunkData =>
      by_cases last : chunkData.loadCount - 1 = 0
      · refine keeps_of_replaced chunkpos (fun next present => ?_)
          fun pos pos_ne => ?_
        · rw [unloadChunk_chunks_of_last own last, if_pos rfl] at present
          cases present
        · rw [unloadChunk_chunks_of_last own last, if_neg pos_ne]
      · rw [unloadChunk_of_held own last, insert_eq_modify own fun chunkData =>
          { chunkData with loadCount := chunkData.loadCount - 1 }]
        exact keeps_modify (fun _ => rfl) (fun _ => rfl) (fun _ => rfl)
          (fun _ _ _ _ _ => rfl) fun _ _ => id

theorem keeps_lock (space : VoxelSpace M) (chunkpos : TilePos) :
    Keeps space (space.modify chunkpos fun chunkData =>
      { chunkData with chunk := chunkData.chunk.toggleWriteLock true }) :=
  keeps_modify (fun _ => rfl) (fun _ => rfl) (fun _ => rfl) (fun _ _ _ _ _ => rfl)
    fun _ _ => id

/-- Releasing a lock applies writes that only chunks waiting for a mesh read. -/
theorem keeps_unlock {space : VoxelSpace M} (requested : space.PendingRequested)
    (chunkpos : TilePos) :
    Keeps space (space.modify chunkpos fun chunkData =>
      { chunkData with chunk := chunkData.chunk.toggleWriteLock false }) := by
  refine keeps_modify (fun _ => rfl) (fun _ => rfl) (fun _ => rfl) ?_ ?_
  · rintro chunkData own worldpos rfl ⟨pos, previous, previousEq, status, reads⟩
    rw [Chunk.toggleWriteLock_false]
    refine applyChanges_of_forall_ne (fun queued mem place_eq => status ?_) _
    refine requested worldpos ⟨queued.2, ?_⟩ pos previous previousEq reads
    rw [pending, own, ← place_eq]
    exact mem
  · intro chunkData queued mem
    rw [Chunk.toggleWriteLock_false] at mem
    exact absurd mem List.not_mem_nil

/-- Operations that keep meshes intact do so one after the other. -/
theorem keeps_foldl {operation : VoxelSpace M → TilePos → VoxelSpace M}
    (each : ∀ space pos, PendingRequested space → Keeps space (operation space pos))
    (positions : List TilePos) {space : VoxelSpace M} (requested : space.PendingRequested) :
    Keeps space (positions.foldl operation space) := by
  induction positions generalizing space with
  | nil => exact Keeps.refl space
  | cons pos rest ih =>
      have first := each space pos requested
      exact first.trans (ih (first.pendingRequested requested))

/-- Creating a locker keeps meshes intact. -/
theorem keeps_lockChunks [Inhabited M] (generate : ChunkGenerator M) {space : VoxelSpace M}
    (requested : space.PendingRequested) (positions : List TilePos) :
    Keeps space (space.lockChunks generate positions) := by
  have loaded := keeps_foldl (fun current pos _ => keeps_loadChunk generate current pos)
    positions requested
  exact loaded.trans (keeps_foldl (fun current pos _ => keeps_lock current pos) positions
    (loaded.pendingRequested requested))

/-- Destroying a locker keeps meshes intact. -/
theorem keeps_releaseChunks {space released : VoxelSpace M}
    (requested : space.PendingRequested) {positions : List TilePos}
    (releaseEq : space.releaseChunks positions = some released) :
    Keeps space released := by
  unfold releaseChunks at releaseEq
  split at releaseEq
  · have unlocked : Keeps space (space.unlockChunks positions) :=
      keeps_foldl (fun current pos settled => keeps_unlock settled pos) positions requested
    rw [← Option.some.inj releaseEq]
    exact unlocked.trans (keeps_foldl (fun current pos _ => keeps_unloadChunk current pos)
      positions (unlocked.pendingRequested requested))
  · cases releaseEq

end VoxelSpace

end VoxelEngine.Voxel
