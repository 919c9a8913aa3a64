import VoxelEngine.Voxel.VoxelComponent

/-!
# One chunk of a remote

What happens to the counterpart of a space happens chunk by chunk.  For each chunk the
loader and the space of the remote determine the tiles that it is going to show once the
loader has done what it was told.
-/

namespace VoxelEngine.Voxel

open VoxelEngine.Data

/-- What a remote keeps of one chunk. -/
structure RemoteChunk where
  pending : Bool
  loaded : Bool
  unloaded : Bool
  data : Option ChunkData
  entry : Option ChunkEntry

/-- The entry of a chunk that is held by the loader or not, and by a number of lockers.
Writes are only queued while the chunk is locked, which it is only while some locker
covers it. -/
inductive Tended : Option ChunkEntry → Nat → Nat → Prop where
  | absent : Tended none 0 0
  | present (chunk : Chunk) (held covers : Nat) (positive : 0 < held + covers)
      (settled : chunk.locked = false → chunk.pendingChanges = [])
      (covered : chunk.locked = true → 0 < covers) :
      Tended (some (chunk, held + covers)) held covers

namespace Tended

variable {entry : Option ChunkEntry} {held covers : Nat}

theorem load (tended : Tended none held covers) (data : ChunkData) :
    Tended (some (Chunk.create data, 1)) 1 covers := by
  cases tended with
  | absent => exact present (Chunk.create data) 1 0 Nat.one_pos (fun _ => rfl) nofun

theorem unload (tended : Tended entry 1 covers) :
    Tended (VoxelSpace.unloadedEntry entry) 0 covers := by
  cases tended with
  | present chunk _ _ positive settled covered =>
      have count : 1 + covers - 1 = 0 + covers := by omega
      rw [VoxelSpace.unloadedEntry, count]
      by_cases last : 0 + covers = 0
      · rw [if_pos last]
        have coversEq : covers = 0 := by omega
        rw [coversEq]
        exact absent
      · rw [if_neg last]
        exact present chunk 0 covers (by omega) settled covered

theorem lock {found : ChunkEntry} (tended : Tended (some found) held covers) :
    Tended (some (found.1.toggleWriteLock true, found.2 + 1)) held (covers + 1) := by
  cases tended with
  | present chunk _ _ positive settled covered =>
      exact present (chunk.toggleWriteLock true) held (covers + 1) (by omega) nofun
        fun _ => Nat.succ_pos covers

theorem release (tended : Tended entry held (covers + 1)) :
    Tended (VoxelSpace.unloadedEntry
      (entry.map fun found => (found.1.toggleWriteLock false, found.2))) held covers := by
  cases tended with
  | present chunk _ _ positive settled covered =>
      have count : held + (covers + 1) - 1 = held + covers := by omega
      rw [Option.map_some, VoxelSpace.unloadedEntry, count, Chunk.toggleWriteLock_false]
      by_cases last : held + covers = 0
      · rw [if_pos last]
        have heldEq : held = 0 := by omega
        have coversEq : covers = 0 := by omega
        rw [heldEq, coversEq]
        exact absent
      · rw [if_neg last]
        exact present _ held covers (by omega) (fun _ => rfl) nofun

theorem write (tended : Tended entry held covers) (place : LocalPos) (td : TileData) :
    Tended (entry.map fun found => ((found.1.setData place td).2, found.2)) held covers := by
  cases tended with
  | absent => exact absent
  | present chunk _ _ positive settled covered =>
      apply present _ held covers positive
      · intro unlocked
        rw [Chunk.setData_locked] at unlocked
        rw [Chunk.setData_of_unlocked unlocked]
        exact settled unlocked
      · intro locked
        rw [Chunk.setData_locked] at locked
        exact covered locked

theorem count_eq {found : ChunkEntry} (tended : Tended (some found) held covers) :
    found.2 = held + covers := by
  cases tended with
  | present chunk _ _ positive settled covered => rfl

/-- A chunk that nobody holds is not there. -/
theorem eq_none (tended : Tended entry 0 0) : entry = none := by
  generalize heldEq : 0 = held at tended
  cases tended with
  | absent => rfl
  | present chunk _ _ positive settled covered =>
      rw [← heldEq] at positive
      exact absurd positive (Nat.lt_irrefl 0)

/-- Nothing is queued in an unlocked chunk. -/
theorem settled_of_unlocked {found : ChunkEntry} (tended : Tended (some found) held covers)
    (unlocked : found.1.locked = false) : found.1.pendingChanges = [] := by
  cases tended with
  | present chunk _ _ positive settled covered => exact settled unlocked

/-- Without lockers nothing is queued. -/
theorem settled_of_uncovered {found : ChunkEntry} (tended : Tended (some found) held 0) :
    found.1.pendingChanges = [] := by
  cases tended with
  | present chunk _ _ positive settled covered =>
      apply settled
      cases locked : chunk.locked with
      | false => rfl
      | true => exact absurd (covered locked) (Nat.lt_irrefl 0)

end Tended

/-- Queued writes come after those that were queued before. -/
theorem applyChanges_append_singleton (data : ChunkData) (changes : List PendingChange)
    (change : PendingChange) :
    applyChanges data (changes ++ [change]) =
      Function.update (applyChanges data changes) change.1 change.2 := by
  rw [applyChanges, List.foldl_append]
  rfl

namespace RemoteChunk

/-- `voxel_space::load_chunk` -/
def load (chunk : RemoteChunk) : Option RemoteChunk :=
  match chunk.entry with
  | some found => some { chunk with entry := some (found.1, found.2 + 1) }
  | none =>
      chunk.data.map fun data =>
        { chunk with data := none, entry := some (Chunk.create data, 1) }

/-- Note the chunk as loaded, and load it if it was not. -/
def loadPending (chunk : RemoteChunk) : Option RemoteChunk :=
  if chunk.loaded then some chunk else load { chunk with loaded := true }

/-- Unload the chunk if it was noted as loaded. -/
def unloadLoaded (chunk : RemoteChunk) : RemoteChunk :=
  if chunk.loaded then
    { chunk with loaded := false, entry := VoxelSpace.unloadedEntry chunk.entry }
  else chunk

/-- `remote_loader::update` -/
def update (chunk : RemoteChunk) : Option RemoteChunk :=
  (if chunk.pending then chunk.loadPending else some chunk).map fun loading =>
    { (if chunk.unloaded then loading.unloadLoaded else loading) with
      pending := false
      unloaded := false }

/-- `remote_loader::load_from_remote` -/
def loadFromRemote (chunk : RemoteChunk) (data : ChunkData) : RemoteChunk :=
  { chunk with pending := true, data := some (chunk.data.getD data) }

/-- `remote_loader::unload_from_remote` -/
def unloadFromRemote (chunk : RemoteChunk) : RemoteChunk :=
  { chunk with pending := false, unloaded := true, data := none }

/-- `voxel_space::set_data` -/
def write (chunk : RemoteChunk) (place : LocalPos) (td : TileData) : RemoteChunk :=
  { chunk with
    entry := chunk.entry.map fun found => ((found.1.setData place td).2, found.2) }

/-- The tiles that a chunk will show once its loader has done what it was told and its
lockers are gone.  A chunk is absent, promised by a message, loaded, or about to be
unloaded. -/
inductive Shows : RemoteChunk → Option ChunkData → Prop where
  | absent (entry : Option ChunkEntry) : Shows ⟨false, false, false, none, entry⟩ none
  | promised (data : ChunkData) (entry : Option ChunkEntry) :
      Shows ⟨true, false, false, some data, entry⟩ (some data)
  | present (pending : Bool) (data : Option ChunkData) (found : ChunkEntry) :
      Shows ⟨pending, true, false, data, some found⟩
        (some (applyChanges found.1.data found.1.pendingChanges))
  | dropped (loaded : Bool) (entry : Option ChunkEntry) :
      Shows ⟨false, loaded, true, none, entry⟩ none

/-- The chunk will show some tiles, and its entry is in order. -/
structure Tracks (chunk : RemoteChunk) (covers : Nat) (shown : Option ChunkData) : Prop where
  shows : chunk.Shows shown
  tended : Tended chunk.entry chunk.loaded.toNat covers

/-- The loader has done what it was told, nobody else holds the chunk, and no writes are
queued. -/
structure Quiet (chunk : RemoteChunk) : Prop where
  noLoad : chunk.pending = false
  noUnload : chunk.unloaded = false
  held : chunk.loaded = false → chunk.entry = none
  written : ∀ found, chunk.entry = some found → found.1.pendingChanges = []

variable {chunk : RemoteChunk} {covers : Nat} {shown : Option ChunkData}

/-- A quiet chunk shows its tiles already. -/
theorem Shows.eq_of_quiet (shows : chunk.Shows shown) (quiet : chunk.Quiet) :
    shown = chunk.entry.map fun found => found.1.data := by
  cases shows with
  | absent entry =>
      have none_left : entry = none := quiet.held rfl
      rw [none_left]
      rfl
  | promised data entry => exact absurd quiet.noLoad (by simp)
  | present pending data found =>
      rw [Option.map_some, quiet.written found rfl, applyChanges_nil]
  | dropped loaded entry => exact absurd quiet.noUnload (by simp)

/-- The message that a chunk is loaded does not change what is shown of it.  It must not
come while the loader is still about to unload the chunk. -/
theorem Tracks.loadFromRemote (tracks : chunk.Tracks covers shown)
    (waits : chunk.unloaded = false) (data : ChunkData) :
    (chunk.loadFromRemote data).Tracks covers (some (shown.getD data)) := by
  rcases tracks with ⟨shows, tended⟩
  cases shows with
  | absent entry => exact ⟨Shows.promised data entry, tended⟩
  | promised promisedData entry => exact ⟨Shows.promised promisedData entry, tended⟩
  | present pending kept found => exact ⟨Shows.present true _ found, tended⟩
  | dropped loaded entry => cases waits

theorem Tracks.unloadFromRemote (tracks : chunk.Tracks covers shown) :
    chunk.unloadFromRemote.Tracks covers none := by
  rcases tracks with ⟨shows, tended⟩
  exact ⟨Shows.dropped chunk.loaded chunk.entry, tended⟩

/-- A write shows if the chunk does not wait to be loaded. -/
theorem Tracks.write (tracks : chunk.Tracks covers shown)
    (inTime : chunk.pending = true → chunk.loaded = true) (place : LocalPos) (td : TileData) :
    (chunk.write place td).Tracks covers
      (shown.map fun data => Function.update data place td) := by
  rcases tracks with ⟨shows, tended⟩
  constructor
  · cases shows with
    | absent entry => exact Shows.absent _
    | promised data entry => cases inTime rfl
    | present pending data found =>
        have written : applyChanges (found.1.setData place td).2.data
            (found.1.setData place td).2.pendingChanges =
              Function.update (applyChanges found.1.data found.1.pendingChanges) place td := by
          cases locked : found.1.locked with
          | true =>
              rw [Chunk.setData_of_locked locked]
              exact applyChanges_append_singleton _ _ _
          | false =>
              rw [Chunk.setData_of_unlocked locked, tended.settled_of_unlocked locked]
              rfl
        rw [Option.map_some, ← written]
        exact Shows.present pending data ((found.1.setData place td).2, found.2)
    | dropped loaded entry => exact Shows.dropped loaded _
  · exact tended.write place td

/-- A locker does not change what is shown of a chunk that is there. -/
theorem Tracks.lock (tracks : chunk.Tracks covers shown) {found : ChunkEntry}
    (there : chunk.entry = some found) :
    ({ chunk with entry := some (found.1.toggleWriteLock true, found.2 + 1) } :
      RemoteChunk).Tracks (covers + 1) shown := by
  rcases tracks with ⟨shows, tended⟩
  constructor
  · cases shows with
    | absent entry => exact Shows.absent _
    | promised data entry => exact Shows.promised data _
    | present pending data same =>
        cases there
        exact Shows.present pending data (found.1.toggleWriteLock true, found.2 + 1)
    | dropped loaded entry => exact Shows.dropped loaded _
  · rw [there] at tended
    exact tended.lock

/-- Neither does the end of a locker. -/
theorem Tracks.release (tracks : chunk.Tracks (covers + 1) shown) :
    ({ chunk with
        entry := VoxelSpace.unloadedEntry
          (chunk.entry.map fun found => (found.1.toggleWriteLock false, found.2)) } :
      RemoteChunk).Tracks covers shown := by
  rcases tracks with ⟨shows, tended⟩
  refine ⟨?_, tended.release⟩
  cases shows with
  | absent entry => exact Shows.absent _
  | promised data entry => exact Shows.promised data _
  | present pending data found =>
      have more : found.2 - 1 ≠ 0 := by
        rw [tended.count_eq]
        simp
      rw [Option.map_some, VoxelSpace.unloadedEntry, if_neg more, Chunk.toggleWriteLock_false]
      exact Shows.present pending data
        (⟨applyChanges found.1.data found.1.pendingChanges, false, []⟩, _)
  | dropped loaded entry => exact Shows.dropped loaded _

/-- The update of the loader of a chunk that is shown does not fail, and changes nothing
about what is shown.  A chunk that waits to be loaded must not be there already. -/
theorem Tracks.update (tracks : chunk.Tracks covers shown)
    (fresh : chunk.pending = true → chunk.loaded = false → chunk.entry = none) :
    ∃ next, chunk.update = some next ∧ next.Tracks covers shown ∧ next.pending = false ∧
      next.unloaded = false ∧ next.loaded = ((chunk.pending || chunk.loaded) && !chunk.unloaded) ∧
      (chunk.loaded = true → chunk.unloaded = false → next.entry = chunk.entry) := by
  rcases tracks with ⟨shows, tended⟩
  cases shows with
  | absent entry => exact ⟨_, rfl, ⟨Shows.absent entry, tended⟩, rfl, rfl, rfl, nofun⟩
  | promised data entry =>
      have none_left : entry = none := fresh rfl rfl
      rw [none_left] at tended ⊢
      refine ⟨⟨false, true, false, none, some (Chunk.create data, 1)⟩, rfl, ⟨?_, ?_⟩,
        rfl, rfl, rfl, nofun⟩
      · exact Shows.present false none (Chunk.create data, 1)
      · exact tended.load data
  | present pending data found =>
      refine ⟨⟨false, true, false, data, some found⟩, ?_, ⟨Shows.present false data found, tended⟩,
        rfl, rfl, by simp, fun _ _ => rfl⟩
      cases pending <;> rfl
  | dropped loaded entry =>
      cases loaded with
      | false => exact ⟨_, rfl, ⟨Shows.absent entry, tended⟩, rfl, rfl, rfl, nofun⟩
      | true => exact ⟨_, rfl, ⟨Shows.absent _, tended.unload⟩, rfl, rfl, rfl, nofun⟩

/-- After an update a chunk is quiet if no locker keeps it from being so. -/
theorem Tracks.quiet (tracks : chunk.Tracks covers shown) (noLoad : chunk.pending = false)
    (noUnload : chunk.unloaded = false)
    (clear : 0 < covers → chunk.loaded = true ∧
      ∀ found, chunk.entry = some found → found.1.pendingChanges = []) : chunk.Quiet := by
  rcases tracks with ⟨shows, tended⟩
  rcases Nat.eq_zero_or_pos covers with coversEq | covered
  · rw [coversEq] at tended
    constructor
    · exact noLoad
    · exact noUnload
    · intro idle
      rw [idle] at tended
      exact tended.eq_none
    · intro found there
      rw [there] at tended
      exact tended.settled_of_uncovered
  · constructor
    · exact noLoad
    · exact noUnload
    · intro idle
      rw [(clear covered).1] at idle
      cases idle
    · exact (clear covered).2

end RemoteChunk

section View

variable {M : Type}

namespace RemoteLoader

/-- What a remote keeps of the chunk at a position. -/
def chunkAt (state : RemoteLoader × VoxelSpace M) (pos : TilePos) : RemoteChunk where
  pending := decide (pos ∈ state.1.queues.pending.1)
  loaded := decide (pos ∈ state.1.queues.loaded.1)
  unloaded := decide (pos ∈ state.1.queues.unloaded.1)
  data := state.1.data pos
  entry := state.2.entry pos

theorem chunkAt_loadFromRemote (loader : RemoteLoader) (space : VoxelSpace M)
    (chunkpos : TilePos) (data : ChunkData) (pos : TilePos) :
    chunkAt (loader.loadFromRemote chunkpos data, space) pos =
      if chunkpos = pos then (chunkAt (loader, space) pos).loadFromRemote data
      else chunkAt (loader, space) pos := by
  by_cases pos_eq : chunkpos = pos
  · rw [if_pos pos_eq, pos_eq]
    simp [loadFromRemote, LoadQueues.loadFromRemote, RemoteChunk.loadFromRemote,
      PositionSet.emplace, chunkAt]
    exact ⟨rfl, rfl⟩
  · rw [if_neg pos_eq]
    simp [loadFromRemote, LoadQueues.loadFromRemote, PositionSet.emplace, chunkAt,
      Ne.symm pos_eq]
    exact ⟨rfl, rfl⟩

theorem chunkAt_unloadFromRemote (loader : RemoteLoader) (space : VoxelSpace M)
    (chunkpos pos : TilePos) :
    chunkAt (loader.unloadFromRemote chunkpos, space) pos =
      if chunkpos = pos then (chunkAt (loader, space) pos).unloadFromRemote
      else chunkAt (loader, space) pos := by
  by_cases pos_eq : chunkpos = pos
  · rw [if_pos pos_eq, pos_eq]
    simp [unloadFromRemote, LoadQueues.unloadFromRemote, RemoteChunk.unloadFromRemote,
      PositionSet.emplace, PositionSet.erase, chunkAt, loader.queues.pending.2.not_mem_erase]
    rfl
  · rw [if_neg pos_eq]
    simp [unloadFromRemote, LoadQueues.unloadFromRemote, PositionSet.emplace,
      PositionSet.erase, chunkAt, Ne.symm pos_eq, List.mem_erase_of_ne (Ne.symm pos_eq)]
    rfl

@[simp]
theorem chunkAt_loadChunk_self [Inhabited M] (state : RemoteLoader × VoxelSpace M)
    (pos : TilePos) :
    (loadChunk state pos).map (fun next => chunkAt next pos) = (chunkAt state pos).load := by
  cases own : state.2.chunks pos with
  | some chunkData =>
      simp only [loadChunk, RemoteChunk.load, chunkAt, VoxelSpace.entry, own, Option.map_some,
        VoxelSpace.insert_chunks_self]
  | none =>
      have absent : state.2.entry pos = none := by rw [VoxelSpace.entry, own, Option.map_none]
      cases data : state.1.data pos with
      | none =>
          simp only [loadChunk, generate, RemoteChunk.load, chunkAt, own, absent, data,
            Option.map_none]
      | some generated =>
          simp only [loadChunk, generate, RemoteChunk.load, chunkAt, own, absent, data,
            Option.map_some, Function.update_self, VoxelSpace.entry_loadChunk_self,
            VoxelSpace.loadedEntry]

theorem chunkAt_loadChunk_of_ne [Inhabited M] {state next : RemoteLoader × VoxelSpace M}
    {visited pos : TilePos} (loadEq : loadChunk state visited = some next)
    (pos_ne : pos ≠ visited) : chunkAt next pos = chunkAt state pos := by
  cases own : state.2.chunks visited with
  | some chunkData =>
      simp only [loadChunk, own, Option.some.injEq] at loadEq
      rw [← loadEq]
      simp only [chunkAt, VoxelSpace.entry, VoxelSpace.insert_chunks_of_ne pos_ne]
  | none =>
      simp only [loadChunk, own, generate, Option.map_map, Option.map_eq_some_iff] at loadEq
      rcases loadEq with ⟨generated, _, rfl⟩
      simp only [chunkAt, Function.comp_apply, Function.update_of_ne pos_ne,
        VoxelSpace.entry_loadChunk_of_ne _ _ pos_ne]

@[simp]
theorem chunkAt_loadPending_self [Inhabited M] (state : RemoteLoader × VoxelSpace M)
    (pos : TilePos) :
    (loadPending state pos).map (fun next => chunkAt next pos) =
      (chunkAt state pos).loadPending := by
  unfold loadPending RemoteChunk.loadPending
  by_cases noted : pos ∈ state.1.queues.loaded.1
  · rw [if_pos noted, if_pos (by simp [chunkAt, noted])]
    rfl
  · rw [if_neg noted, if_neg (by simp [chunkAt, noted]), chunkAt_loadChunk_self]
    simp [chunkAt, PositionSet.emplace]

theorem chunkAt_loadPending_of_ne [Inhabited M] (state : RemoteLoader × VoxelSpace M)
    (visited : TilePos) (next : RemoteLoader × VoxelSpace M) (pos : TilePos)
    (loadEq : loadPending state visited = some next) (pos_ne : pos ≠ visited) :
    chunkAt next pos = chunkAt state pos := by
  unfold loadPending at loadEq
  split at loadEq
  · rw [Option.some.inj loadEq]
  · rw [chunkAt_loadChunk_of_ne loadEq pos_ne]
    simp [chunkAt, PositionSet.emplace, pos_ne]

@[simp]
theorem chunkAt_unloadLoaded_self (state : RemoteLoader × VoxelSpace M) (pos : TilePos) :
    chunkAt (unloadLoaded state pos) pos = (chunkAt state pos).unloadLoaded := by
  unfold unloadLoaded RemoteChunk.unloadLoaded
  by_cases noted : pos ∈ state.1.queues.loaded.1
  · rw [if_pos noted, if_pos (by simp [chunkAt, noted])]
    simp [chunkAt, PositionSet.erase, state.1.queues.loaded.2.not_mem_erase,
      VoxelSpace.entry_unloadChunk_self]
  · rw [if_neg noted, if_neg (by simp [chunkAt, noted])]

theorem chunkAt_unloadLoaded_of_ne (state : RemoteLoader × VoxelSpace M) (visited pos : TilePos)
    (pos_ne : pos ≠ visited) : chunkAt (unloadLoaded state visited) pos = chunkAt state pos := by
  unfold unloadLoaded
  split
  · simp [chunkAt, PositionSet.erase, List.mem_erase_of_ne pos_ne,
      VoxelSpace.entry_unloadChunk_of_ne _ pos_ne]
  · rfl

/-- The loop over the chunks that are to be loaded visits a chunk if it is pending. -/
theorem chunkAt_loading [Inhabited M] {loader : RemoteLoader} {space : VoxelSpace M}
    {loading : RemoteLoader × VoxelSpace M}
    (loadEq : loader.queues.pending.1.foldlM loadPending (loader, space) = some loading)
    (pos : TilePos) :
    (if (chunkAt (loader, space) pos).pending then (chunkAt (loader, space) pos).loadPending
      else some (chunkAt (loader, space) pos)) = some (chunkAt loading pos) := by
  by_cases mem : pos ∈ loader.queues.pending.1
  · rcases view_foldlM_of_mem chunkAt chunkAt_loadPending_of_ne loader.queues.pending.2 mem
      loadEq with ⟨middle, next, middleEq, nextEq, loadingEq⟩
    rw [if_pos (by simp [chunkAt, mem]), ← middleEq, ← chunkAt_loadPending_self, nextEq,
      Option.map_some, loadingEq]
  · rw [if_neg (by simp [chunkAt, mem]),
      view_foldlM_of_notMem chunkAt chunkAt_loadPending_of_ne mem loadEq]

/-- The update of a loader is the update of each of its chunks. -/
theorem chunkAt_update [Inhabited M] {loader : RemoteLoader} {space : VoxelSpace M}
    {updated : RemoteLoader × VoxelSpace M} (updateEq : loader.update space = some updated)
    (pos : TilePos) :
    (chunkAt (loader, space) pos).update = some (chunkAt updated pos) := by
  unfold update at updateEq
  rcases Option.map_eq_some_iff.mp updateEq with ⟨loading, loadEq, rfl⟩
  have unloading : chunkAt (loader.queues.unloaded.1.foldl unloadLoaded loading) pos =
      if (chunkAt (loader, space) pos).unloaded then (chunkAt loading pos).unloadLoaded
      else chunkAt loading pos := by
    by_cases mem : pos ∈ loader.queues.unloaded.1
    · rcases view_foldl_of_mem chunkAt chunkAt_unloadLoaded_of_ne loader.queues.unloaded.2 mem
        loading with ⟨middle, middleEq, unloadedEq⟩
      rw [unloadedEq, chunkAt_unloadLoaded_self, middleEq, if_pos (by simp [chunkAt, mem])]
    · rw [view_foldl_of_notMem chunkAt chunkAt_unloadLoaded_of_ne mem loading,
        if_neg (by simp [chunkAt, mem])]
  rw [RemoteChunk.update, chunkAt_loading loadEq, Option.map_some, ← unloading]
  rfl

/-- The update of a loader does not fail if that of each chunk does not. -/
theorem isSome_update [Inhabited M] {loader : RemoteLoader} {space : VoxelSpace M}
    (each : ∀ pos, (chunkAt (loader, space) pos).update.isSome = true) :
    (loader.update space).isSome = true := by
  rw [update, Option.isSome_map]
  apply isSome_foldlM chunkAt (fun _ chunk => chunk.loadPending.isSome = true)
    chunkAt_loadPending_of_ne
  · intro state pos passes
    rwa [← chunkAt_loadPending_self, Option.isSome_map] at passes
  · exact loader.queues.pending.2
  · intro pos mem
    have passes := each pos
    rwa [RemoteChunk.update, Option.isSome_map, if_pos (by simp [chunkAt, mem])] at passes

end RemoteLoader

end View

end VoxelEngine.Voxel
