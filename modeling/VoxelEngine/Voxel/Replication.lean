import VoxelEngine.Voxel.ReplicatedChunk

/-!
# Voxel replication

Once all messages of a host are delivered and its counterpart has been updated, both ought
to have the same chunks with the same tiles.  They do in all runs in which the host
unloads only chunks that are loaded once, messages arrive while the loader of the remote
can still act on them, and no locker gets in the way of an update.
-/

namespace VoxelEngine.Voxel

open VoxelEngine.Data VoxelEngine.Transition

variable {M : Type}

/-- What is shown of a chunk after a message. -/
def VoxelMessage.replay (pos : TilePos) (shown : Option ChunkData) :
    VoxelMessage → Option ChunkData
  | .chunkLoad loaded data => if loaded = pos then some (shown.getD data) else shown
  | .chunkUnload unloaded => if unloaded = pos then none else shown
  | .setVoxel worldpos td =>
      if toChunkpos worldpos = pos then
        shown.map fun data => Function.update data (toLocalpos worldpos) td
      else shown

namespace HostComponent

/-- The chunks of a host are listed, and none is locked. -/
structure Open (component : HostComponent M) : Prop where
  listed : ∀ pos, pos ∈ component.positions.1 ↔ component.space.isLoaded pos = true
  unlocked : ∀ pos found, component.space.entry pos = some found → found.1.locked = false

variable {component : HostComponent M}

theorem open_create : (create : HostComponent M).Open :=
  ⟨fun _ => by simp [create, PositionSet.empty, VoxelSpace.isLoaded, VoxelSpace.empty],
    fun _ _ found => by cases found⟩

theorem Open.loadChunk [Inhabited M] (inv : component.Open) (generate : ChunkGenerator M)
    (chunkpos : TilePos) : (component.loadChunk generate chunkpos).1.Open := by
  constructor
  · intro pos
    change pos ∈ component.positions.1.insert chunkpos ↔ _
    rw [List.mem_insert_iff, HostComponent.loadChunk, VoxelSpace.isLoaded_loadChunk,
      Bool.or_eq_true, decide_eq_true_iff, inv.listed]
  · intro pos found there
    by_cases pos_eq : pos = chunkpos
    · rw [pos_eq, HostComponent.loadChunk, VoxelSpace.entry_loadChunk_self,
        Option.some.injEq] at there
      cases own : component.space.entry chunkpos with
      | none =>
          rw [← there, own]
          rfl
      | some before =>
          rw [← there, own]
          exact inv.unlocked chunkpos before own
    · rw [HostComponent.loadChunk, VoxelSpace.entry_loadChunk_of_ne generate _ pos_eq] at there
      exact inv.unlocked pos found there

theorem Open.unloadChunk (inv : component.Open) (chunkpos : TilePos) :
    (component.unloadChunk chunkpos).1.Open := by
  constructor
  · intro pos
    have others : pos ≠ chunkpos →
        (component.space.unloadChunk chunkpos).isLoaded pos = component.space.isLoaded pos := by
      intro pos_ne
      rw [VoxelSpace.isLoaded_eq_isSome_entry, VoxelSpace.entry_unloadChunk_of_ne _ pos_ne,
        VoxelSpace.isLoaded_eq_isSome_entry]
    cases stays : (component.space.unloadChunk chunkpos).isLoaded chunkpos with
    | true =>
        simp only [HostComponent.unloadChunk, stays, if_true, inv.listed]
        by_cases pos_eq : pos = chunkpos
        · rw [pos_eq, stays, VoxelSpace.isLoaded_of_isLoaded_unloadChunk stays]
        · rw [others pos_eq]
    | false =>
        simp only [HostComponent.unloadChunk, stays, Bool.false_eq_true, if_false]
        by_cases pos_eq : pos = chunkpos
        · simp [pos_eq, stays, PositionSet.erase, component.positions.2.not_mem_erase]
        · rw [others pos_eq, PositionSet.erase, List.mem_erase_of_ne pos_eq, inv.listed]
  · intro pos found there
    by_cases pos_eq : pos = chunkpos
    · rw [pos_eq, HostComponent.unloadChunk, VoxelSpace.entry_unloadChunk_self] at there
      cases own : component.space.entry chunkpos with
      | none =>
          rw [own] at there
          cases there
      | some before =>
          rw [own, VoxelSpace.unloadedEntry] at there
          split at there
          · cases there
          · rw [← Option.some.inj there]
            exact inv.unlocked chunkpos before own
    · rw [HostComponent.unloadChunk, VoxelSpace.entry_unloadChunk_of_ne _ pos_eq] at there
      exact inv.unlocked pos found there

theorem Open.setData (inv : component.Open) (unknown : TileData) (worldpos : TilePos)
    (td : TileData) : (component.setData unknown worldpos td).1.Open := by
  constructor
  · intro pos
    rw [HostComponent.setData, VoxelSpace.isLoaded_setData]
    exact inv.listed pos
  · intro pos found there
    rw [HostComponent.setData, VoxelSpace.entry_setData] at there
    split at there
    · rcases Option.map_eq_some_iff.mp there with ⟨before, own, rfl⟩
      rw [Chunk.setData_locked]
      exact inv.unlocked pos before own
    · exact inv.unlocked pos found there

/-- A visible host says what it has loaded. -/
theorem replay_loadChunk [Inhabited M] (visible : component.visible = true)
    (generate : ChunkGenerator M) (chunkpos pos : TilePos) :
    (component.loadChunk generate chunkpos).2.foldl (VoxelMessage.replay pos)
      (component.space.stored pos) =
        (component.loadChunk generate chunkpos).1.space.stored pos := by
  simp only [loadChunk, broadcastMessage, visible, if_true, loadMessage,
    VoxelSpace.stored_eq_map_entry, VoxelSpace.entry_loadChunk_self, Option.map_some,
    Option.toList_some, List.foldl_cons, List.foldl_nil, VoxelMessage.replay]
  by_cases pos_eq : chunkpos = pos
  · rw [if_pos pos_eq, ← pos_eq, VoxelSpace.entry_loadChunk_self, Option.map_some]
    cases component.space.entry chunkpos <;> rfl
  · rw [if_neg pos_eq, VoxelSpace.entry_loadChunk_of_ne generate _ (Ne.symm pos_eq)]

/-- A visible host says what it has unloaded, and is right about it if the chunk was loaded
once. -/
theorem replay_unloadChunk (visible : component.visible = true) {chunkpos : TilePos}
    (once : ∀ found, component.space.entry chunkpos = some found → found.2 ≤ 1)
    (pos : TilePos) :
    (component.unloadChunk chunkpos).2.foldl (VoxelMessage.replay pos)
      (component.space.stored pos) =
        (component.unloadChunk chunkpos).1.space.stored pos := by
  simp only [unloadChunk, broadcastMessage, visible, if_true,
    VoxelSpace.isLoaded_eq_isSome_entry, VoxelSpace.stored_eq_map_entry]
  by_cases pos_eq : chunkpos = pos
  · rw [← pos_eq, VoxelSpace.entry_unloadChunk_self]
    cases own : component.space.entry chunkpos with
    | none => rfl
    | some found =>
        have last : found.2 - 1 = 0 := by
          have bound := once found own
          omega
        rw [VoxelSpace.unloadedEntry, if_pos last]
        simp [VoxelMessage.replay]
  · rw [VoxelSpace.entry_unloadChunk_of_ne _ (Ne.symm pos_eq)]
    split
    · simp [VoxelMessage.replay, pos_eq]
    · rfl

/-- A visible host says what it has written. -/
theorem replay_setData (visible : component.visible = true) (inv : component.Open)
    (unknown : TileData) (worldpos : TilePos) (td : TileData) (pos : TilePos) :
    (component.setData unknown worldpos td).2.foldl (VoxelMessage.replay pos)
      (component.space.stored pos) =
        (component.setData unknown worldpos td).1.space.stored pos := by
  simp only [setData, broadcastMessage, visible, if_true, VoxelSpace.isLoaded_eq_isSome_entry,
    VoxelSpace.stored_eq_map_entry, VoxelSpace.entry_setData]
  by_cases pos_eq : pos = toChunkpos worldpos
  · rw [if_pos pos_eq, ← pos_eq]
    cases own : component.space.entry pos with
    | none => rfl
    | some found =>
        simp only [Option.isSome_some, if_true, List.foldl_cons, List.foldl_nil,
          VoxelMessage.replay, ← pos_eq, Option.map_some,
          Chunk.setData_of_unlocked (inv.unlocked pos found own)]
  · rw [if_neg pos_eq]
    split
    · simp [VoxelMessage.replay, Ne.symm pos_eq]
    · rfl

/-- What is said about a chunk that is shown already changes nothing. -/
@[simp]
theorem replay_loadMessages_stored (space : VoxelSpace M) (order : List TilePos)
    (pos : TilePos) :
    (order.filterMap (loadMessage space)).foldl (VoxelMessage.replay pos) (space.stored pos) =
      space.stored pos := by
  induction order with
  | nil => rfl
  | cons first rest ih =>
      cases own : space.stored first with
      | none => rw [List.filterMap_cons_none (by rw [loadMessage, own]; rfl), ih]
      | some data =>
          rw [List.filterMap_cons_some (by rw [loadMessage, own]; rfl), List.foldl_cons,
            VoxelMessage.replay]
          by_cases first_eq : first = pos
          · rw [if_pos first_eq, ← first_eq, own, Option.getD_some, ← own, first_eq, ih]
          · rw [if_neg first_eq, ih]

/-- A remote to which a host is added is told about all chunks that are visited. -/
theorem replay_loadMessages (space : VoxelSpace M) (order : List TilePos) (pos : TilePos) :
    (order.filterMap (loadMessage space)).foldl (VoxelMessage.replay pos) none =
      if pos ∈ order then space.stored pos else none := by
  induction order with
  | nil => rfl
  | cons first rest ih =>
      by_cases first_eq : first = pos
      · rw [if_pos (by simp [first_eq])]
        cases own : space.stored first with
        | none =>
            rw [List.filterMap_cons_none (by rw [loadMessage, own]; rfl), ih, ← first_eq, own]
            exact ite_self none
        | some data =>
            rw [List.filterMap_cons_some (by rw [loadMessage, own]; rfl), List.foldl_cons,
              VoxelMessage.replay, if_pos first_eq, Option.getD_none, ← own, first_eq,
              replay_loadMessages_stored]
      · have same : pos ∈ first :: rest ↔ pos ∈ rest := by simp [Ne.symm first_eq]
        simp only [same]
        rw [← ih]
        cases own : space.stored first with
        | none => rw [List.filterMap_cons_none (by rw [loadMessage, own]; rfl)]
        | some data =>
            rw [List.filterMap_cons_some (by rw [loadMessage, own]; rfl), List.foldl_cons,
              VoxelMessage.replay, if_neg first_eq]

end HostComponent

namespace RemoteComponent

/-- What a remote keeps of the chunk at a position. -/
def chunkAt (component : RemoteComponent M) (pos : TilePos) : RemoteChunk :=
  RemoteLoader.chunkAt (component.loader, component.space) pos

/-- How many lockers cover a chunk. -/
def covers (component : RemoteComponent M) (pos : TilePos) : Nat :=
  covering component.lockers pos

theorem chunkAt_loadMessage (unknown : TileData) (component : RemoteComponent M)
    (chunkpos : TilePos) (data : ChunkData) (pos : TilePos) :
    (component.onMessageReceived unknown (.chunkLoad chunkpos data)).chunkAt pos =
      if chunkpos = pos then (component.chunkAt pos).loadFromRemote data
      else component.chunkAt pos :=
  RemoteLoader.chunkAt_loadFromRemote component.loader component.space chunkpos data pos

theorem chunkAt_unloadMessage (unknown : TileData) (component : RemoteComponent M)
    (chunkpos pos : TilePos) :
    (component.onMessageReceived unknown (.chunkUnload chunkpos)).chunkAt pos =
      if chunkpos = pos then (component.chunkAt pos).unloadFromRemote
      else component.chunkAt pos :=
  RemoteLoader.chunkAt_unloadFromRemote component.loader component.space chunkpos pos

theorem chunkAt_voxelMessage (unknown : TileData) (component : RemoteComponent M)
    (worldpos : TilePos) (td : TileData) (pos : TilePos) :
    (component.onMessageReceived unknown (.setVoxel worldpos td)).chunkAt pos =
      if toChunkpos worldpos = pos then (component.chunkAt pos).write (toLocalpos worldpos) td
      else component.chunkAt pos := by
  simp only [onMessageReceived, chunkAt, RemoteLoader.chunkAt, VoxelSpace.entry_setData,
    RemoteChunk.write]
  by_cases pos_eq : toChunkpos worldpos = pos
  · rw [if_pos pos_eq, if_pos pos_eq.symm]
    rfl
  · rw [if_neg pos_eq, if_neg (Ne.symm pos_eq)]
    rfl

@[simp]
theorem covers_onMessageReceived (unknown : TileData) (component : RemoteComponent M)
    (message : VoxelMessage) (pos : TilePos) :
    (component.onMessageReceived unknown message).covers pos = component.covers pos := by
  cases message <;> rfl

/-- Some message can be delivered: a chunk is not loaded again while its unload is waiting,
and not written before it is loaded. -/
def receivable (component : RemoteComponent M) : VoxelMessage → Bool
  | .chunkLoad pos _ => decide (pos ∉ component.loader.queues.unloaded.1)
  | .chunkUnload _ => true
  | .setVoxel worldpos _ =>
      decide (toChunkpos worldpos ∉ component.loader.queues.pending.1) ||
        decide (toChunkpos worldpos ∈ component.loader.queues.loaded.1)

/-- A message that can be delivered is replayed. -/
theorem tracks_onMessageReceived {component : RemoteComponent M} {message : VoxelMessage}
    {pos : TilePos} {shown : Option ChunkData}
    (tracks : (component.chunkAt pos).Tracks (component.covers pos) shown)
    (inTime : component.receivable message = true) (unknown : TileData) :
    ((component.onMessageReceived unknown message).chunkAt pos).Tracks
      ((component.onMessageReceived unknown message).covers pos) (message.replay pos shown) := by
  rw [covers_onMessageReceived]
  cases message with
  | chunkLoad chunkpos data =>
      rw [chunkAt_loadMessage, VoxelMessage.replay]
      split
      · rename_i pos_eq
        apply tracks.loadFromRemote
        rw [← pos_eq]
        exact decide_eq_false (of_decide_eq_true inTime)
      · exact tracks
  | chunkUnload chunkpos =>
      rw [chunkAt_unloadMessage, VoxelMessage.replay]
      split
      · exact tracks.unloadFromRemote
      · exact tracks
  | setVoxel worldpos td =>
      rw [chunkAt_voxelMessage, VoxelMessage.replay]
      split
      · rename_i pos_eq
        apply tracks.write
        intro pending
        rw [receivable, pos_eq, Bool.or_eq_true] at inTime
        rcases inTime with notPending | loaded
        · exact absurd (of_decide_eq_true pending) (of_decide_eq_true notPending)
        · exact loaded
      · exact tracks

/-- A new locker only locks the chunks it covers. -/
theorem chunkAt_createLocker [Inhabited M] {unknown : TileData}
    {component next : RemoteComponent M} {positions : PositionSet}
    (createEq : component.createLocker unknown positions = some next) (pos : TilePos) :
    (pos ∈ positions.1 ∧ ∃ found, component.space.entry pos = some found ∧
      next.chunkAt pos =
        { component.chunkAt pos with
          entry := some (found.1.toggleWriteLock true, found.2 + 1) } ∧
      next.covers pos = component.covers pos + 1) ∨
    (next.chunkAt pos = component.chunkAt pos ∧ next.covers pos = component.covers pos) := by
  unfold createLocker at createEq
  split at createEq
  · rename_i there
    rw [← Option.some.inj createEq]
    by_cases mem : pos ∈ positions.1
    · left
      have loaded := List.all_eq_true.mp there pos mem
      rw [VoxelSpace.isLoaded_eq_isSome_entry] at loaded
      rcases Option.isSome_iff_exists.mp loaded with ⟨found, own⟩
      rcases VoxelSpace.entry_lockChunks (fun _ _ _ => unknown) component.space positions.2 mem
        with ⟨generated, entryEq⟩
      rw [own] at entryEq
      refine ⟨mem, found, own, ?_, ?_⟩
      · simp only [chunkAt, RemoteLoader.chunkAt, entryEq, VoxelSpace.loadedEntry]
      · rw [covers, covering_append_singleton, if_pos mem, covers]
    · right
      constructor
      · simp only [chunkAt, RemoteLoader.chunkAt,
          VoxelSpace.entry_lockChunks_of_notMem _ component.space mem]
      · rw [covers, covering_append_singleton, if_neg mem, Nat.add_zero, covers]
  · cases createEq

/-- The end of a locker releases the chunks it covered. -/
theorem chunkAt_destroyLocker {component next : RemoteComponent M} {index : Nat}
    (destroyEq : component.destroyLocker index = some next) (pos : TilePos) :
    (next.chunkAt pos =
        { component.chunkAt pos with
          entry := VoxelSpace.unloadedEntry ((component.chunkAt pos).entry.map fun found =>
            (found.1.toggleWriteLock false, found.2)) } ∧
      component.covers pos = next.covers pos + 1) ∨
    (next.chunkAt pos = component.chunkAt pos ∧ next.covers pos = component.covers pos) := by
  simp only [destroyLocker, Option.bind_eq_some_iff, Option.map_eq_some_iff] at destroyEq
  rcases destroyEq with ⟨positions, found, released, releaseEq, rfl⟩
  have coversEq := covering_eraseIdx found pos
  by_cases mem : pos ∈ positions.1
  · left
    rw [if_pos mem] at coversEq
    constructor
    · simp only [chunkAt, RemoteLoader.chunkAt,
        VoxelSpace.entry_releaseChunks positions.2 releaseEq mem]
    · exact coversEq
  · right
    rw [if_neg mem, Nat.add_zero] at coversEq
    constructor
    · simp only [chunkAt, RemoteLoader.chunkAt,
        VoxelSpace.entry_releaseChunks_of_notMem releaseEq mem]
    · exact coversEq.symm

/-- A chunk that lockers do not keep from being as the loader wants it. -/
def unhindered (component : RemoteComponent M) (pos : TilePos) : Bool :=
  decide (pos ∈ component.loader.queues.loaded.1) &&
    decide (pos ∉ component.loader.queues.unloaded.1) &&
      (component.space.entry pos).all fun found => !found.1.hasPendingChanges

/-- The chunks that are to be loaded are not there yet, not even for the sake of a locker. -/
def loadable (component : RemoteComponent M) : Bool :=
  component.loader.queues.pending.1.all fun pos =>
    decide (pos ∈ component.loader.queues.loaded.1) || !component.space.isLoaded pos

end RemoteComponent

namespace ReplicatedSpace

/-- The steps that come in time.  The host only unloads chunks that are loaded once,
messages arrive when the remote can still act on them, and chunks that are to be loaded
are not there yet.  When nothing is in flight, lockers do not hinder an update. -/
def timely (state : ReplicatedSpace M) : ReplicationAction → Bool
  | .unloadChunk chunkpos =>
      (state.host.space.entry chunkpos).all fun found => decide (found.2 ≤ 1)
  | .deliver => state.inFlight.head?.all state.remote.receivable
  | .update =>
      state.remote.loadable &&
        (!state.inFlight.isEmpty ||
          state.remote.lockers.all fun positions => positions.1.all state.remote.unhindered)
  | .loadChunk _ => true
  | .setData .. => true
  | .addToRemote _ => true
  | .createLocker _ => true
  | .destroyLocker _ => true

/-- All messages have been delivered, and the remote was updated after that. -/
def settled (state : ReplicatedSpace M) : Bool :=
  state.host.visible && state.inFlight.isEmpty && state.updated

/-- Both sides have the same chunks with the same tiles. -/
structure Replicated (unknown : TileData) (state : ReplicatedSpace M) : Prop where
  chunks : ∀ pos, state.remote.space.isLoaded pos = state.host.space.isLoaded pos
  tiles : ∀ worldpos, state.host.space.isLoaded (toChunkpos worldpos) = true →
    state.remote.space.getData unknown worldpos = state.host.space.getData unknown worldpos

/-- The invariant of runs whose steps come in time: what the remote is going to show, with
all messages in flight replayed, is what the host has. -/
structure Inv (state : ReplicatedSpace M) : Prop where
  opened : state.host.Open
  hidden : state.host.visible = false →
    state.inFlight = [] ∧ state.remote = RemoteComponent.create ∧ state.updated = false
  tracked : state.host.visible = true → ∀ pos, ∃ shown,
    (state.remote.chunkAt pos).Tracks (state.remote.covers pos) shown ∧
      state.inFlight.foldl (VoxelMessage.replay pos) shown = state.host.space.stored pos
  quiet : state.updated = true → state.inFlight = [] → ∀ pos, (state.remote.chunkAt pos).Quiet

variable {state next : ReplicatedSpace M}

theorem inv_start : (start : ReplicatedSpace M).Inv :=
  ⟨HostComponent.open_create, fun _ => ⟨rfl, rfl, rfl⟩, nofun, nofun⟩

/-- What a host does and says keeps the invariant if it says what it did. -/
theorem Inv.hostStep (inv : state.Inv) {result : HostComponent M × List VoxelMessage}
    (opened : result.1.Open) (visible : result.1.visible = state.host.visible)
    (silent : state.host.visible = false → result.2 = [])
    (said : state.host.visible = true → ∀ pos,
      result.2.foldl (VoxelMessage.replay pos) (state.host.space.stored pos) =
        result.1.space.stored pos) : (state.hostStep result).Inv := by
  constructor
  · exact opened
  · intro hidden
    rw [ReplicatedSpace.hostStep, visible] at hidden
    rcases inv.hidden hidden with ⟨nothing, created, notUpdated⟩
    refine ⟨?_, created, notUpdated⟩
    rw [ReplicatedSpace.hostStep, nothing, silent hidden]
    rfl
  · intro seen pos
    rw [ReplicatedSpace.hostStep, visible] at seen
    rcases inv.tracked seen pos with ⟨shown, tracks, replayed⟩
    refine ⟨shown, tracks, ?_⟩
    rw [ReplicatedSpace.hostStep, List.foldl_append, replayed]
    exact said seen pos
  · intro updated nothing
    exact inv.quiet updated (List.append_eq_nil_iff.mp nothing).1

/-- When the host is added to the remote, the remote is told about all its chunks. -/
theorem Inv.addToRemote (inv : state.Inv) (hidden : state.host.visible = false)
    {order : List TilePos} (listed : order.Perm state.host.positions.1) :
    (state.hostStep (state.host.onAddedToRemote order)).Inv := by
  rcases inv.hidden hidden with ⟨nothing, created, notUpdated⟩
  constructor
  · exact ⟨inv.opened.listed, inv.opened.unlocked⟩
  · exact nofun
  · intro _ pos
    refine ⟨none, ?_, ?_⟩
    · simp only [ReplicatedSpace.hostStep, created]
      exact ⟨RemoteChunk.Shows.absent none, Tended.absent⟩
    · rw [ReplicatedSpace.hostStep, nothing, List.nil_append, HostComponent.onAddedToRemote,
        HostComponent.replay_loadMessages]
      split
      · rfl
      · rename_i absent
        rw [listed.mem_iff, inv.opened.listed, VoxelSpace.isLoaded,
          Option.isSome_iff_ne_none, not_not] at absent
        rw [VoxelSpace.stored, absent, Option.map_none]
  · intro updated
    rw [ReplicatedSpace.hostStep, notUpdated] at updated
    cases updated

/-- A message that can be delivered is replayed, and the remote is to be updated again. -/
theorem Inv.deliver (inv : state.Inv) {message : VoxelMessage} {rest : List VoxelMessage}
    (first : state.inFlight = message :: rest)
    (inTime : state.remote.receivable message = true) (unknown : TileData) :
    ({ state with
        inFlight := rest
        remote := state.remote.onMessageReceived unknown message
        updated := false } : ReplicatedSpace M).Inv := by
  constructor
  · exact inv.opened
  · intro hidden
    rw [(inv.hidden hidden).1] at first
    cases first
  · intro seen pos
    rcases inv.tracked seen pos with ⟨shown, tracks, replayed⟩
    rw [first] at replayed
    exact ⟨message.replay pos shown,
      RemoteComponent.tracks_onMessageReceived tracks inTime unknown, replayed⟩
  · exact nofun

/-- What a timely update finds at the chunks that are to be loaded. -/
theorem absent_of_loadable {component : RemoteComponent M}
    (loadable : component.loadable = true) (pos : TilePos)
    (pending : (component.chunkAt pos).pending = true)
    (notLoaded : (component.chunkAt pos).loaded = false) :
    (component.chunkAt pos).entry = none := by
  have found := List.all_eq_true.mp loadable pos (of_decide_eq_true pending)
  rw [Bool.or_eq_true] at found
  rcases found with loaded | absent
  · exact absurd (of_decide_eq_true loaded) (of_decide_eq_false notLoaded)
  · rwa [Bool.not_eq_true', VoxelSpace.isLoaded_eq_isSome_entry, Option.isSome_eq_false_iff,
      Option.isNone_iff_eq_none] at absent

/-- What a timely update finds at the chunks of lockers, if nothing is in flight. -/
theorem unhindered_of_covered {component : RemoteComponent M}
    (unhindered : (component.lockers.all fun positions =>
      positions.1.all component.unhindered) = true) {pos : TilePos}
    (covered : 0 < component.covers pos) :
    (component.chunkAt pos).loaded = true ∧ (component.chunkAt pos).unloaded = false ∧
      ∀ found, (component.chunkAt pos).entry = some found → found.1.pendingChanges = [] := by
  rcases (covering_pos_iff _ _).mp covered with ⟨positions, mem, posMem⟩
  have free := List.all_eq_true.mp (List.all_eq_true.mp unhindered positions mem) pos posMem
  simp only [RemoteComponent.unhindered, Bool.and_eq_true] at free
  rcases free with ⟨⟨loaded, notUnloaded⟩, written⟩
  refine ⟨loaded, decide_eq_false (of_decide_eq_true notUnloaded), ?_⟩
  intro found there
  change component.space.entry pos = some found at there
  rw [there, Option.all_some, Bool.not_eq_true'] at written
  exact (Chunk.hasPendingChanges_eq_false_iff found.1).mp written

/-- An update that comes in time does not fail and leaves what is shown as it is. -/
theorem Inv.update [Inhabited M] (inv : state.Inv) (seen : state.host.visible = true)
    (inTime : state.timely .update = true) :
    (∃ remote, state.remote.update = some remote) ∧
      ∀ remote, state.remote.update = some remote →
        ({ state with remote := remote, updated := true } : ReplicatedSpace M).Inv := by
  rw [timely, Bool.and_eq_true, Bool.or_eq_true, Bool.not_eq_true', List.isEmpty_eq_false_iff]
    at inTime
  have chunks : ∀ pos, ∃ shown,
      (state.inFlight.foldl (VoxelMessage.replay pos) shown = state.host.space.stored pos) ∧
      ∃ chunk, (state.remote.chunkAt pos).update = some chunk ∧
        chunk.Tracks (state.remote.covers pos) shown ∧ chunk.pending = false ∧
        chunk.unloaded = false ∧
        chunk.loaded = (((state.remote.chunkAt pos).pending ||
          (state.remote.chunkAt pos).loaded) && !(state.remote.chunkAt pos).unloaded) ∧
        ((state.remote.chunkAt pos).loaded = true → (state.remote.chunkAt pos).unloaded = false →
          chunk.entry = (state.remote.chunkAt pos).entry) := by
    intro pos
    rcases inv.tracked seen pos with ⟨shown, tracks, replayed⟩
    exact ⟨shown, replayed, tracks.update (absent_of_loadable inTime.1 pos)⟩
  constructor
  · have passes : (state.remote.loader.update state.remote.space).isSome = true := by
      apply RemoteLoader.isSome_update
      intro pos
      rcases chunks pos with ⟨_, _, chunk, chunkEq, _⟩
      change (state.remote.chunkAt pos).update.isSome = true
      rw [chunkEq, Option.isSome_some]
    rcases Option.isSome_iff_exists.mp passes with ⟨updated, updatedEq⟩
    exact ⟨_, by rw [RemoteComponent.update, updatedEq, Option.map_some]⟩
  · intro remote updateEq
    rcases Option.map_eq_some_iff.mp updateEq with ⟨updated, updatedEq, rfl⟩
    have after : ∀ pos, (state.remote.chunkAt pos).update =
        some (RemoteLoader.chunkAt updated pos) :=
      RemoteLoader.chunkAt_update updatedEq
    constructor
    · exact inv.opened
    · intro hidden
      exact absurd (seen.symm.trans hidden) (by simp)
    · intro _ pos
      rcases chunks pos with ⟨shown, replayed, chunk, chunkEq, tracks, _⟩
      rw [after pos, Option.some.injEq] at chunkEq
      rw [← chunkEq] at tracks
      exact ⟨shown, tracks, replayed⟩
    · intro _ nothing pos
      have unhindered := inTime.2.resolve_left (fun flying => flying nothing)
      rcases chunks pos with ⟨shown, _, chunk, chunkEq, tracks, noLoad, noUnload, loaded, entryEq⟩
      rw [after pos, Option.some.injEq] at chunkEq
      change (RemoteLoader.chunkAt updated pos).Quiet
      rw [chunkEq]
      apply tracks.quiet noLoad noUnload
      intro covered
      rcases unhindered_of_covered unhindered covered with ⟨held, kept, written⟩
      rw [loaded, entryEq held kept, held, kept]
      exact ⟨by simp, written⟩

/-- Lockers come and go without changing what is shown. -/
theorem Inv.createLocker [Inhabited M] (inv : state.Inv) (seen : state.host.visible = true)
    {unknown : TileData} {positions : PositionSet} {remote : RemoteComponent M}
    (createEq : state.remote.createLocker unknown positions = some remote) :
    ({ state with remote := remote } : ReplicatedSpace M).Inv := by
  constructor
  · exact inv.opened
  · intro hidden
    exact absurd (seen.symm.trans hidden) (by simp)
  · intro _ pos
    rcases inv.tracked seen pos with ⟨shown, tracks, replayed⟩
    refine ⟨shown, ?_, replayed⟩
    change (remote.chunkAt pos).Tracks (remote.covers pos) shown
    rcases RemoteComponent.chunkAt_createLocker createEq pos with
      ⟨_, found, there, chunkEq, coversEq⟩ | ⟨chunkEq, coversEq⟩
    · rw [chunkEq, coversEq]
      exact tracks.lock there
    · rw [chunkEq, coversEq]
      exact tracks
  · intro updated nothing pos
    have quiet := inv.quiet updated nothing pos
    change (remote.chunkAt pos).Quiet
    rcases RemoteComponent.chunkAt_createLocker createEq pos with
      ⟨_, found, there, chunkEq, _⟩ | ⟨chunkEq, _⟩
    · rw [chunkEq]
      constructor
      · exact quiet.noLoad
      · exact quiet.noUnload
      · intro idle
        exact absurd ((quiet.held idle).symm.trans there) (by simp)
      · intro other otherEq
        rw [← Option.some.inj otherEq]
        exact quiet.written found there
    · rw [chunkEq]
      exact quiet

theorem Inv.destroyLocker (inv : state.Inv) {index : Nat} {remote : RemoteComponent M}
    (destroyEq : state.remote.destroyLocker index = some remote) :
    ({ state with remote := remote } : ReplicatedSpace M).Inv := by
  constructor
  · exact inv.opened
  · intro hidden
    rw [(inv.hidden hidden).2.1] at destroyEq
    cases destroyEq
  · intro seen pos
    rcases inv.tracked seen pos with ⟨shown, tracks, replayed⟩
    refine ⟨shown, ?_, replayed⟩
    change (remote.chunkAt pos).Tracks (remote.covers pos) shown
    rcases RemoteComponent.chunkAt_destroyLocker destroyEq pos with
      ⟨chunkEq, coversEq⟩ | ⟨chunkEq, coversEq⟩
    · rw [coversEq] at tracks
      rw [chunkEq]
      exact tracks.release
    · rw [chunkEq, coversEq]
      exact tracks
  · intro updated nothing pos
    have quiet := inv.quiet updated nothing pos
    change (remote.chunkAt pos).Quiet
    rcases RemoteComponent.chunkAt_destroyLocker destroyEq pos with ⟨chunkEq, _⟩ | ⟨chunkEq, _⟩
    · rw [chunkEq]
      constructor
      · exact quiet.noLoad
      · exact quiet.noUnload
      · intro idle
        change VoxelSpace.unloadedEntry ((state.remote.chunkAt pos).entry.map _) = none
        rw [quiet.held idle]
        rfl
      · intro other otherEq
        cases there : (state.remote.chunkAt pos).entry with
        | none =>
            simp only [there, Option.map_none] at otherEq
            cases otherEq
        | some found =>
            simp only [there, Option.map_some, VoxelSpace.unloadedEntry,
              Chunk.toggleWriteLock_false] at otherEq
            split at otherEq
            · cases otherEq
            · rw [← Option.some.inj otherEq]
    · rw [chunkEq]
      exact quiet

theorem Inv.step [Inhabited M] {generate : ChunkGenerator M} {unknown : TileData}
    {action : ReplicationAction} (inv : state.Inv) (inTime : state.timely action = true)
    (stepEq : ReplicatedSpace.step generate unknown state action = some next) : next.Inv := by
  have silent : ∀ messages : List VoxelMessage, state.host.visible = false →
      state.host.broadcastMessage messages = [] := by
    intro messages hidden
    simp [HostComponent.broadcastMessage, hidden]
  cases action with
  | loadChunk chunkpos =>
      rw [← Option.some.inj stepEq]
      apply inv.hostStep (inv.opened.loadChunk generate chunkpos) rfl (silent _)
      exact fun seen => HostComponent.replay_loadChunk seen generate chunkpos
  | unloadChunk chunkpos =>
      rw [← Option.some.inj stepEq]
      apply inv.hostStep (inv.opened.unloadChunk chunkpos) rfl
      · intro hidden
        simp [HostComponent.unloadChunk, silent _ hidden]
      · intro seen
        apply HostComponent.replay_unloadChunk seen
        intro found own
        rw [timely, own] at inTime
        exact of_decide_eq_true inTime
  | setData worldpos td =>
      rw [← Option.some.inj stepEq]
      apply inv.hostStep (inv.opened.setData unknown worldpos td) rfl
      · intro hidden
        simp [HostComponent.setData, silent _ hidden]
      · exact fun seen => HostComponent.replay_setData seen inv.opened unknown worldpos td
  | addToRemote order =>
      simp only [ReplicatedSpace.step] at stepEq
      split at stepEq
      · rename_i may
        rw [← Option.some.inj stepEq]
        exact inv.addToRemote may.1 may.2
      · cases stepEq
  | deliver =>
      simp only [ReplicatedSpace.step] at stepEq
      split at stepEq
      · rename_i message rest first
        rw [← Option.some.inj stepEq]
        rw [timely, first] at inTime
        exact inv.deliver first inTime unknown
      · cases stepEq
  | update =>
      simp only [ReplicatedSpace.step] at stepEq
      split at stepEq
      · rename_i seen
        rcases Option.map_eq_some_iff.mp stepEq with ⟨remote, updateEq, rfl⟩
        exact (inv.update seen inTime).2 remote updateEq
      · cases stepEq
  | createLocker positions =>
      simp only [ReplicatedSpace.step] at stepEq
      split at stepEq
      · rename_i seen
        rcases Option.map_eq_some_iff.mp stepEq with ⟨remote, createEq, rfl⟩
        exact inv.createLocker seen createEq
      · cases stepEq
  | destroyLocker index =>
      rcases Option.map_eq_some_iff.mp stepEq with ⟨remote, destroyEq, rfl⟩
      exact inv.destroyLocker destroyEq

/-- In a settled state the remote shows what the host has. -/
theorem Inv.stored_eq (inv : state.Inv) (settled : state.settled = true) (pos : TilePos) :
    state.remote.space.stored pos = state.host.space.stored pos := by
  simp only [ReplicatedSpace.settled, Bool.and_eq_true, List.isEmpty_iff] at settled
  rcases settled with ⟨⟨seen, nothing⟩, updated⟩
  rcases inv.tracked seen pos with ⟨shown, tracks, replayed⟩
  rw [nothing] at replayed
  rw [VoxelSpace.stored_eq_map_entry, ← replayed]
  exact (tracks.shows.eq_of_quiet (inv.quiet updated nothing pos)).symm

theorem replicated_of_stored_eq (unknown : TileData)
    (same : ∀ pos, state.remote.space.stored pos = state.host.space.stored pos) :
    state.Replicated unknown := by
  have chunks : ∀ pos, state.remote.space.isLoaded pos = state.host.space.isLoaded pos := by
    intro pos
    have sameSome := congrArg Option.isSome (same pos)
    rwa [VoxelSpace.stored, VoxelSpace.stored, Option.isSome_map, Option.isSome_map] at sameSome
  refine ⟨chunks, ?_⟩
  intro worldpos _
  have samePos := same (toChunkpos worldpos)
  rw [VoxelSpace.stored, VoxelSpace.stored] at samePos
  unfold VoxelSpace.getData
  cases remote : state.remote.space.chunks (toChunkpos worldpos) with
  | none =>
      rw [remote, Option.map_none] at samePos
      rw [Option.map_eq_none_iff.mp samePos.symm]
  | some chunkData =>
      rw [remote, Option.map_some] at samePos
      rcases Option.map_eq_some_iff.mp samePos.symm with ⟨hostData, hostEq, tilesEq⟩
      rw [hostEq]
      exact congrFun tilesEq.symm (toLocalpos worldpos)

/-- In runs whose steps come in time, a remote that has got all messages and was updated
has the chunks and tiles of the host, and its updates never fail. -/
theorem replicated_of_timely [Inhabited M] (generate : ChunkGenerator M) (unknown : TileData)
    (actions : List ReplicationAction) (final : ReplicatedSpace M)
    (inTime : Guarded (ReplicatedSpace.step generate unknown)
      (fun state action => state.timely action = true) start actions)
    (runEq : run (ReplicatedSpace.step generate unknown) start actions = some final) :
    (final.settled = true → final.Replicated unknown) ∧
      (final.host.visible = true → final.timely .update = true →
        ∃ next, ReplicatedSpace.step generate unknown final .update = some next) := by
  have inv : final.Inv :=
    run_invariant (fun _ _ _ inv here stepEq => inv.step here stepEq) inv_start inTime runEq
  constructor
  · intro settled
    exact replicated_of_stored_eq unknown (inv.stored_eq settled)
  · intro seen here
    rcases (inv.update seen here).1 with ⟨remote, updateEq⟩
    exact ⟨_, by rw [ReplicatedSpace.step, if_pos seen, updateEq, Option.map_some]⟩

/-- All chunks are generated with the same tiles. -/
def generateUniform : ChunkGenerator Unit :=
  fun _ _ _ => ⟨0, 0⟩

/-- A chunk is loaded, a tile of it is set while its first mesh is made, and it is unloaded
after another one was loaded. -/
def movingActions : List ReplicationAction :=
  [.loadChunk ⟨0, 0, 0⟩, .addToRemote [⟨0, 0, 0⟩], .deliver, .update,
    .createLocker (PositionSet.empty.emplace ⟨0, 0, 0⟩), .setData ⟨1, 0, 0⟩ ⟨0, 1⟩, .deliver,
    .destroyLocker 0, .loadChunk ⟨1, 0, 0⟩, .setData ⟨32, 0, 0⟩ ⟨0, 1⟩, .unloadChunk ⟨0, 0, 0⟩,
    .deliver, .update, .deliver, .deliver, .update]

/-- The moving host is replicated. -/
theorem replicated_movingActions :
    ∃ final, run (step generateUniform ⟨0, 0⟩) start movingActions = some final ∧
      final.settled = true ∧ final.Replicated ⟨0, 0⟩ ∧
      final.host.space.isLoaded ⟨1, 0, 0⟩ = true ∧
      final.remote.space.getData ⟨0, 0⟩ ⟨32, 0, 0⟩ = ⟨0, 1⟩ := by
  have reached : (run (step generateUniform ⟨0, 0⟩) start movingActions).map (fun final =>
      (final.settled, final.host.space.isLoaded ⟨1, 0, 0⟩,
        final.remote.space.getData ⟨0, 0⟩ ⟨32, 0, 0⟩)) = some (true, true, ⟨0, 1⟩) := by
    decide +kernel
  rcases Option.map_eq_some_iff.mp reached with ⟨final, runEq, found⟩
  simp only [Prod.mk.injEq] at found
  exact ⟨final, runEq, found.1,
    (replicated_of_timely generateUniform ⟨0, 0⟩ movingActions final (by decide +kernel)
      runEq).1 found.1, found.2.1, found.2.2⟩

/-- A chunk is loaded twice and unloaded once. -/
def sharedActions : List ReplicationAction :=
  [.addToRemote [], .loadChunk ⟨0, 0, 0⟩, .loadChunk ⟨0, 0, 0⟩, .deliver, .deliver, .update,
    .unloadChunk ⟨0, 0, 0⟩, .deliver, .update]

/-- The host still has the shared chunk, but the remote has unloaded it. -/
theorem chunk_missing :
    ∃ final, run (step generateUniform ⟨0, 0⟩) start sharedActions = some final ∧
      final.settled = true ∧ final.host.space.isLoaded ⟨0, 0, 0⟩ = true ∧
      final.remote.space.isLoaded ⟨0, 0, 0⟩ = false ∧ ¬final.Replicated ⟨0, 0⟩ := by
  have reached : (run (step generateUniform ⟨0, 0⟩) start sharedActions).map (fun final =>
      (final.settled, final.host.space.isLoaded ⟨0, 0, 0⟩,
        final.remote.space.isLoaded ⟨0, 0, 0⟩)) = some (true, true, false) := by
    decide +kernel
  rcases Option.map_eq_some_iff.mp reached with ⟨final, runEq, found⟩
  simp only [Prod.mk.injEq] at found
  rcases found with ⟨settled, kept, gone⟩
  refine ⟨final, runEq, settled, kept, gone, ?_⟩
  intro replicated
  have same := replicated.chunks ⟨0, 0, 0⟩
  rw [kept, gone] at same
  cases same

end ReplicatedSpace

end VoxelEngine.Voxel
