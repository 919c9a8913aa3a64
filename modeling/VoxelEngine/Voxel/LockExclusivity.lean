import Mathlib.Data.List.Perm.Basic
import VoxelEngine.Transition.Run
import VoxelEngine.Voxel.ChunkEntry
import VoxelEngine.Voxel.PositionSet

/-!
# Lock exclusivity

Any number of lockers may cover a chunk at the same time, next to other loaders that hold
it.  While a chunk is covered its tiles must not change, and the writes that were queued
in the meantime are applied when its last locker is destroyed.
-/

namespace VoxelEngine.Voxel

open VoxelEngine.Transition

/-- A space, how often each chunk is held by other loaders, and the lockers that exist,
each with the chunks it covers. -/
structure LockedSpace (M : Type) where
  space : VoxelSpace M
  held : TilePos → Nat
  lockers : List PositionSet

/-- What can happen to a space and its lockers.  Other loaders only unload what they have
loaded. -/
inductive LockAction where
  | loadChunk (chunkpos : TilePos)
  | unloadChunk (chunkpos : TilePos)
  | setData (worldpos : TilePos) (td : TileData)
  | createLocker (positions : PositionSet)
  | destroyLocker (index : Nat)

namespace LockedSpace

variable {M : Type} [Inhabited M]

/-- Nothing is loaded and there are no lockers. -/
def empty : LockedSpace M :=
  ⟨VoxelSpace.empty, fun _ => 0, []⟩

/-- The transition relation of a space and its lockers. -/
def step (generate : ChunkGenerator M) (unknown : TileData) :
    Step (LockedSpace M) LockAction
  | state, .loadChunk chunkpos =>
      some
        { state with
          space := state.space.loadChunk generate chunkpos
          held := Function.update state.held chunkpos (state.held chunkpos + 1) }
  | state, .unloadChunk chunkpos =>
      if state.held chunkpos = 0 then none
      else
        some
          { state with
            space := state.space.unloadChunk chunkpos
            held := Function.update state.held chunkpos (state.held chunkpos - 1) }
  | state, .setData worldpos td =>
      some { state with space := (state.space.setData unknown worldpos td).2 }
  | state, .createLocker positions =>
      some
        { state with
          space := state.space.lockChunks generate positions.1
          lockers := state.lockers ++ [positions] }
  | state, .destroyLocker index =>
      state.lockers[index]?.bind fun positions =>
        (state.space.releaseChunks positions.1).map fun released =>
          { state with space := released, lockers := state.lockers.eraseIdx index }

/-- How many lockers cover a chunk. -/
def covers (state : LockedSpace M) (pos : TilePos) : Nat :=
  state.lockers.countP fun positions => pos ∈ positions.1

/-- Some locker covers the chunk. -/
def Covered (state : LockedSpace M) (pos : TilePos) : Prop :=
  0 < state.covers pos

/-- The writes to a chunk among some actions. -/
def writesTo (pos : TilePos) (actions : List LockAction) : List PendingChange :=
  actions.filterMap fun action =>
    match action with
    | .setData worldpos td =>
        if toChunkpos worldpos = pos then some (toLocalpos worldpos, td) else none
    | _ => none

/-- A locker that is destroyed is the only one that covers the chunk, if it does. -/
def ReleasesLast (pos : TilePos) (state : LockedSpace M) : LockAction → Prop
  | .destroyLocker index =>
      ∀ positions ∈ state.lockers[index]?, pos ∈ positions.1 →
        ∀ other ∈ state.lockers.eraseIdx index, pos ∉ other.1
  | _ => True

/-- A chunk is loaded as often as loaders and lockers hold it, and locked while lockers
cover it. -/
inductive Accounted : Option ChunkEntry → Nat → Nat → Prop where
  | absent : Accounted none 0 0
  | present (chunk : Chunk) (held covers : Nat) (loaded : 0 < held + covers)
      (locked : chunk.locked = decide (0 < covers))
      (settled : covers = 0 → chunk.pendingChanges = []) :
      Accounted (some (chunk, held + covers)) held covers

/-- The accounts of one chunk are in order. -/
def AccountedAt (pos : TilePos) (state : LockedSpace M) : Prop :=
  Accounted (state.space.entry pos) (state.held pos) (state.covers pos)

/-- Loading keeps the accounts in order. -/
theorem Accounted.load {entry : Option ChunkEntry} {held covers : Nat}
    (accounted : Accounted entry held covers) (generated : ChunkData) :
    Accounted (some (VoxelSpace.loadedEntry generated entry)) (held + 1) covers := by
  cases accounted with
  | absent => exact Accounted.present (Chunk.create generated) 1 0 (by decide) rfl fun _ => rfl
  | present chunk _ _ loaded locked settled =>
      have count : held + covers + 1 = held + 1 + covers := by omega
      rw [VoxelSpace.loadedEntry, count]
      exact Accounted.present chunk (held + 1) covers (by omega) locked settled

/-- Unloading what was loaded keeps the accounts in order. -/
theorem Accounted.unload {entry : Option ChunkEntry} {held covers : Nat}
    (accounted : Accounted entry (held + 1) covers) :
    Accounted (VoxelSpace.unloadedEntry entry) held covers := by
  cases accounted with
  | present chunk _ _ loaded locked settled =>
      have count : held + 1 + covers - 1 = held + covers := by omega
      rw [VoxelSpace.unloadedEntry, count]
      by_cases last : held + covers = 0
      · rw [if_pos last]
        have heldEq : held = 0 := by omega
        have coversEq : covers = 0 := by omega
        subst heldEq coversEq
        exact Accounted.absent
      · rw [if_neg last]
        exact Accounted.present chunk held covers (by omega) locked settled

/-- A locker counts as one more load. -/
theorem Accounted.lock {entry : Option ChunkEntry} {held covers : Nat}
    (accounted : Accounted entry held covers) (generated : ChunkData) :
    Accounted (some ((VoxelSpace.loadedEntry generated entry).1.toggleWriteLock true,
      (VoxelSpace.loadedEntry generated entry).2)) held (covers + 1) := by
  cases accounted with
  | absent =>
      exact Accounted.present ((Chunk.create generated).toggleWriteLock true) 0 1
        (by decide) rfl fun none => by cases none
  | present chunk _ _ loaded locked settled =>
      exact Accounted.present (chunk.toggleWriteLock true) held (covers + 1) (by omega)
        (by simp) fun none => by cases none

/-- The last locker leaves the chunk unlocked, without queued writes. -/
theorem Accounted.release {entry : Option ChunkEntry} {held : Nat}
    (accounted : Accounted entry held 1) :
    Accounted (VoxelSpace.unloadedEntry
      (entry.map fun found => (found.1.toggleWriteLock false, found.2))) held 0 := by
  cases accounted with
  | present chunk _ _ loaded locked settled =>
      rw [Option.map_some, VoxelSpace.unloadedEntry, Nat.add_sub_cancel]
      by_cases last : held = 0
      · rw [if_pos last, last]
        exact Accounted.absent
      · rw [if_neg last]
        exact Accounted.present (chunk.toggleWriteLock false) held 0 (by omega) (by simp)
          fun _ => by simp

/-- A write is queued if and only if the chunk is covered. -/
theorem Accounted.write {entry : Option ChunkEntry} {held covers : Nat}
    (accounted : Accounted entry held covers) (place : LocalPos) (td : TileData) :
    Accounted (entry.map fun found => ((found.1.setData place td).2, found.2)) held covers := by
  cases accounted with
  | absent => exact Accounted.absent
  | present chunk _ _ loaded locked settled =>
      apply Accounted.present _ held covers loaded
      · rw [Chunk.setData_locked, locked]
      · intro uncovered
        have unlocked : chunk.locked = false := by simp [locked, uncovered]
        rw [Chunk.setData_of_unlocked unlocked]
        exact settled uncovered

omit [Inhabited M] in
theorem covers_create (state : LockedSpace M) (positions : PositionSet) (pos : TilePos)
    (space : VoxelSpace M) (held : TilePos → Nat) :
    covers ⟨space, held, state.lockers ++ [positions]⟩ pos =
      state.covers pos + if pos ∈ positions.1 then 1 else 0 :=
  covering_append_singleton state.lockers positions pos

omit [Inhabited M] in
theorem covers_destroy {state : LockedSpace M} {index : Nat} {positions : PositionSet}
    (found : state.lockers[index]? = some positions) (pos : TilePos) (space : VoxelSpace M)
    (held : TilePos → Nat) :
    state.covers pos =
      covers ⟨space, held, state.lockers.eraseIdx index⟩ pos +
        if pos ∈ positions.1 then 1 else 0 :=
  covering_eraseIdx found pos

/-- The steps of a run in which lockers that share the chunk are not destroyed before the
others keep its accounts in order. -/
theorem accountedAt_step {generate : ChunkGenerator M} {unknown : TileData} {pos : TilePos}
    {state next : LockedSpace M} {action : LockAction} (accounted : AccountedAt pos state)
    (releasesLast : ReleasesLast pos state action)
    (stepEq : step generate unknown state action = some next) : AccountedAt pos next := by
  cases action with
  | loadChunk chunkpos =>
      rw [← Option.some.inj stepEq]
      by_cases pos_eq : pos = chunkpos
      · subst pos_eq
        simp only [AccountedAt, VoxelSpace.entry_loadChunk_self, Function.update_self]
        exact Accounted.load accounted (generate state.space pos)
      · simp only [AccountedAt, VoxelSpace.entry_loadChunk_of_ne generate state.space pos_eq,
          Function.update_of_ne pos_eq]
        exact accounted
  | unloadChunk chunkpos =>
      simp only [step] at stepEq
      split at stepEq
      · cases stepEq
      · rename_i holds
        rw [← Option.some.inj stepEq]
        by_cases pos_eq : pos = chunkpos
        · subst pos_eq
          simp only [AccountedAt, VoxelSpace.entry_unloadChunk_self, Function.update_self]
          apply Accounted.unload
          rw [Nat.sub_add_cancel (Nat.pos_of_ne_zero holds)]
          exact accounted
        · simp only [AccountedAt, VoxelSpace.entry_unloadChunk_of_ne state.space pos_eq,
            Function.update_of_ne pos_eq]
          exact accounted
  | setData worldpos td =>
      rw [← Option.some.inj stepEq]
      simp only [AccountedAt, VoxelSpace.entry_setData]
      split
      · exact Accounted.write accounted (toLocalpos worldpos) td
      · exact accounted
  | createLocker positions =>
      rw [← Option.some.inj stepEq]
      simp only [AccountedAt, covers_create]
      by_cases mem : pos ∈ positions.1
      · rcases VoxelSpace.entry_lockChunks generate state.space positions.2 mem with
          ⟨generated, entryEq⟩
        rw [entryEq, if_pos mem]
        exact Accounted.lock accounted generated
      · rw [VoxelSpace.entry_lockChunks_of_notMem generate state.space mem, if_neg mem]
        exact accounted
  | destroyLocker index =>
      simp only [step, Option.bind_eq_some_iff, Option.map_eq_some_iff] at stepEq
      rcases stepEq with ⟨positions, found, released, releaseEq, rfl⟩
      have coversEq := covers_destroy found pos released state.held
      by_cases mem : pos ∈ positions.1
      · have none_left : covers ⟨released, state.held, state.lockers.eraseIdx index⟩ pos = 0 := by
          rw [covers, List.countP_eq_zero]
          intro other otherMem
          simpa using releasesLast positions found mem other otherMem
        rw [if_pos mem, none_left] at coversEq
        rw [AccountedAt, none_left, VoxelSpace.entry_releaseChunks positions.2 releaseEq mem]
        apply Accounted.release
        rw [← show state.covers pos = 1 from coversEq]
        exact accounted
      · rw [if_neg mem] at coversEq
        rw [AccountedAt, VoxelSpace.entry_releaseChunks_of_notMem releaseEq mem]
        rw [AccountedAt, coversEq] at accounted
        exact accounted

/-- The tiles of a chunk and the writes queued for it. -/
def contents (state : LockedSpace M) (pos : TilePos) : Option (ChunkData × List PendingChange) :=
  (state.space.entry pos).map fun found => (found.1.data, found.1.pendingChanges)

omit [Inhabited M] in
/-- What accounts in order say about a covered chunk. -/
theorem exists_entry_of_covered {pos : TilePos} {state : LockedSpace M}
    (accounted : AccountedAt pos state) (covered : Covered state pos) :
    ∃ chunk, state.space.entry pos = some (chunk, state.held pos + state.covers pos) ∧
      chunk.locked = true := by
  rw [AccountedAt] at accounted
  rw [Covered] at covered
  generalize state.space.entry pos = entry at accounted ⊢
  generalize state.held pos = held at accounted ⊢
  generalize state.covers pos = covers at accounted covered ⊢
  cases accounted with
  | absent => exact absurd covered (Nat.lt_irrefl 0)
  | present chunk _ _ loaded locked settled =>
      exact ⟨chunk, rfl, by rw [locked, decide_eq_true covered]⟩

omit [Inhabited M] in
/-- Another load changes nothing about a loaded chunk but its count. -/
theorem contents_load {state : LockedSpace M} {pos : TilePos} {chunk : Chunk} {count : Nat}
    (present : state.space.entry pos = some (chunk, count)) (generated : ChunkData) :
    (some (VoxelSpace.loadedEntry generated (state.space.entry pos))).map
      (fun found => (found.1.data, found.1.pendingChanges)) = state.contents pos := by
  rw [contents, present]
  rfl

/-- While a chunk stays covered, a step changes nothing about it but the queue of its
writes. -/
theorem contents_step {generate : ChunkGenerator M} {unknown : TileData} {pos : TilePos}
    {state next : LockedSpace M} {action : LockAction} (accounted : AccountedAt pos state)
    (releasesLast : ReleasesLast pos state action)
    (stepEq : step generate unknown state action = some next) (covered : Covered state pos)
    (nextCovered : Covered next pos) :
    next.contents pos =
      (state.contents pos).map fun found => (found.1, found.2 ++ writesTo pos [action]) := by
  rcases exists_entry_of_covered accounted covered with ⟨chunk, present, locked⟩
  have unchanged : (state.contents pos).map (fun found => (found.1, found.2 ++ [])) =
      state.contents pos := by
    simp
  cases action with
  | loadChunk chunkpos =>
      rw [← Option.some.inj stepEq]
      apply Eq.trans _ unchanged.symm
      by_cases pos_eq : pos = chunkpos
      · subst pos_eq
        rw [contents, VoxelSpace.entry_loadChunk_self]
        exact contents_load present (generate state.space pos)
      · rw [contents, VoxelSpace.entry_loadChunk_of_ne generate state.space pos_eq, contents]
  | unloadChunk chunkpos =>
      simp only [step] at stepEq
      split at stepEq
      · cases stepEq
      · rename_i holds
        rw [← Option.some.inj stepEq]
        apply Eq.trans _ unchanged.symm
        by_cases pos_eq : pos = chunkpos
        · subst pos_eq
          have more : state.held pos + state.covers pos - 1 ≠ 0 := by
            rw [Covered] at covered
            omega
          rw [contents, VoxelSpace.entry_unloadChunk_self, contents, present,
            VoxelSpace.unloadedEntry, if_neg more]
          rfl
        · rw [contents, VoxelSpace.entry_unloadChunk_of_ne state.space pos_eq, contents]
  | setData worldpos td =>
      rw [← Option.some.inj stepEq]
      rw [contents, VoxelSpace.entry_setData, contents, present]
      by_cases pos_eq : pos = toChunkpos worldpos
      · rw [if_pos pos_eq, Option.map_some, Chunk.setData_of_locked locked]
        simp [writesTo, pos_eq]
      · rw [if_neg pos_eq]
        simp [writesTo, Ne.symm pos_eq]
  | createLocker positions =>
      rw [← Option.some.inj stepEq]
      apply Eq.trans _ unchanged.symm
      by_cases mem : pos ∈ positions.1
      · rcases VoxelSpace.entry_lockChunks generate state.space positions.2 mem with
          ⟨generated, entryEq⟩
        rw [contents, entryEq]
        exact contents_load present generated
      · rw [contents, VoxelSpace.entry_lockChunks_of_notMem generate state.space mem, contents]
  | destroyLocker index =>
      simp only [step, Option.bind_eq_some_iff, Option.map_eq_some_iff] at stepEq
      rcases stepEq with ⟨positions, found, released, releaseEq, rfl⟩
      apply Eq.trans _ unchanged.symm
      by_cases mem : pos ∈ positions.1
      · rcases List.countP_pos_iff.mp nextCovered with ⟨other, otherMem, othersCover⟩
        exact absurd (by simpa using othersCover) (releasesLast positions found mem other otherMem)
      · rw [contents, VoxelSpace.entry_releaseChunks_of_notMem releaseEq mem, contents]

/-- Destroying the last locker of a chunk applies its queued writes.  If nobody else holds
the chunk, it is then unloaded. -/
theorem contents_destroyLocker {generate : ChunkGenerator M} {unknown : TileData}
    {pos : TilePos} {state next : LockedSpace M} {index : Nat}
    (accounted : AccountedAt pos state)
    (stepEq : step generate unknown state (.destroyLocker index) = some next)
    (covered : Covered state pos) (uncovered : ¬Covered next pos) :
    next.contents pos =
      if state.held pos = 0 then none
      else (state.contents pos).map fun found => (applyChanges found.1 found.2, []) := by
  rcases exists_entry_of_covered accounted covered with ⟨chunk, present, locked⟩
  simp only [step, Option.bind_eq_some_iff, Option.map_eq_some_iff] at stepEq
  rcases stepEq with ⟨positions, found, released, releaseEq, rfl⟩
  have coversEq := covers_destroy found pos released state.held
  rw [Covered, Nat.not_lt, Nat.le_zero] at uncovered
  rw [uncovered] at coversEq
  by_cases mem : pos ∈ positions.1
  · rw [if_pos mem, Nat.zero_add] at coversEq
    have releasedEntry : released.entry pos =
        if state.held pos = 0 then none
        else some (chunk.toggleWriteLock false, state.held pos) := by
      rw [VoxelSpace.entry_releaseChunks positions.2 releaseEq mem, present, coversEq]
      rfl
    rw [contents, releasedEntry, contents, present]
    by_cases last : state.held pos = 0
    · rw [if_pos last, if_pos last, Option.map_none]
    · rw [if_neg last, if_neg last, Chunk.toggleWriteLock_false]
      rfl
  · rw [if_neg mem] at coversEq
    exact absurd covered (by simp [Covered, coversEq])

/-- From a state that is reached by the first actions on, the chunk stays covered during
the others: its tiles are not changed by any of them, all writes are queued, and when the
last locker is destroyed they are applied. -/
def Exclusive (generate : ChunkGenerator M) (unknown : TileData) (pos : TilePos)
    (before during : List LockAction) : Prop :=
  ∀ start final, run (step generate unknown) empty before = some start →
    run (step generate unknown) start during = some final →
    Guarded (step generate unknown) (fun state _ => Covered state pos) start during →
    Covered final pos →
    ∃ data queued, start.contents pos = some (data, queued) ∧
      final.contents pos = some (data, queued ++ writesTo pos during) ∧
      ∀ index next, step generate unknown final (.destroyLocker index) = some next →
        ¬Covered next pos →
        next.contents pos =
          if final.held pos = 0 then none
          else some (applyChanges data (queued ++ writesTo pos during), [])

/-- The queue grows by the writes of a run during which the chunk stays covered. -/
theorem contents_run {generate : ChunkGenerator M} {unknown : TileData} {pos : TilePos}
    {state final : LockedSpace M} {during : List LockAction} {data : ChunkData}
    {queued : List PendingChange} (accounted : AccountedAt pos state)
    (start : state.contents pos = some (data, queued))
    (releasesLast : Guarded (step generate unknown) (ReleasesLast pos) state during)
    (stays : Guarded (step generate unknown) (fun state _ => Covered state pos) state during)
    (covered : Covered final pos)
    (runEq : run (step generate unknown) state during = some final) :
    AccountedAt pos final ∧
      final.contents pos = some (data, queued ++ writesTo pos during) := by
  induction during generalizing state queued with
  | nil =>
      rw [← Option.some.inj runEq, start, writesTo, List.filterMap_nil, List.append_nil]
      exact ⟨accounted, rfl⟩
  | cons action rest ih =>
      rcases (run_cons_eq_some_iff _ _ _ _ _).mp runEq with ⟨next, stepEq, restRun⟩
      rcases guarded_cons_iff.mp releasesLast with ⟨here, later⟩
      rcases guarded_cons_iff.mp stays with ⟨coveredHere, staysLater⟩
      have nextCovered : Covered next pos := by
        cases rest with
        | nil =>
            rw [Option.some.inj restRun]
            exact covered
        | cons second others => exact (guarded_cons_iff.mp (staysLater next stepEq)).1
      have kept := contents_step accounted here stepEq coveredHere nextCovered
      rw [start, Option.map_some] at kept
      rcases ih (accountedAt_step accounted here stepEq) kept (later next stepEq)
        (staysLater next stepEq) restRun with ⟨finalAccounted, finalContents⟩
      constructor
      · exact finalAccounted
      · rw [finalContents, List.append_assoc]
        congr 3
        rw [writesTo, writesTo, writesTo, ← List.filterMap_append, List.singleton_append]

/-- Locks are exclusive in all runs in which no locker of the chunk is destroyed before
another one that covers it too. -/
theorem exclusive_of_releasesLast (generate : ChunkGenerator M) (unknown : TileData)
    (pos : TilePos) (before during : List LockAction)
    (releasesLast : Guarded (step generate unknown) (ReleasesLast pos) empty
      (before ++ during)) :
    Exclusive generate unknown pos before during := by
  intro start final startRun duringRun stays covered
  rcases guarded_append_iff.mp releasesLast with ⟨early, late⟩
  have accounted : AccountedAt pos start :=
    run_invariant (fun _ _ _ inv here stepEq => accountedAt_step inv here stepEq)
      (show AccountedAt pos empty from Accounted.absent) early startRun
  have startCovered : Covered start pos := by
    cases during with
    | nil =>
        rw [Option.some.inj duringRun]
        exact covered
    | cons action rest => exact (guarded_cons_iff.mp stays).1
  rcases exists_entry_of_covered accounted startCovered with ⟨chunk, present, locked⟩
  have startContents : start.contents pos = some (chunk.data, chunk.pendingChanges) := by
    rw [contents, present, Option.map_some]
  rcases contents_run accounted startContents (late start startRun) stays covered duringRun with
    ⟨finalAccounted, finalContents⟩
  refine ⟨chunk.data, chunk.pendingChanges, startContents, finalContents, ?_⟩
  intro index next stepEq uncovered
  rw [contents_destroyLocker finalAccounted stepEq covered uncovered, finalContents]
  rfl

instance (state : LockedSpace M) (pos : TilePos) : Decidable (Covered state pos) :=
  inferInstanceAs (Decidable (_ < _))

instance (pos : TilePos) (state : LockedSpace M) : (action : LockAction) →
    Decidable (ReleasesLast pos state action)
  | .destroyLocker _ => inferInstanceAs (Decidable (∀ _ ∈ _, _ → ∀ _ ∈ _, _))
  | .loadChunk _ | .unloadChunk _ | .setData .. | .createLocker _ => isTrue trivial

/-- All chunks are generated with the same tiles. -/
def generateUniform : ChunkGenerator Unit :=
  fun _ _ _ => ⟨0, 0⟩

theorem origin_nodup : [(⟨0, 0, 0⟩ : TilePos)].Nodup :=
  List.nodup_singleton _

theorem neighbours_nodup : [(⟨0, 0, 0⟩ : TilePos), ⟨1, 0, 0⟩].Nodup := by
  decide

/-- Two lockers of which one covers a second chunk, which is also held by a loader. -/
def overlapSetup : List LockAction :=
  [.loadChunk ⟨1, 0, 0⟩, .createLocker ⟨[⟨0, 0, 0⟩, ⟨1, 0, 0⟩], neighbours_nodup⟩,
    .setData ⟨32, 0, 0⟩ ⟨0, 1⟩, .createLocker ⟨[⟨0, 0, 0⟩], origin_nodup⟩]

/-- While the second chunk is covered by one locker, it is exclusive. -/
theorem exclusive_overlapSetup :
    (∃ start final, run (step generateUniform ⟨0, 0⟩) empty overlapSetup = some start ∧
      run (step generateUniform ⟨0, 0⟩) start
        [.setData ⟨33, 0, 0⟩ ⟨0, 1⟩, .destroyLocker 1] = some final ∧
      Covered start ⟨1, 0, 0⟩ ∧ Covered final ⟨1, 0, 0⟩) ∧
    Exclusive generateUniform ⟨0, 0⟩ ⟨1, 0, 0⟩ overlapSetup
      [.setData ⟨33, 0, 0⟩ ⟨0, 1⟩, .destroyLocker 1] := by
  constructor
  · exact ⟨_, _, rfl, rfl, by decide +kernel, by decide +kernel⟩
  · exact exclusive_of_releasesLast generateUniform ⟨0, 0⟩ ⟨1, 0, 0⟩ overlapSetup _
      (by decide +kernel)

/-- The first chunk is unlocked although one of its lockers still exists. -/
theorem unlocked_while_covered :
    ¬Exclusive generateUniform ⟨0, 0⟩ ⟨0, 0, 0⟩ overlapSetup
      [.destroyLocker 1, .setData ⟨0, 0, 0⟩ ⟨0, 1⟩] := by
  intro exclusive
  rcases exclusive _ _ rfl rfl (by decide +kernel) (by decide +kernel) with
    ⟨data, queued, startEq, finalEq, _⟩
  have old := congrArg (Option.map fun found => found.1 ⟨0, 0, 0⟩) startEq
  have new := congrArg (Option.map fun found => found.1 ⟨0, 0, 0⟩) finalEq
  exact absurd (old.trans new.symm) (by decide +kernel)

end LockedSpace

end VoxelEngine.Voxel
