import Mathlib.Data.List.Perm.Basic
import VoxelEngine.Voxel.ChunkEntry
import VoxelEngine.Voxel.ChunkLoader

/-!
# Load counts

The load count of a chunk ought to be the number of attached loaders that hold it.  This
is so in all runs in which loaders are attached once, detached while they are attached,
and in which no chunk is removed from a multi chunk loader that holds it.
-/

namespace VoxelEngine.Voxel

open VoxelEngine.Transition

/-- The entry of a chunk that is loaded a number of times. -/
inductive Charge : Option ChunkEntry → Nat → Prop where
  | absent : Charge none 0
  | present (chunk : Chunk) (count : Nat) (positive : 0 < count) :
      Charge (some (chunk, count)) count

theorem Charge.load {entry : Option ChunkEntry} {count : Nat} (charge : Charge entry count)
    (generated : ChunkData) :
    Charge (some (VoxelSpace.loadedEntry generated entry)) (count + 1) := by
  cases charge with
  | absent => exact Charge.present (Chunk.create generated) 1 Nat.one_pos
  | present chunk _ positive => exact Charge.present chunk (count + 1) (Nat.succ_pos count)

theorem Charge.unload {entry : Option ChunkEntry} {count : Nat}
    (charge : Charge entry (count + 1)) : Charge (VoxelSpace.unloadedEntry entry) count := by
  cases charge with
  | present chunk _ positive =>
      rw [VoxelSpace.unloadedEntry, Nat.add_sub_cancel]
      by_cases last : count = 0
      · rw [if_pos last, last]
        exact Charge.absent
      · rw [if_neg last]
        exact Charge.present chunk count (Nat.pos_of_ne_zero last)

theorem Charge.isSome_iff {entry : Option ChunkEntry} {count : Nat}
    (charge : Charge entry count) : entry.isSome = true ↔ 0 < count := by
  cases charge with
  | absent => simp
  | present chunk _ positive => simp [positive]

/-- Every chunk is loaded as often as a table says. -/
def Charged {M : Type} (space : VoxelSpace M) (total : TilePos → Nat) : Prop :=
  ∀ pos, Charge (space.entry pos) (total pos)

variable {M : Type} [Inhabited M]

section Charged

variable {space : VoxelSpace M} {total others : TilePos → Nat}

theorem Charged.loadChunk (charged : Charged space total) (generate : ChunkGenerator M)
    (chunkpos : TilePos) :
    Charged (space.loadChunk generate chunkpos)
      (fun pos => total pos + if pos = chunkpos then 1 else 0) := by
  intro pos
  change Charge _ (total pos + if pos = chunkpos then 1 else 0)
  by_cases pos_eq : pos = chunkpos
  · subst pos_eq
    rw [VoxelSpace.entry_loadChunk_self, if_pos rfl]
    exact (charged pos).load (generate space pos)
  · rw [VoxelSpace.entry_loadChunk_of_ne generate space pos_eq, if_neg pos_eq]
    exact charged pos

omit [Inhabited M] in
theorem Charged.unloadChunk {chunkpos : TilePos}
    (charged : Charged space (fun pos => total pos + if pos = chunkpos then 1 else 0)) :
    Charged (space.unloadChunk chunkpos) total := by
  intro pos
  have charge : Charge (space.entry pos) (total pos + if pos = chunkpos then 1 else 0) :=
    charged pos
  by_cases pos_eq : pos = chunkpos
  · subst pos_eq
    rw [if_pos rfl] at charge
    rw [VoxelSpace.entry_unloadChunk_self]
    exact charge.unload
  · rw [if_neg pos_eq] at charge
    rw [VoxelSpace.entry_unloadChunk_of_ne space pos_eq]
    exact charge

omit [Inhabited M] in
theorem Charged.congr (charged : Charged space total) (same : ∀ pos, others pos = total pos) :
    Charged space others := by
  intro pos
  rw [same pos]
  exact charged pos

theorem count_cons_eq (first : TilePos) (rest : List TilePos) (pos : TilePos) :
    (first :: rest).count pos = rest.count pos + if pos = first then 1 else 0 := by
  rw [List.count_cons]
  by_cases pos_eq : pos = first
  · rw [pos_eq, if_pos rfl, if_pos BEq.rfl]
  · rw [if_neg pos_eq, if_neg fun same => pos_eq (eq_of_beq same).symm]

/-- Loading a list of chunks adds one for each occurrence. -/
theorem Charged.loadAll (charged : Charged space total) (generate : ChunkGenerator M)
    (positions : List TilePos) :
    Charged (space.loadAll generate positions) (fun pos => total pos + positions.count pos) := by
  induction positions generalizing space total with
  | nil => exact charged
  | cons first rest ih =>
      apply (ih (charged.loadChunk generate first)).congr
      intro pos
      rw [count_cons_eq, Nat.add_assoc]
      exact congrArg (total pos + ·) (Nat.add_comm _ _)

omit [Inhabited M] in
/-- Unloading a list of chunks takes one away for each occurrence. -/
theorem Charged.unloadAll {positions : List TilePos}
    (charged : Charged space (fun pos => total pos + positions.count pos)) :
    Charged (space.unloadAll positions) total := by
  induction positions generalizing space with
  | nil => exact charged
  | cons first rest ih =>
      apply ih
      apply Charged.unloadChunk
      apply charged.congr
      intro pos
      rw [count_cons_eq, Nat.add_assoc]

/-- Noting and loading chunks keeps a set and the loads made for it in step. -/
theorem charged_foldl_emplaceAndLoad (generate : ChunkGenerator M) (positions : List TilePos)
    {state : PositionSet × VoxelSpace M}
    (charged : Charged state.2 (fun pos => others pos + state.1.count pos)) :
    Charged (positions.foldl (emplaceAndLoad generate) state).2
      (fun pos => others pos + (positions.foldl (emplaceAndLoad generate) state).1.count pos) := by
  induction positions generalizing state with
  | nil => exact charged
  | cons first rest ih =>
      apply ih
      by_cases mem : first ∈ state.1.1
      · rw [emplaceAndLoad, if_pos mem]
        exact charged
      · rw [emplaceAndLoad, if_neg mem]
        apply (charged.loadChunk generate first).congr
        intro pos
        rw [PositionSet.count_emplace mem, Nat.add_assoc]

omit [Inhabited M] in
theorem charged_foldl_eraseAndUnload (positions : List TilePos)
    {state : PositionSet × VoxelSpace M}
    (charged : Charged state.2 (fun pos => others pos + state.1.count pos)) :
    Charged (positions.foldl eraseAndUnload state).2
      (fun pos => others pos + (positions.foldl eraseAndUnload state).1.count pos) := by
  induction positions generalizing state with
  | nil => exact charged
  | cons first rest ih =>
      apply ih
      by_cases mem : first ∈ state.1.1
      · rw [eraseAndUnload, if_pos mem]
        apply Charged.unloadChunk
        apply charged.congr
        intro pos
        rw [Nat.add_assoc, PositionSet.count_erase mem]
      · rw [eraseAndUnload, if_neg mem]
        exact charged

/-- Replacing the set of loaded chunks moves exactly the difference. -/
theorem charged_updateLoaded (generate : ChunkGenerator M) {loaded newLoaded : PositionSet}
    (charged : Charged space (fun pos => others pos + loaded.count pos)) :
    Charged (updateLoaded generate space loaded newLoaded)
      (fun pos => others pos + newLoaded.count pos) := by
  have kept : Charged (space.unloadAll (loaded.filter fun pos => pos ∉ newLoaded.1).1)
      (fun pos => others pos + (loaded.filter fun pos => pos ∈ newLoaded.1).count pos) := by
    apply Charged.unloadAll
    apply charged.congr
    intro pos
    change others pos + _ + (loaded.filter fun pos => pos ∉ newLoaded.1).count pos = _
    rw [PositionSet.count_filter, PositionSet.count_filter]
    by_cases mem : pos ∈ newLoaded.1 <;> simp [mem]
  apply (kept.loadAll generate (newLoaded.filter fun pos => pos ∉ loaded.1).1).congr
  intro pos
  change _ = others pos + _ + (newLoaded.filter fun pos => pos ∉ loaded.1).count pos
  rw [PositionSet.count_filter, PositionSet.count_filter, PositionSet.count_eq,
    PositionSet.count_eq]
  by_cases new : pos ∈ newLoaded.1 <;> by_cases old : pos ∈ loaded.1 <;> simp [new, old]

omit [Inhabited M] in
/-- Unloading chunks that are not loaded changes nothing. -/
theorem unloadAll_of_absent {positions : List TilePos}
    (absent : ∀ pos ∈ positions, space.isLoaded pos = false) :
    space.unloadAll positions = space := by
  induction positions with
  | nil => rfl
  | cons first rest ih =>
      have firstAbsent : space.chunks first = none := by
        simpa [VoxelSpace.isLoaded] using absent first List.mem_cons_self
      rw [VoxelSpace.unloadAll, List.foldl_cons, VoxelSpace.unloadChunk_of_absent firstAbsent]
      exact ih fun pos mem => absent pos (List.mem_cons_of_mem _ mem)

end Charged

namespace ChunkLoader

variable {within : TilePos → TilePos → TilePos → Bool} (generate : ChunkGenerator M)
  {space : VoxelSpace M} {others : TilePos → Nat}

/-- What attaching a loader loads. -/
def starts (within : TilePos → TilePos → TilePos → Bool) : ChunkLoader → PositionSet
  | point center range => reach within center range
  | multiChunk loadedChunks _ => loadedChunks
  | entity _ _ => PositionSet.empty
  | remote _ => PositionSet.empty

/-- Attaching a loader that is not attached loads just what it then holds. -/
def Idle (within : TilePos → TilePos → TilePos → Bool) (loader : ChunkLoader) : Prop :=
  loader.starts within = loader.holds within

theorem idle_construct (kind : LoaderKind) : (kind.construct).Idle within := by
  cases kind <;> rfl

variable (within) in
theorem charged_startLoading (loader : ChunkLoader) (charged : Charged space others) :
    Charged (loader.startLoading within generate space)
      (fun pos => others pos + (loader.starts within).count pos) := by
  cases loader with
  | point center range => exact charged.loadAll generate (reach within center range).1
  | multiChunk loadedChunks pendingLoads => exact charged.loadAll generate loadedChunks.1
  | entity range loaded => exact charged
  | remote queues => exact charged

/-- Detaching a loader gives back everything it holds. -/
theorem charged_stopLoading (loader : ChunkLoader)
    (charged : Charged space (fun pos => others pos + (loader.holds within).count pos)) :
    Charged (loader.stopLoading within generate space).2 others ∧
      (loader.stopLoading within generate space).1.Idle within := by
  cases loader with
  | point center range =>
      constructor
      · exact Charged.unloadAll charged
      · rfl
  | multiChunk loadedChunks pendingLoads =>
      constructor
      · exact Charged.unloadAll charged
      · rfl
  | entity range loaded =>
      rw [stopLoading]
      split
      · rename_i isEmpty
        have nothing : loaded = PositionSet.empty := Subtype.ext (List.isEmpty_iff.mp isEmpty)
        subst nothing
        exact ⟨charged, rfl⟩
      · exact ⟨charged_updateLoaded generate charged, rfl⟩
  | remote queues =>
      constructor
      · exact Charged.unloadAll charged
      · rfl

/-- Detaching a loader none of whose chunks is loaded changes nothing about the space. -/
theorem stopLoading_of_absent (loader : ChunkLoader) (idle : loader.Idle within)
    (absent : ∀ pos ∈ (loader.holds within).1, space.isLoaded pos = false) :
    (loader.stopLoading within generate space).2 = space ∧
      (loader.stopLoading within generate space).1.Idle within := by
  cases loader with
  | point center range => exact ⟨unloadAll_of_absent absent, rfl⟩
  | multiChunk loadedChunks pendingLoads => exact ⟨unloadAll_of_absent absent, rfl⟩
  | entity range loaded =>
      have nothing : loaded = PositionSet.empty := Eq.symm idle
      subst nothing
      exact ⟨rfl, rfl⟩
  | remote queues => exact ⟨unloadAll_of_absent absent, rfl⟩

/-- Updating a loader keeps what it holds and its loads in step. -/
theorem charged_update (loader : ChunkLoader) (entityChunk : Option TilePos)
    (charged : Charged space (fun pos => others pos + (loader.holds within).count pos)) :
    Charged (loader.update within generate entityChunk space).2 (fun pos =>
      others pos + ((loader.update within generate entityChunk space).1.holds within).count pos) := by
  cases loader with
  | point center range => exact charged
  | multiChunk loadedChunks pendingLoads =>
      exact charged_foldl_emplaceAndLoad generate pendingLoads charged
  | entity range loaded =>
      cases entityChunk with
      | some center => exact charged_updateLoaded generate charged
      | none =>
          rw [update, stopLoading]
          split
          · exact charged
          · exact charged_updateLoaded generate charged
  | remote queues =>
      exact charged_foldl_eraseAndUnload queues.unloaded.1
        (charged_foldl_emplaceAndLoad generate queues.pending.1 charged)

end ChunkLoader

namespace LoaderSpace

variable {within : TilePos → TilePos → TilePos → Bool} {generate : ChunkGenerator M}

/-- How many of some loaders hold a chunk. -/
def holders (within : TilePos → TilePos → TilePos → Bool) (loaders : Nat → ChunkLoader)
    (ids : List Nat) (pos : TilePos) : Nat :=
  ids.countP fun id => pos ∈ ((loaders id).holds within).1

theorem holders_cons (loaders : Nat → ChunkLoader) (id : Nat) (ids : List Nat)
    (pos : TilePos) :
    holders within loaders (id :: ids) pos =
      holders within loaders ids pos + ((loaders id).holds within).count pos := by
  rw [holders, List.countP_cons, PositionSet.count_eq]
  simp [holders]

theorem holders_of_mem (loaders : Nat → ChunkLoader) {id : Nat} {ids : List Nat}
    (mem : id ∈ ids) (pos : TilePos) :
    holders within loaders ids pos =
      holders within loaders (ids.erase id) pos + ((loaders id).holds within).count pos := by
  rw [← holders_cons]
  exact (List.perm_cons_erase mem).countP_eq _

theorem holders_update (loaders : Nat → ChunkLoader) {id : Nat} {ids : List Nat}
    (absent : id ∉ ids) (loader : ChunkLoader) (pos : TilePos) :
    holders within (Function.update loaders id loader) ids pos =
      holders within loaders ids pos := by
  apply List.countP_congr
  intro other mem
  have other_ne : other ≠ id := fun equal => absent (equal ▸ mem)
  rw [Function.update_of_ne other_ne]

/-- Load counts are in step with what the attached loaders hold, and the others are ready
to be attached. -/
structure Balanced (within : TilePos → TilePos → TilePos → Bool) (state : LoaderSpace M) :
    Prop where
  nodup : state.attached.Nodup
  charged : Charged state.space (holders within state.loaders state.attached)
  idle : ∀ id, id ∉ state.attached → (state.loaders id).Idle within

omit [Inhabited M] in
theorem balanced_initial (kinds : Nat → LoaderKind) :
    Balanced within (initial kinds : LoaderSpace M) where
  nodup := List.nodup_nil
  charged _ := Charge.absent
  idle id _ := ChunkLoader.idle_construct (kinds id)

/-- A loader is attached once, or starts nothing; it is detached while it is attached, or
holds nothing that is loaded; and no chunk is removed from a loader that holds it. -/
def Paired (within : TilePos → TilePos → TilePos → Bool) (state : LoaderSpace M) :
    LoaderAction → Prop
  | .addChunkLoader id =>
      id ∈ state.attached → ((state.loaders id).starts within).1 = []
  | .removeChunkLoader id =>
      id ∉ state.attached →
        ∀ pos ∈ ((state.loaders id).holds within).1, state.space.isLoaded pos = false
  | .removeChunk id pos =>
      id ∈ state.attached → pos ∉ ((state.loaders id).holds within).1
  | _ => True

omit [Inhabited M] in
/-- Replacing an attached loader by one that holds the same chunks keeps the balance, and
so does replacing one that is not attached by another that can be attached. -/
theorem Balanced.setLoader {state : LoaderSpace M} (balanced : Balanced within state)
    {id : Nat} {loader : ChunkLoader}
    (attached : id ∈ state.attached → loader.holds within = (state.loaders id).holds within)
    (idle : id ∉ state.attached → loader.Idle within) :
    Balanced within (state.setLoader id loader) where
  nodup := balanced.nodup
  charged := by
    apply balanced.charged.congr
    intro pos
    apply List.countP_congr
    intro other mem
    by_cases other_eq : other = id
    · subst other_eq
      simp only [LoaderSpace.setLoader, Function.update_self, attached mem]
    · simp only [LoaderSpace.setLoader, Function.update_of_ne other_eq]
  idle other absent := by
    by_cases other_eq : other = id
    · subst other_eq
      simp only [LoaderSpace.setLoader, Function.update_self]
      exact idle absent
    · simp only [LoaderSpace.setLoader, Function.update_of_ne other_eq]
      exact balanced.idle other absent

omit [Inhabited M] in
/-- What a remote loader has queued does not count. -/
theorem Balanced.setQueues {state : LoaderSpace M} (balanced : Balanced within state) {id : Nat}
    {queues changed : LoadQueues} (loaderEq : state.loaders id = .remote queues)
    (same : (ChunkLoader.remote changed).holds within = (ChunkLoader.remote queues).holds within) :
    Balanced within (state.setLoader id (.remote changed)) := by
  apply balanced.setLoader
  · intro _
    rw [loaderEq, same]
  · intro absent
    have idle := balanced.idle id absent
    rw [loaderEq] at idle
    rw [ChunkLoader.Idle, same]
    exact idle

theorem Balanced.addChunkLoader {state : LoaderSpace M} (balanced : Balanced within state)
    {id : Nat} (paired : Paired within state (.addChunkLoader id)) :
    Balanced within (state.addChunkLoader within generate id) := by
  have charged := (state.loaders id).charged_startLoading within generate balanced.charged
  by_cases mem : id ∈ state.attached
  · have same : state.attached.insert id = state.attached := List.insert_of_mem mem
    have nothing := paired mem
    constructor
    · rw [LoaderSpace.addChunkLoader, same]
      exact balanced.nodup
    · rw [LoaderSpace.addChunkLoader, same]
      apply charged.congr
      intro pos
      rw [PositionSet.count, nothing, List.count_nil, Nat.add_zero]
    · rw [LoaderSpace.addChunkLoader, same]
      exact balanced.idle
  · have grown : state.attached.insert id = id :: state.attached := List.insert_of_not_mem mem
    constructor
    · rw [LoaderSpace.addChunkLoader, grown]
      exact List.nodup_cons.mpr ⟨mem, balanced.nodup⟩
    · rw [LoaderSpace.addChunkLoader, grown]
      apply charged.congr
      intro pos
      rw [holders_cons, ← balanced.idle id mem]
    · rw [LoaderSpace.addChunkLoader, grown]
      intro other absent
      exact balanced.idle other fun otherMem => absent (List.mem_cons_of_mem _ otherMem)

theorem Balanced.removeChunkLoader {state : LoaderSpace M} (balanced : Balanced within state)
    {id : Nat} (paired : Paired within state (.removeChunkLoader id)) :
    Balanced within (state.removeChunkLoader within generate id) := by
  have gone : id ∉ state.attached.erase id := balanced.nodup.not_mem_erase
  have stopped : Charged ((state.loaders id).stopLoading within generate state.space).2
        (holders within state.loaders (state.attached.erase id)) ∧
      ((state.loaders id).stopLoading within generate state.space).1.Idle within := by
    by_cases mem : id ∈ state.attached
    · apply ChunkLoader.charged_stopLoading generate
      apply balanced.charged.congr
      intro pos
      exact (holders_of_mem state.loaders mem pos).symm
    · rcases (state.loaders id).stopLoading_of_absent generate
        (balanced.idle id mem) (paired mem) with ⟨same, idle⟩
      rw [same, List.erase_of_not_mem mem]
      exact ⟨balanced.charged, idle⟩
  constructor
  · exact balanced.nodup.erase id
  · apply stopped.1.congr
    intro pos
    exact holders_update state.loaders gone _ pos
  · intro other absent
    by_cases other_eq : other = id
    · subst other_eq
      simp only [LoaderSpace.removeChunkLoader, LoaderSpace.setLoader, Function.update_self]
      exact stopped.2
    · simp only [LoaderSpace.removeChunkLoader, LoaderSpace.setLoader,
        Function.update_of_ne other_eq]
      apply balanced.idle other
      intro mem
      exact absent ((List.mem_erase_of_ne other_eq).mpr mem)

/-- Updating one attached loader keeps the balance. -/
theorem Balanced.updateLoader {state : LoaderSpace M} (balanced : Balanced within state)
    (entityChunk : Nat → Option TilePos) {id : Nat} (mem : id ∈ state.attached) :
    Balanced within (state.updateLoader within generate entityChunk id) := by
  have gone : id ∉ state.attached.erase id := balanced.nodup.not_mem_erase
  have updated := (state.loaders id).charged_update generate (entityChunk id)
    (balanced.charged.congr fun pos => (holders_of_mem state.loaders mem pos).symm)
  constructor
  · exact balanced.nodup
  · apply updated.congr
    intro pos
    simp only [LoaderSpace.updateLoader, LoaderSpace.setLoader]
    rw [holders_of_mem _ mem, holders_update state.loaders gone, Function.update_self]
  · intro other absent
    have other_ne : other ≠ id := fun equal => absent (equal ▸ mem)
    simp only [LoaderSpace.updateLoader, LoaderSpace.setLoader, Function.update_of_ne other_ne]
    exact balanced.idle other absent

/-- So does updating all of them, in any order. -/
theorem Balanced.update {state : LoaderSpace M} (balanced : Balanced within state)
    (entityChunk : Nat → Option TilePos) {order : List Nat}
    (attached : ∀ id ∈ order, id ∈ state.attached) :
    Balanced within (order.foldl (LoaderSpace.updateLoader within generate entityChunk) state) := by
  induction order generalizing state with
  | nil => exact balanced
  | cons id rest ih =>
      apply ih (balanced.updateLoader entityChunk (attached id List.mem_cons_self))
      exact fun other mem => attached other (List.mem_cons_of_mem _ mem)

/-- Every paired step keeps the balance. -/
theorem balanced_step {state next : LoaderSpace M} {action : LoaderAction}
    (balanced : Balanced within state) (paired : Paired within state action)
    (stepEq : step within generate state action = some next) : Balanced within next := by
  cases action with
  | addChunkLoader id =>
      rw [← Option.some.inj stepEq]
      exact balanced.addChunkLoader paired
  | removeChunkLoader id =>
      rw [← Option.some.inj stepEq]
      exact balanced.removeChunkLoader paired
  | addChunk id pos =>
      simp only [step] at stepEq
      split at stepEq
      · rename_i loadedChunks pendingLoads loaderEq
        rw [← Option.some.inj stepEq]
        apply balanced.setLoader
        · intro _
          rw [loaderEq]
          rfl
        · intro _
          rfl
      · cases stepEq
  | removeChunk id pos =>
      simp only [step] at stepEq
      split at stepEq
      · rename_i loadedChunks pendingLoads loaderEq
        rw [← Option.some.inj stepEq]
        apply balanced.setLoader
        · intro mem
          have unheld := paired mem
          rw [loaderEq] at unheld ⊢
          exact Subtype.ext (List.erase_of_not_mem unheld)
        · intro _
          rfl
      · cases stepEq
  | loadFromRemote id pos =>
      simp only [step] at stepEq
      split at stepEq
      · rename_i queues loaderEq
        rw [← Option.some.inj stepEq]
        exact balanced.setQueues loaderEq rfl
      · cases stepEq
  | unloadFromRemote id pos =>
      simp only [step] at stepEq
      split at stepEq
      · rename_i queues loaderEq
        rw [← Option.some.inj stepEq]
        exact balanced.setQueues loaderEq rfl
      · cases stepEq
  | update order entityChunk =>
      simp only [step] at stepEq
      split at stepEq
      · rename_i perm
        rw [← Option.some.inj stepEq]
        exact balanced.update entityChunk fun id mem => perm.mem_iff.mp mem
      · cases stepEq

/-- Load counts are the numbers of holders, chunks are loaded just while somebody holds
them, and none are left when no loader is. -/
def CountsAgree (within : TilePos → TilePos → TilePos → Bool) (state : LoaderSpace M) : Prop :=
  (∀ pos, (∀ chunkData ∈ state.space.chunks pos,
        chunkData.loadCount = holders within state.loaders state.attached pos) ∧
      (state.space.isLoaded pos = true ↔
        0 < holders within state.loaders state.attached pos)) ∧
    (state.attached = [] → ∀ pos, state.space.isLoaded pos = false)

omit [Inhabited M] in
theorem Balanced.countsAgree {state : LoaderSpace M} (balanced : Balanced within state) :
    CountsAgree within state := by
  have loaded : ∀ pos, state.space.isLoaded pos = true ↔
      0 < holders within state.loaders state.attached pos := by
    intro pos
    rw [VoxelSpace.isLoaded_eq_isSome_entry]
    exact (balanced.charged pos).isSome_iff
  constructor
  · intro pos
    constructor
    · intro chunkData present
      have charge := balanced.charged pos
      rw [VoxelSpace.entry, Option.mem_def.mp present, Option.map_some] at charge
      generalize holders within state.loaders state.attached pos = count at charge ⊢
      cases charge with
      | present => rfl
    · exact loaded pos
  · intro nobody pos
    rw [Bool.eq_false_iff, ne_eq, loaded pos, nobody]
    exact Nat.lt_irrefl 0

/-- **Load counts.**  In all runs of paired steps the load counts agree with the
loaders. -/
theorem countsAgree_of_run (within : TilePos → TilePos → TilePos → Bool)
    (generate : ChunkGenerator M) (kinds : Nat → LoaderKind) {actions : List LoaderAction}
    {state : LoaderSpace M}
    (paired : Guarded (step within generate) (Paired within) (initial kinds) actions)
    (runEq : run (step within generate) (initial kinds) actions = some state) :
    CountsAgree within state := by
  apply Balanced.countsAgree
  exact run_invariant (fun _ _ _ balanced here stepEq => balanced_step balanced here stepEq)
    (balanced_initial kinds) paired runEq

instance (within : TilePos → TilePos → TilePos → Bool) (state : LoaderSpace M) :
    (action : LoaderAction) → Decidable (Paired within state action)
  | .addChunkLoader _ => inferInstanceAs (Decidable (_ → _ = _))
  | .removeChunkLoader _ => inferInstanceAs (Decidable (_ → ∀ _ ∈ _, _ = _))
  | .removeChunk _ _ => inferInstanceAs (Decidable (_ → ¬_))
  | .addChunk .. | .loadFromRemote .. | .unloadFromRemote .. | .update .. => isTrue trivial

/-- `distance_metrics::L1`, on chunks that are near enough for it to be exact. -/
def withinL1 (pos center range : TilePos) : Bool :=
  (pos.x - center.x).natAbs + (pos.y - center.y).natAbs + (pos.z - center.z).natAbs ≤
    range.x.natAbs + range.y.natAbs + range.z.natAbs

/-- One loader of each kind. -/
def sampleKinds : Nat → LoaderKind
  | 0 => .point ⟨0, 0, 0⟩ ⟨1, 0, 0⟩
  | 1 => .multiChunk ⟨[⟨0, 0, 0⟩], by decide⟩
  | 2 => .entity ⟨0, 1, 0⟩
  | _ => .remote

/-- All generated chunks are alike. -/
def generateAlike : ChunkGenerator Unit :=
  fun _ _ _ => ⟨0, 0⟩

/-- Loaders of all kinds come and go while an entity moves. -/
def movingRun : List LoaderAction :=
  [.addChunkLoader 0, .addChunkLoader 1, .addChunkLoader 2, .addChunkLoader 3,
    .addChunk 1 ⟨1, 0, 0⟩, .loadFromRemote 3 ⟨5, 0, 0⟩,
    .update [0, 1, 2, 3] fun _ => some ⟨0, 0, 0⟩,
    .unloadFromRemote 3 ⟨5, 0, 0⟩, .update [3, 2, 1, 0] fun _ => some ⟨0, 1, 0⟩,
    .removeChunkLoader 2, .removeChunkLoader 0]

theorem countsAgree_movingRun :
    ∃ state, run (step withinL1 generateAlike) (initial sampleKinds) movingRun = some state ∧
      state.space.isLoaded ⟨1, 0, 0⟩ = true ∧ state.space.isLoaded ⟨0, 1, 0⟩ = false ∧
      CountsAgree withinL1 state := by
  refine ⟨_, rfl, by decide +kernel, by decide +kernel, ?_⟩
  have paired : Guarded (step withinL1 generateAlike) (Paired withinL1) (initial sampleKinds)
      movingRun := by
    decide +kernel
  exact countsAgree_of_run withinL1 generateAlike sampleKinds paired rfl

/-- A chunk is removed from a multi chunk loader that holds it. -/
def leakingRun : List LoaderAction :=
  [.addChunkLoader 1, .addChunk 1 ⟨1, 0, 0⟩, .update [1] fun _ => none,
    .removeChunk 1 ⟨1, 0, 0⟩, .removeChunkLoader 1]

/-- The chunk stays loaded although no loader is left. -/
theorem chunk_leaked :
    ∃ state, run (step withinL1 generateAlike) (initial sampleKinds) leakingRun = some state ∧
      state.attached = [] ∧ ¬CountsAgree withinL1 state := by
  refine ⟨_, rfl, by decide +kernel, ?_⟩
  intro agree
  have unloaded := agree.2 (by decide +kernel) ⟨1, 0, 0⟩
  exact absurd unloaded (by decide +kernel)

end LoaderSpace

end VoxelEngine.Voxel
