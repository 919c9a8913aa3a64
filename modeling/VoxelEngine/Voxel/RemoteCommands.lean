import VoxelEngine.Voxel.ReplicatedChunk

/-!
# Commands to a remote loader

A remote loader is told to load and to unload chunks, and carries that out when it is
updated.  It holds the chunks for which the last command was a load, with the tiles that
came with it, if no chunk waits both to be loaded and to be unloaded when the loader is
updated, and no tiles come for a chunk for which other tiles are waiting.
-/

namespace VoxelEngine.Voxel

open VoxelEngine.Transition

/-- The calls of a remote loader. -/
inductive LoaderCommand where
  | loadFromRemote (pos : TilePos) (data : ChunkData)
  | unloadFromRemote (pos : TilePos)
  | update

/-- The tiles that came with the last command for a chunk, if it was a load. -/
def LoaderCommand.told (pos : TilePos) (last : Option ChunkData) :
    LoaderCommand → Option ChunkData
  | .loadFromRemote loaded data => if loaded = pos then some data else last
  | .unloadFromRemote unloaded => if unloaded = pos then none else last
  | .update => last

namespace RemoteLoader

variable {M : Type}

/-- A loader that is attached to an empty space whose generator it is. -/
def attached : RemoteLoader × VoxelSpace M :=
  (empty, VoxelSpace.empty)

/-- The transition relation of a loader that is attached to a space. -/
def step [Inhabited M] : Step (RemoteLoader × VoxelSpace M) LoaderCommand
  | state, .loadFromRemote pos data => some (state.1.loadFromRemote pos data, state.2)
  | state, .unloadFromRemote pos => some (state.1.unloadFromRemote pos, state.2)
  | state, .update => state.1.update state.2

/-- The commands that a loader carries out as they are meant.  A chunk that is not loaded
gets no other tiles than those that are waiting for it, and a loader is not updated while
a chunk waits to be loaded and to be unloaded. -/
def Sensible (state : RemoteLoader × VoxelSpace M) : LoaderCommand → Prop
  | .loadFromRemote pos data =>
      pos ∉ state.1.queues.loaded.1 → ∀ waiting, state.1.data pos = some waiting → waiting = data
  | .unloadFromRemote _ => True
  | .update => ∀ pos ∈ state.1.queues.pending.1, pos ∉ state.1.queues.unloaded.1

/-- After an update the loader holds the chunks that it was last told to load, and these
are the ones that are there.  Those that were not there before have the tiles that came
with the last command. -/
structure CarriedOut (told : TilePos → Option ChunkData)
    (before after : RemoteLoader × VoxelSpace M) : Prop where
  held : ∀ pos, pos ∈ after.1.queues.loaded.1 ↔ (told pos).isSome = true
  there : ∀ pos, after.2.isLoaded pos = true ↔ pos ∈ after.1.queues.loaded.1
  tiles : ∀ pos, before.2.isLoaded pos = false → after.2.isLoaded pos = true →
    after.2.stored pos = told pos

end RemoteLoader

namespace RemoteChunk

/-- What a loader that only got sensible commands keeps of a chunk, given the tiles that
came with the last command.  Nobody else holds the chunk. -/
structure Commanded (chunk : RemoteChunk) (told : Option ChunkData) : Prop where
  tended : Tended chunk.entry chunk.loaded.toNat 0
  obeyed : told.isSome = (chunk.pending || (chunk.loaded && !chunk.unloaded))
  given : chunk.pending = true → chunk.loaded = false → chunk.data = told
  spent : chunk.pending = false → chunk.loaded = false ∨ chunk.unloaded = true →
    chunk.data = none

variable {chunk : RemoteChunk} {told : Option ChunkData}

theorem Commanded.loadFromRemote (commanded : chunk.Commanded told) {data : ChunkData}
    (same : chunk.loaded = false → ∀ waiting, chunk.data = some waiting → waiting = data) :
    (chunk.loadFromRemote data).Commanded (some data) := by
  constructor
  · exact commanded.tended
  · rfl
  · intro _ notLoaded
    change some (chunk.data.getD data) = some data
    cases waitingEq : chunk.data with
    | none => rfl
    | some waiting => rw [Option.getD_some, same notLoaded waiting waitingEq]
  · exact nofun

theorem Commanded.unloadFromRemote (commanded : chunk.Commanded told) :
    chunk.unloadFromRemote.Commanded none := by
  constructor
  · exact commanded.tended
  · simp [RemoteChunk.unloadFromRemote]
  · intro pendingEq
    cases pendingEq
  · exact fun _ _ => rfl

/-- The update of a chunk that does not wait for two things does what was told last. -/
theorem Commanded.update (commanded : chunk.Commanded told)
    (once : chunk.pending = true → chunk.unloaded = false) :
    ∃ next, chunk.update = some next ∧ next.Commanded told ∧ next.pending = false ∧
      next.unloaded = false ∧
      (chunk.entry = none → ∀ found, next.entry = some found → some found.1.data = told) := by
  rcases commanded with ⟨tended, obeyed, given, spent⟩
  rcases chunk with ⟨pending, loaded, unloaded, data, entry⟩
  cases pending with
  | true =>
      have unloadedEq : unloaded = false := once rfl
      cases loaded with
      | true =>
          refine ⟨⟨false, true, false, data, entry⟩, ?_, ⟨tended, ?_, nofun, nofun⟩, rfl, rfl, ?_⟩
          · rw [unloadedEq]
            rfl
          · exact obeyed
          · intro absent found present
            rw [show entry = none from absent] at present
            cases present
      | false =>
          have entryEq : entry = none := tended.eq_none
          rcases Option.isSome_iff_exists.mp obeyed with ⟨tiles, rfl⟩
          have dataEq : data = some tiles := given rfl rfl
          rw [entryEq] at tended
          refine ⟨⟨false, true, false, none, some (Chunk.create tiles, 1)⟩, ?_,
            ⟨tended.load tiles, rfl, nofun, ?_⟩, rfl, rfl, ?_⟩
          · rw [unloadedEq, dataEq, entryEq]
            rfl
          · exact fun _ _ => rfl
          · intro _ found present
            rw [← Option.some.inj present]
            rfl
  | false =>
      cases unloaded with
      | false =>
          refine ⟨⟨false, loaded, false, data, entry⟩, rfl, ⟨tended, obeyed, nofun, ?_⟩, rfl, rfl,
            ?_⟩
          · exact fun _ idle => spent rfl idle
          · intro absent found present
            rw [show entry = none from absent] at present
            cases present
      | true =>
          have dataEq : data = none := spent rfl (Or.inr rfl)
          have toldEq : told.isSome = false := by
            rw [obeyed]
            simp
          cases loaded with
          | false =>
              refine ⟨⟨false, false, false, data, entry⟩, rfl, ⟨tended, toldEq, nofun, ?_⟩,
                rfl, rfl, ?_⟩
              · exact fun _ _ => dataEq
              · intro absent found present
                rw [show entry = none from absent] at present
                cases present
          | true =>
              refine ⟨⟨false, false, false, data, VoxelSpace.unloadedEntry entry⟩, rfl,
                ⟨tended.unload, toldEq, nofun, ?_⟩, rfl, rfl, ?_⟩
              · exact fun _ _ => dataEq
              · intro absent found present
                rw [show entry = none from absent] at present
                cases present

end RemoteChunk

namespace RemoteLoader

variable {M : Type} [Inhabited M]

/-- Every chunk is as the commands for it made it. -/
def AllCommanded (told : TilePos → Option ChunkData) (state : RemoteLoader × VoxelSpace M) :
    Prop :=
  ∀ pos, (chunkAt state pos).Commanded (told pos)

variable {told : TilePos → Option ChunkData} {state next : RemoteLoader × VoxelSpace M}

/-- A sensible update is possible, and does what was told. -/
theorem AllCommanded.update (commanded : AllCommanded told state)
    (once : Sensible state .update) :
    ∃ next, state.1.update state.2 = some next ∧ AllCommanded told next ∧
      CarriedOut told state next := by
  have each : ∀ pos, ∃ chunk, (chunkAt state pos).update = some chunk ∧
      chunk.Commanded (told pos) ∧ chunk.pending = false ∧ chunk.unloaded = false ∧
      ((chunkAt state pos).entry = none →
        ∀ found, chunk.entry = some found → some found.1.data = told pos) := by
    intro pos
    apply (commanded pos).update
    intro pending
    exact decide_eq_false (once pos (of_decide_eq_true pending))
  have passes : (state.1.update state.2).isSome = true := by
    apply isSome_update
    intro pos
    rcases each pos with ⟨chunk, chunkEq, _⟩
    rw [chunkEq, Option.isSome_some]
  rcases Option.isSome_iff_exists.mp passes with ⟨next, updateEq⟩
  have after : ∀ pos, (chunkAt next pos).Commanded (told pos) ∧
      (chunkAt next pos).pending = false ∧ (chunkAt next pos).unloaded = false ∧
      ((chunkAt state pos).entry = none →
        ∀ found, (chunkAt next pos).entry = some found → some found.1.data = told pos) := by
    intro pos
    rcases each pos with ⟨chunk, chunkEq, rest⟩
    rw [chunkAt_update updateEq pos, Option.some.injEq] at chunkEq
    rw [chunkEq]
    exact rest
  have held : ∀ pos, (chunkAt next pos).loaded = (told pos).isSome := by
    intro pos
    rcases after pos with ⟨kept, noLoad, noUnload, _⟩
    rw [kept.obeyed, noLoad, noUnload]
    simp
  refine ⟨next, updateEq, fun pos => (after pos).1, ?_, ?_, ?_⟩
  · intro pos
    rw [← held pos]
    exact decide_eq_true_iff.symm
  · intro pos
    have tended := (after pos).1.tended
    rw [VoxelSpace.isLoaded_eq_isSome_entry]
    change (chunkAt next pos).entry.isSome = true ↔ _
    by_cases loaded : pos ∈ next.1.queues.loaded.1
    · rw [show (chunkAt next pos).loaded = true from decide_eq_true loaded] at tended
      generalize (chunkAt next pos).entry = entry at tended
      cases tended with
      | present chunk _ _ _ _ _ => simp [loaded]
    · rw [show (chunkAt next pos).loaded = false from decide_eq_false loaded] at tended
      rw [tended.eq_none]
      simp [loaded]
  · intro pos absent there
    rw [VoxelSpace.isLoaded_eq_isSome_entry] at absent there
    rw [Option.isSome_eq_false_iff, Option.isNone_iff_eq_none] at absent
    rcases Option.isSome_iff_exists.mp there with ⟨found, foundEq⟩
    rw [VoxelSpace.stored_eq_map_entry, foundEq]
    exact (after pos).2.2.2 absent found foundEq

/-- A sensible command is carried out or noted. -/
theorem AllCommanded.step (commanded : AllCommanded told state) {command : LoaderCommand}
    (sensible : Sensible state command) :
    ∃ next, RemoteLoader.step state command = some next ∧
      AllCommanded (fun pos => command.told pos (told pos)) next := by
  cases command with
  | loadFromRemote chunkpos data =>
      refine ⟨_, rfl, ?_⟩
      intro pos
      change (chunkAt _ pos).Commanded (if chunkpos = pos then some data else told pos)
      rw [chunkAt_loadFromRemote]
      split
      · rename_i pos_eq
        apply (commanded pos).loadFromRemote
        intro notLoaded waiting waitingEq
        rw [← pos_eq] at notLoaded waitingEq
        exact sensible (of_decide_eq_false notLoaded) waiting waitingEq
      · exact commanded pos
  | unloadFromRemote chunkpos =>
      refine ⟨_, rfl, ?_⟩
      intro pos
      change (chunkAt _ pos).Commanded (if chunkpos = pos then none else told pos)
      rw [chunkAt_unloadFromRemote]
      split
      · exact (commanded pos).unloadFromRemote
      · exact commanded pos
  | update =>
      rcases commanded.update sensible with ⟨next, updateEq, nextCommanded, _⟩
      exact ⟨next, updateEq, nextCommanded⟩

/-- Sensible commands are all possible. -/
theorem AllCommanded.run (commanded : AllCommanded told state) {commands : List LoaderCommand}
    (sensible : Guarded RemoteLoader.step Sensible state commands) :
    ∃ final, Transition.run RemoteLoader.step state commands = some final ∧
      AllCommanded (fun pos => commands.foldl (LoaderCommand.told pos) (told pos)) final := by
  induction commands generalizing state told with
  | nil => exact ⟨state, rfl, commanded⟩
  | cons command rest ih =>
      rcases guarded_cons_iff.mp sensible with ⟨here, later⟩
      rcases commanded.step here with ⟨next, stepEq, nextCommanded⟩
      rcases ih nextCommanded (later next stepEq) with ⟨final, restRun, finalCommanded⟩
      exact ⟨final, (run_cons_eq_some_iff _ _ _ _ _).mpr ⟨next, stepEq, restRun⟩,
        finalCommanded⟩

omit [Inhabited M] in
theorem allCommanded_attached :
    AllCommanded (fun _ => none) (attached : RemoteLoader × VoxelSpace M) :=
  fun _ => ⟨Tended.absent, rfl, nofun, fun _ _ => rfl⟩

/-- After sensible commands an update is possible and does what was told last for each
chunk. -/
theorem carriedOut_of_sensible (commands : List LoaderCommand)
    (sensible : Guarded RemoteLoader.step Sensible (attached : RemoteLoader × VoxelSpace M)
      (commands ++ [.update])) :
    ∃ before after : RemoteLoader × VoxelSpace M,
      Transition.run RemoteLoader.step attached commands = some before ∧
      RemoteLoader.step before .update = some after ∧
      CarriedOut (fun pos => commands.foldl (LoaderCommand.told pos) none) before after := by
  rcases guarded_append_iff.mp sensible with ⟨first, last⟩
  rcases allCommanded_attached.run first with ⟨before, beforeRun, commanded⟩
  rcases commanded.update (guarded_cons_iff.mp (last before beforeRun)).1 with
    ⟨after, updateEq, _, carriedOut⟩
  exact ⟨before, after, beforeRun, updateEq, carriedOut⟩

/-- A check that a command is sensible, if no chunk gets tiles while others are waiting. -/
def plainlySensible (state : RemoteLoader × VoxelSpace M) : LoaderCommand → Bool
  | .loadFromRemote pos _ => (state.1.data pos).isNone
  | .unloadFromRemote _ => true
  | .update => state.1.queues.pending.1.all fun pos => decide (pos ∉ state.1.queues.unloaded.1)

omit [Inhabited M] in
theorem sensible_of_plainlySensible (state : RemoteLoader × VoxelSpace M)
    (command : LoaderCommand) (plain : plainlySensible state command = true) :
    Sensible state command := by
  cases command with
  | loadFromRemote pos data =>
      intro _ waiting waitingEq
      rw [plainlySensible, waitingEq] at plain
      cases plain
  | unloadFromRemote pos => trivial
  | update =>
      intro pos mem
      exact of_decide_eq_true (List.all_eq_true.mp plain pos mem)

/-- A chunk is loaded, unloaded, and loaded again with other tiles. -/
def reloading : List LoaderCommand :=
  [.loadFromRemote ⟨0, 0, 0⟩ fun _ => ⟨0, 0⟩, .update, .unloadFromRemote ⟨0, 0, 0⟩,
    .loadFromRemote ⟨1, 0, 0⟩ fun _ => ⟨0, 0⟩, .update, .loadFromRemote ⟨0, 0, 0⟩ fun _ => ⟨0, 1⟩]

/-- The commands of the reloaded chunk are carried out. -/
theorem carriedOut_reloading :
    ∃ before after : RemoteLoader × VoxelSpace Unit,
      Transition.run RemoteLoader.step attached reloading = some before ∧
      RemoteLoader.step before .update = some after ∧
      CarriedOut (fun pos => reloading.foldl (LoaderCommand.told pos) none) before after :=
  carriedOut_of_sensible reloading
    (Guarded.mono
      (show ∀ state command, plainlySensible state command = true → Sensible state command from
        sensible_of_plainlySensible)
      (by decide +kernel))

/-- A chunk is unloaded and loaded again without an update in between. -/
def hasty : List LoaderCommand :=
  [.loadFromRemote ⟨0, 0, 0⟩ fun _ => ⟨0, 0⟩, .update, .unloadFromRemote ⟨0, 0, 0⟩,
    .loadFromRemote ⟨0, 0, 0⟩ fun _ => ⟨0, 1⟩]

/-- Tiles come for a chunk for which other tiles are waiting. -/
def repeated : List LoaderCommand :=
  [.loadFromRemote ⟨0, 0, 0⟩ fun _ => ⟨0, 0⟩, .loadFromRemote ⟨0, 0, 0⟩ fun _ => ⟨0, 1⟩]

/-- The chunk of the hasty commands is lost, and the repeated ones leave the older tiles. -/
theorem commands_not_carriedOut :
    (∃ before after : RemoteLoader × VoxelSpace Unit,
      Transition.run RemoteLoader.step attached hasty = some before ∧
      RemoteLoader.step before .update = some after ∧
      ¬CarriedOut (fun pos => hasty.foldl (LoaderCommand.told pos) none) before after) ∧
    ∃ before after : RemoteLoader × VoxelSpace Unit,
      Transition.run RemoteLoader.step attached repeated = some before ∧
      RemoteLoader.step before .update = some after ∧
      ¬CarriedOut (fun pos => repeated.foldl (LoaderCommand.told pos) none) before after := by
  have lost : ((Transition.run RemoteLoader.step (attached : RemoteLoader × VoxelSpace Unit)
      hasty).bind fun before => (RemoteLoader.step before .update).map fun after =>
        decide (⟨0, 0, 0⟩ ∈ after.1.queues.loaded.1)) = some false := by
    decide +kernel
  have older : ((Transition.run RemoteLoader.step (attached : RemoteLoader × VoxelSpace Unit)
      repeated).bind fun before => (RemoteLoader.step before .update).map fun after =>
        (before.2.isLoaded ⟨0, 0, 0⟩, after.2.isLoaded ⟨0, 0, 0⟩,
          (after.2.stored ⟨0, 0, 0⟩).map fun data => data ⟨0, 0, 0⟩)) =
            some (false, true, some ⟨0, 0⟩) := by
    decide +kernel
  constructor
  · rcases Option.bind_eq_some_iff.mp lost with ⟨before, beforeRun, lost⟩
    rcases Option.map_eq_some_iff.mp lost with ⟨after, updateEq, lost⟩
    refine ⟨before, after, beforeRun, updateEq, ?_⟩
    intro carriedOut
    exact of_decide_eq_false lost ((carriedOut.held ⟨0, 0, 0⟩).mpr rfl)
  · rcases Option.bind_eq_some_iff.mp older with ⟨before, beforeRun, older⟩
    rcases Option.map_eq_some_iff.mp older with ⟨after, updateEq, older⟩
    simp only [Prod.mk.injEq] at older
    refine ⟨before, after, beforeRun, updateEq, ?_⟩
    intro carriedOut
    have tiles := older.2.2
    rw [carriedOut.tiles ⟨0, 0, 0⟩ older.1 older.2.1] at tiles
    exact absurd (Option.some.inj tiles) (by decide +kernel)

end RemoteLoader

end VoxelEngine.Voxel
