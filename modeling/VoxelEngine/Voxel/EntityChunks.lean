import VoxelEngine.Voxel.ChunkLoader
import VoxelEngine.Voxel.ChunkReach

/-!
# The chunks around an entity

An entity loader has loaded each chunk of a box around its center once more than it has unloaded
it, and each other chunk as often.  The calls that it makes are those by which the loaders of a
space are modelled.
-/

namespace VoxelEngine.Voxel

open VoxelEngine.Data VoxelEngine.Transition

/-- How a call changes the number of times that a chunk is held. -/
def LoaderCall.effect (pos : TilePos) : LoaderCall → Int
  | load chunk _ => if chunk = pos then 1 else 0
  | unload chunk => if chunk = pos then -1 else 0

/-- How often a chunk is held after some calls. -/
def held (calls : List LoaderCall) (pos : TilePos) : Int :=
  (calls.map (LoaderCall.effect pos)).sum

namespace EntityLoader

/-- The chunks that the loader has noted. -/
def noted (loader : EntityLoader) : List TilePos :=
  loader.loaded.entries.map Prod.fst

section Calls

variable {loader : EntityLoader} {calls : List LoaderCall} {pos : TilePos}
  {table other : HashTable TilePos UInt16}

/-! ## Calls -/

@[simp]
theorem held_append (first second : List LoaderCall) (pos : TilePos) :
    held (first ++ second) pos = held first pos + held second pos := by
  rw [held, List.map_append, List.sum_append]
  rfl

/-- Calls for different chunks. -/
theorem held_of_nodup {entries : List (TilePos × UInt16)} {toCall : TilePos × UInt16 → LoaderCall}
    {weight : Int}
    (effect_eq : ∀ entry, (toCall entry).effect pos = if entry.1 = pos then weight else 0)
    (distinct : (entries.map Prod.fst).Nodup) :
    held (entries.map toCall) pos = if pos ∈ entries.map Prod.fst then weight else 0 := by
  induction entries with
  | nil => rfl
  | cons entry rest ih =>
      rw [List.map_cons, List.nodup_cons] at distinct
      have split : held ((entry :: rest).map toCall) pos =
          (toCall entry).effect pos + held (rest.map toCall) pos := by
        rw [held, List.map_cons, List.map_cons, List.sum_cons]
        rfl
      rw [split, effect_eq, ih distinct.2, List.map_cons]
      by_cases here : entry.1 = pos
      · rw [here] at distinct
        rw [if_pos here, if_neg distinct.1, if_pos (by rw [here]; exact List.mem_cons_self),
          add_zero]
      · have mem_iff : pos ∈ entry.1 :: rest.map Prod.fst ↔ pos ∈ rest.map Prod.fst := by
          rw [List.mem_cons, or_iff_right (Ne.symm here)]
        rw [if_neg here, zero_add]
        simp only [mem_iff]

/-- The entries of a table whose keys are not in use in another one. -/
def missingFrom (table other : HashTable TilePos UInt16) : List (TilePos × UInt16) :=
  table.entries.filter fun entry => !other.contains entry.1

theorem map_missingFrom : (missingFrom table other).map Prod.fst =
    (table.entries.map Prod.fst).filter fun pos => decide (pos ∉ other.entries.map Prod.fst) := by
  rw [missingFrom, List.filter_map]
  congr 1
  apply List.filter_congr
  intro entry _
  rw [Function.comp_apply, decide_not, Bool.not_inj_iff, Bool.eq_iff_iff, decide_eq_true_iff]
  exact HashTable.contains_eq_true_iff

theorem nodup_missingFrom : ((missingFrom table other).map Prod.fst).Nodup := by
  rw [map_missingFrom]
  exact table.distinct.filter _

theorem mem_missingFrom_iff :
    pos ∈ (missingFrom table other).map Prod.fst ↔
      pos ∈ table.entries.map Prod.fst ∧ pos ∉ other.entries.map Prod.fst := by
  rw [map_missingFrom, List.mem_filter, decide_eq_true_iff]

/-- What the loader makes up for is the difference of what it has noted before and after. -/
theorem held_updateLoaded
    (balanced : ∀ pos, held calls pos = if pos ∈ loader.noted then 1 else 0)
    (newLoaded : HashTable TilePos UInt16) (pos : TilePos) :
    held (calls ++ (loader.updateLoaded newLoaded).2) pos =
      if pos ∈ newLoaded.entries.map Prod.fst then 1 else 0 := by
  have unloads := @held_of_nodup pos (missingFrom loader.loaded newLoaded)
    (fun entry => .unload entry.1) (-1) (fun _ => rfl) nodup_missingFrom
  have loads := @held_of_nodup pos (missingFrom newLoaded loader.loaded)
    (fun entry => .load entry.1 entry.2) 1 (fun _ => rfl) nodup_missingFrom
  simp only [mem_missingFrom_iff] at unloads loads
  have calls_eq : (loader.updateLoaded newLoaded).2 =
      (missingFrom loader.loaded newLoaded).map (fun entry => .unload entry.1) ++
        (missingFrom newLoaded loader.loaded).map fun entry => .load entry.1 entry.2 :=
    rfl
  rw [calls_eq, held_append, held_append, balanced, unloads, loads, noted]
  by_cases before : pos ∈ loader.loaded.entries.map Prod.fst <;>
    by_cases after : pos ∈ newLoaded.entries.map Prod.fst <;>
      simp only [before, after, not_true_eq_false, not_false_eq_true, and_true, and_false, if_true,
        if_false] <;> rfl

theorem held_stopLoading
    (balanced : ∀ pos, held calls pos = if pos ∈ loader.noted then 1 else 0) (pos : TilePos) :
    held (calls ++ loader.stopLoading.2) pos = 0 ∧ loader.stopLoading.1.noted = [] := by
  rw [stopLoading]
  split
  · rename_i isEmpty
    have none : loader.noted = [] := by
      rw [noted, List.isEmpty_iff.mp isEmpty, List.map_nil]
    rw [List.append_nil, balanced, none]
    exact ⟨rfl, rfl⟩
  · rw [held_updateLoaded balanced]
    exact ⟨rfl, rfl⟩

end Calls

section Updates

variable {metric : DistanceMetric} {toPriority : TilePos → TilePos → UInt16}

/-- The chunks that an update notes are those of the box around the center. -/
@[simp]
theorem map_newLoaded (center range : TilePos) :
    (newLoaded metric toPriority center range).entries.map Prod.fst =
      (ChunkLoader.reach metric.within center range).1 := by
  have keys_eq : ∀ positions : List TilePos, (positions.map fun pos =>
      (pos, min normalPriority (toPriority pos center))).map Prod.fst = positions := by
    intro positions
    rw [List.map_map]
    exact List.map_id positions
  rw [newLoaded, HashTable.entries_emplaceAll_of_nodup]
  · exact keys_eq _
  · change (List.map Prod.fst (List.map _ _)).Nodup
    rw [keys_eq]
    exact (nodup_spatialPositions center range).filter _

@[simp]
theorem mem_newLoaded_iff {center range pos : TilePos} :
    pos ∈ (newLoaded metric toPriority center range).entries.map Prod.fst ↔
      pos ∈ spatialPositions center range := by
  rw [map_newLoaded, ChunkLoader.reach, List.mem_filter]
  exact and_iff_left_of_imp DistanceMetric.within_of_mem

end Updates

section Space

variable {M : Type} [Inhabited M] {metric : DistanceMetric}
  {toPriority : TilePos → TilePos → UInt16} {generate : ChunkGenerator M}

/-! ## The space -/

/-- The space after a call. -/
def applyCall (generate : ChunkGenerator M) (space : VoxelSpace M) : LoaderCall → VoxelSpace M
  | .load chunk _ => space.loadChunk generate chunk
  | .unload chunk => space.unloadChunk chunk

/-- The loader as one of those that a space can have. -/
def toChunkLoader (loader : EntityLoader) : ChunkLoader :=
  .entity loader.range ⟨loader.noted, loader.loaded.distinct⟩

/-- The calls for a new table are those that turn the space into what it is then. -/
theorem applyCalls_updateLoaded (loader : EntityLoader) (newLoaded : HashTable TilePos UInt16)
    (space : VoxelSpace M) :
    (loader.updateLoaded newLoaded).2.foldl (applyCall generate) space =
      VoxelEngine.Voxel.updateLoaded generate space ⟨loader.noted, loader.loaded.distinct⟩
        ⟨newLoaded.entries.map Prod.fst, newLoaded.distinct⟩ := by
  have calls_eq : (loader.updateLoaded newLoaded).2 =
      (missingFrom loader.loaded newLoaded).map (fun entry => .unload entry.1) ++
        (missingFrom newLoaded loader.loaded).map fun entry => .load entry.1 entry.2 :=
    rfl
  have space_eq : VoxelEngine.Voxel.updateLoaded generate space
      ⟨loader.noted, loader.loaded.distinct⟩
      ⟨newLoaded.entries.map Prod.fst, newLoaded.distinct⟩ =
        (space.unloadAll ((missingFrom loader.loaded newLoaded).map Prod.fst)).loadAll generate
          ((missingFrom newLoaded loader.loaded).map Prod.fst) := by
    rw [map_missingFrom, map_missingFrom]
    rfl
  rw [calls_eq, space_eq, List.foldl_append, List.foldl_map, List.foldl_map, VoxelSpace.loadAll,
    VoxelSpace.unloadAll, List.foldl_map, List.foldl_map]
  rfl

variable (metric) in
theorem toChunkLoader_stopLoading (loader : EntityLoader) (space : VoxelSpace M) :
    loader.toChunkLoader.stopLoading metric.within generate space =
      (loader.stopLoading.1.toChunkLoader,
        loader.stopLoading.2.foldl (applyCall generate) space) := by
  have empty_iff : loader.noted.isEmpty = loader.loaded.entries.isEmpty := List.isEmpty_map
  rw [toChunkLoader, ChunkLoader.stopLoading, stopLoading]
  simp only [empty_iff]
  split
  · rfl
  · rw [applyCalls_updateLoaded]
    rfl

/-- Updating the loader is what the loaders of a space do when they are updated. -/
theorem toChunkLoader_update (loader : EntityLoader) (position : Option EntityPosition)
    (space : VoxelSpace M) :
    loader.toChunkLoader.update metric.within generate (position.map EntityPosition.center) space =
      ((loader.update metric toPriority position).1.toChunkLoader,
        (loader.update metric toPriority position).2.foldl (applyCall generate) space) := by
  cases position with
  | none => exact toChunkLoader_stopLoading metric loader space
  | some position =>
      have reach_eq : ChunkLoader.reach metric.within position.center loader.range =
          ⟨(newLoaded metric toPriority position.center loader.range).entries.map Prod.fst,
            (newLoaded metric toPriority position.center loader.range).distinct⟩ :=
        Subtype.ext (map_newLoaded position.center loader.range).symm
      rw [update, applyCalls_updateLoaded, toChunkLoader, Option.map_some, ChunkLoader.update,
        reach_eq]
      rfl

end Space

end EntityLoader

/-! ## Runs -/

namespace EntityScene

/-- Nothing is loaded. -/
def initial (range : TilePos) (position : Option EntityPosition) : EntityScene :=
  ⟨EntityLoader.create range, position, []⟩

/-- An update leaves just the chunks held that are near enough to that of the entity, each of them
once.  If there is none, or if loading is stopped, then no chunk is held. -/
def Follows (metric : DistanceMetric) (toPriority : TilePos → TilePos → UInt16)
    (scene : EntityScene) (made : EntityAction) : Prop :=
  ∀ next, step metric toPriority scene made = some next →
    match made, scene.position with
    | .update, some position => ∀ pos, held next.calls pos =
        if metric.within pos position.chunk scene.loader.range then 1 else 0
    | .update, none => ∀ pos, held next.calls pos = 0
    | .stopLoading, _ => ∀ pos, held next.calls pos = 0
    | _, _ => True

/-- If the loader is updated, then rounding does not matter for the position of the entity, and
the box of the loader contains all chunks that are near enough to its center. -/
def CanFollow (metric : DistanceMetric) (scene : EntityScene) (made : EntityAction) : Prop :=
  match made with
  | .update => ∀ position, scene.position = some position →
      position.Centered ∧ metric.Covers scene.loader.range
  | _ => True

/-- Each chunk that the loader has noted is held once, and no other one is. -/
def Balanced (scene : EntityScene) : Prop :=
  ∀ pos, held scene.calls pos = if pos ∈ scene.loader.noted then 1 else 0

variable {metric : DistanceMetric} {toPriority : TilePos → TilePos → UInt16}
  {scene next : EntityScene} {made : EntityAction}

/-- An update in the presence of the entity leaves the box around the center held. -/
theorem Balanced.held_update (balanced : scene.Balanced) {position : EntityPosition}
    (here : scene.position = some position)
    (stepEq : step metric toPriority scene .update = some next) (pos : TilePos) :
    held next.calls pos =
      if pos ∈ spatialPositions position.center scene.loader.range then 1 else 0 := by
  rcases stepEq with ⟨rfl⟩
  rw [here]
  change held (scene.calls ++ (scene.loader.updateLoaded _).2) pos = _
  rw [EntityLoader.held_updateLoaded balanced]
  simp only [EntityLoader.mem_newLoaded_iff]

theorem Balanced.step (balanced : scene.Balanced)
    (stepEq : EntityScene.step metric toPriority scene made = some next) : next.Balanced := by
  have stopped : (scene.record scene.loader.stopLoading).Balanced := by
    intro pos
    rcases EntityLoader.held_stopLoading balanced pos with ⟨none, noted_eq⟩
    change held (scene.calls ++ scene.loader.stopLoading.2) pos =
      if pos ∈ scene.loader.stopLoading.1.noted then 1 else 0
    rw [none, noted_eq]
    rfl
  cases made with
  | place position =>
      rcases stepEq with ⟨rfl⟩
      exact balanced
  | removeTransform =>
      rcases stepEq with ⟨rfl⟩
      exact balanced
  | stopLoading =>
      rcases stepEq with ⟨rfl⟩
      exact stopped
  | update =>
      rcases stepEq with ⟨rfl⟩
      cases scene.position with
      | none => exact stopped
      | some position =>
          intro pos
          exact EntityLoader.held_updateLoaded balanced _ pos

theorem indicator_eq_iff {p q : Prop} [Decidable p] [Decidable q] :
    ((if p then 1 else 0 : Int) = if q then 1 else 0) ↔ (p ↔ q) := by
  by_cases left : p <;> by_cases right : q <;> simp [left, right]

/-- An action is followed exactly if the loader can follow. -/
theorem Balanced.follows_iff (balanced : scene.Balanced) :
    scene.Follows metric toPriority made ↔ scene.CanFollow metric made := by
  cases made with
  | place position => exact iff_of_true (fun _ _ => trivial) trivial
  | removeTransform => exact iff_of_true (fun _ _ => trivial) trivial
  | stopLoading =>
      refine iff_of_true ?_ trivial
      rintro next ⟨rfl⟩ pos
      exact (EntityLoader.held_stopLoading balanced pos).1
  | update =>
      cases here : scene.position with
      | none =>
          constructor
          · intro _ position other
            cases here.symm.trans other
          · rintro _ next stepEq
            rw [here]
            intro pos
            rcases stepEq with ⟨rfl⟩
            rw [here]
            exact (EntityLoader.held_stopLoading balanced pos).1
      | some position =>
          have follows_iff : scene.Follows metric toPriority .update ↔
              ∀ pos, pos ∈ spatialPositions position.center scene.loader.range ↔
                metric.within pos position.chunk scene.loader.range = true := by
            rw [Follows, here]
            constructor
            · intro follows pos
              have box := @Balanced.held_update metric toPriority _ _ balanced _ here rfl pos
              exact indicator_eq_iff.mp (box.symm.trans (follows _ rfl pos))
            · intro same next stepEq pos
              rw [balanced.held_update here stepEq]
              exact indicator_eq_iff.mpr (same pos)
          rw [follows_iff, DistanceMetric.box_eq_within_iff, center_eq_chunk_iff]
          constructor
          · intro centered other otherEq
            cases here.symm.trans otherEq
            exact centered
          · intro canFollow
            exact canFollow position here

/-- Whatever happens to the entity, each update leaves just the chunks held that are near enough
to that of the entity, each of them once, exactly if rounding does not matter for the positions at
which the loader is updated, and its box contains all chunks that are near enough to its center.
No chunk is held after an update without the entity, or after loading was stopped. -/
theorem follows_iff_canFollow (metric : DistanceMetric)
    (toPriority : TilePos → TilePos → UInt16) (range : TilePos)
    (position : Option EntityPosition) (actions : List EntityAction) :
    (∀ before made after middle, actions = before ++ made :: after →
        run (step metric toPriority) (initial range position) before = some middle →
          middle.Follows metric toPriority made) ↔
      Guarded (step metric toPriority) (CanFollow metric) (initial range position) actions := by
  have start : (initial range position).Balanced := fun _ => rfl
  have progress : ∀ scene made, Balanced scene → True →
      ∃ next, step metric toPriority scene made = some next ∧ next.Balanced := by
    intro scene made balanced _
    have possible : (step metric toPriority scene made).isSome = true := by
      cases made <;> rfl
    rcases Option.isSome_iff_exists.mp possible with ⟨next, stepEq⟩
    exact ⟨next, stepEq, balanced.step stepEq⟩
  rcases exists_run progress start (guarded_true _ _ actions) with ⟨final, runEq, _⟩
  apply @each_safe_iff_guarded _ _ (step metric toPriority) (CanFollow metric)
    (Follows metric toPriority) Balanced
  · intro scene made _ next balanced _ stepEq
    exact balanced.step stepEq
  · intro scene made _ next balanced _
    exact balanced.follows_iff
  · exact start
  · exact runEq

/-- What an action does to the entity, to its loader among the loaders of a space, and to the
space. -/
def follow {M : Type} [Inhabited M] (metric : DistanceMetric) (generate : ChunkGenerator M) :
    Option EntityPosition × ChunkLoader × VoxelSpace M → EntityAction →
      Option EntityPosition × ChunkLoader × VoxelSpace M
  | (_, attached), .place position => (some position, attached)
  | (_, attached), .removeTransform => (none, attached)
  | (position, loader, space), .update =>
      (position, loader.update metric.within generate (position.map EntityPosition.center) space)
  | (position, loader, space), .stopLoading =>
      (position, loader.stopLoading metric.within generate space)

/-- The scene with the space that its calls have led to. -/
def withSpace {M : Type} [Inhabited M] (generate : ChunkGenerator M) (space : VoxelSpace M)
    (scene : EntityScene) : Option EntityPosition × ChunkLoader × VoxelSpace M :=
  (scene.position, scene.loader.toChunkLoader,
    scene.calls.foldl (EntityLoader.applyCall generate) space)

theorem withSpace_record {M : Type} [Inhabited M] (generate : ChunkGenerator M)
    (space : VoxelSpace M) (scene : EntityScene) (made : EntityLoader × List LoaderCall) :
    (scene.record made).withSpace generate space =
      (scene.position, made.1.toChunkLoader, made.2.foldl (EntityLoader.applyCall generate)
        (scene.calls.foldl (EntityLoader.applyCall generate) space)) := by
  rw [← List.foldl_append]
  rfl

theorem withSpace_step {M : Type} [Inhabited M] (generate : ChunkGenerator M)
    (space : VoxelSpace M) (stepEq : step metric toPriority scene made = some next) :
    next.withSpace generate space =
      follow metric generate (scene.withSpace generate space) made := by
  cases made with
  | place position =>
      rcases stepEq with ⟨rfl⟩
      rfl
  | removeTransform =>
      rcases stepEq with ⟨rfl⟩
      rfl
  | update =>
      rcases stepEq with ⟨rfl⟩
      exact (scene.withSpace_record generate space _).trans
        (congrArg (Prod.mk scene.position)
          (scene.loader.toChunkLoader_update scene.position _).symm)
  | stopLoading =>
      rcases stepEq with ⟨rfl⟩
      exact (scene.withSpace_record generate space _).trans
        (congrArg (Prod.mk scene.position)
          (EntityLoader.toChunkLoader_stopLoading metric scene.loader _).symm)

/-- Whatever happens to the entity, its loader makes the calls that turn the space into what a
loader of the space turns it into. -/
theorem withSpace_run {M : Type} [Inhabited M] (metric : DistanceMetric)
    (toPriority : TilePos → TilePos → UInt16) (generate : ChunkGenerator M) (space : VoxelSpace M)
    (range : TilePos) (position : Option EntityPosition) (actions : List EntityAction) :
    (run (step metric toPriority) (initial range position) actions).map
        (withSpace generate space) =
      some (actions.foldl (follow metric generate)
        (position, (LoaderKind.entity range).construct, space)) := by
  have each (scene : EntityScene) :
      (run (step metric toPriority) scene actions).map (withSpace generate space) =
        some (actions.foldl (follow metric generate) (scene.withSpace generate space)) := by
    induction actions generalizing scene with
    | nil => rfl
    | cons action rest ih =>
        have possible : (step metric toPriority scene action).isSome = true := by
          cases action <;> rfl
        rcases Option.isSome_iff_exists.mp possible with ⟨next, stepEq⟩
        rw [run_cons, stepEq, Option.bind_some, ih, List.foldl_cons,
          withSpace_step generate space stepEq]
  exact each (initial range position)

/-- The entity is in the chunk before the origin, but the loader takes the one at the origin for
the center.  And a box that is larger than the smallest ones leaves out chunks that are near
enough. -/
theorem chunks_left_out :
    ¬(initial ⟨1, 1, 1⟩ (some ⟨-1, 0, 0⟩)).Follows .L2 (fun _ _ => 0) .update ∧
      ¬(initial ⟨3, 3, 3⟩ (some ⟨0, 0, 0⟩)).Follows .L2 (fun _ _ => 0) .update := by
  have start : ∀ range position, (initial range position).Balanced := fun _ _ _ => rfl
  constructor
  · intro follows
    have near := follows _ rfl ⟨-2, 0, 0⟩
    rw [(start _ _).held_update rfl rfl] at near
    revert near
    decide +kernel
  · intro follows
    have near := follows _ rfl ⟨4, 0, 0⟩
    rw [(start _ _).held_update rfl rfl] at near
    revert near
    decide +kernel

end EntityScene

end VoxelEngine.Voxel
