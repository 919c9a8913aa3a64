import VoxelEngine.Ecs.Synchronizer

/-!
# The synchronizer at a single cell

All loops of the synchronizer treat distinct entities and distinct component types
independently.  This file isolates what one connection does at one cell, and shows
that the update of a whole connection, restricted to one component type and one
entity, is exactly that.
-/

namespace VoxelEngine.Ecs

open VoxelEngine.ClientServer
open VoxelEngine.Data

variable {V : Type}

/-- Is the message about this component type at this entity? -/
def about (type : TypeHash) (entity : Entity) : CoreMessage → Bool
  | .setComponent _ otherType other | .undoComponent _ otherType other
  | .delComponent otherType other => otherType = type ∧ other = entity
  | _ => false

namespace Cell

/-- `update_serialized_values` at one cell. -/
def refresh (settings : SyncSettings V) (type : TypeHash) (synchronized : Bool)
    (cell : Cell V) : Cell V :=
  let serialized :=
    if cell.unserialized && synchronized then cell.serialize settings type else cell
  if serialized.outOfDate && synchronized then serialized.reserialize settings type
  else serialized

/-- `remove_destroyed_component_data` at one cell. -/
def prune (cell : Cell V) : Cell V :=
  if cell.removed then cell.dropCache else cell

/-- The messages one connection pushes about a cell that is already refreshed. -/
def messages (type : TypeHash) (entity : Entity) (status : Option VisibilityStatus)
    (syncTimerElapsed : Bool) (cell : Cell V) : List CoreMessage :=
  changeMessages type entity status syncTimerElapsed cell ++
    (if cell.removed then removalMessages type entity status syncTimerElapsed else [])

/-- `perform_update` at one cell. -/
def performUpdate (settings : SyncSettings V) (type : TypeHash) (entity : Entity)
    (status : Option VisibilityStatus) (syncTimerElapsed : Bool) (cell : Cell V) :
    Cell V × List CoreMessage :=
  let refreshed := cell.refresh settings type (synchronizedIn status syncTimerElapsed)
  (refreshed.prune, refreshed.messages type entity status syncTimerElapsed)

/-- The cell after the connections in `order` were served one after the other. -/
def serve (settings : SyncSettings V) (type : TypeHash) (entity : Entity)
    (statusFor : InstanceId → Option VisibilityStatus) (syncTimerElapsed : Bool)
    (order : List InstanceId) (cell : Cell V) : Cell V :=
  order.foldl
    (fun current remote =>
      (current.performUpdate settings type entity (statusFor remote) syncTimerElapsed).1)
    cell

@[simp]
theorem prune_prune (cell : Cell V) : cell.prune.prune = cell.prune := by
  rcases cell with ⟨component, syncCache, upToDate⟩
  cases component <;> cases syncCache <;> rfl

theorem prune_of_component {cell : Cell V} {value : V} (present : cell.component = some value) :
    cell.prune = cell := by
  simp [prune, removed, present]

theorem prune_of_removed {cell : Cell V} (absent : cell.component = none) :
    cell.prune = cell.dropCache := by
  rcases cell with ⟨component, syncCache, upToDate⟩
  cases absent
  cases syncCache <;> rfl

@[simp]
theorem refresh_false (settings : SyncSettings V) (type : TypeHash) (cell : Cell V) :
    cell.refresh settings type false = cell := by
  simp [refresh]

theorem refresh_of_removed (settings : SyncSettings V) (type : TypeHash) (synchronized : Bool)
    {cell : Cell V} (absent : cell.component = none) :
    cell.refresh settings type synchronized = cell := by
  simp [refresh, unserialized, outOfDate, absent]

/-- Do these bytes differ from the cached ones, as far as the digest can tell? -/
def differs (settings : SyncSettings V) (syncCache : Option SyncCache) (data : Bytes) : Bool :=
  match syncCache with
  | none => true
  | some cache => settings.digest cache.data != settings.digest data

/-- What a refresh leaves behind: the serialization of the component, and whether it is
news. -/
theorem refresh_of_component (settings : SyncSettings V) (type : TypeHash) {cell : Cell V}
    {value : V} (present : cell.component = some value) (stale : cell.upToDate = false) :
    cell.refresh settings type true =
      { component := some value
        syncCache := some
          { data := settings.toBytes type value
            changed := differs settings cell.syncCache (settings.toBytes type value) }
        upToDate := true } := by
  rcases cell with ⟨component, syncCache, upToDate⟩
  cases present
  cases stale
  cases syncCache <;> rfl

/-- A refreshed cell is not refreshed again in the same tick. -/
@[simp]
theorem refresh_refresh (settings : SyncSettings V) (type : TypeHash) (synchronized : Bool)
    (cell : Cell V) :
    (cell.refresh settings type true).refresh settings type synchronized =
      cell.refresh settings type true := by
  rcases cell with ⟨component, syncCache, upToDate⟩
  cases component <;> cases syncCache <;> cases upToDate <;> cases synchronized <;> rfl

@[simp]
theorem component_refresh (settings : SyncSettings V) (type : TypeHash) (synchronized : Bool)
    (cell : Cell V) : (cell.refresh settings type synchronized).component = cell.component := by
  rcases cell with ⟨component, syncCache, upToDate⟩
  cases component <;> cases syncCache <;> cases upToDate <;> cases synchronized <;> rfl

section Serve

variable (settings : SyncSettings V) (type : TypeHash) (entity : Entity)
  (statusFor : InstanceId → Option VisibilityStatus) (syncTimerElapsed : Bool)

/-- While the component is there, the first connection that synchronizes the entity
refreshes the cell for all of them. -/
theorem serve_of_component (order : List InstanceId) {cell : Cell V} {value : V}
    (present : cell.component = some value) :
    cell.serve settings type entity statusFor syncTimerElapsed order =
      if order.any fun remote => synchronizedIn (statusFor remote) syncTimerElapsed then
        cell.refresh settings type true
      else cell := by
  induction order generalizing cell with
  | nil => rfl
  | cons remote rest ih =>
      have stillPresent : ∀ synchronized,
          (cell.refresh settings type synchronized).component = some value := by simp [present]
      have head : (cell.performUpdate settings type entity (statusFor remote)
          syncTimerElapsed).1 =
            cell.refresh settings type (synchronizedIn (statusFor remote) syncTimerElapsed) :=
        prune_of_component (stillPresent _)
      rw [serve, List.foldl_cons, ← serve, head, ih (stillPresent _), List.any_cons]
      cases synchronizedIn (statusFor remote) syncTimerElapsed with
      | false => simp
      | true => simp [refresh_refresh]

/-- Once the component is gone, the first connection that is served drops its cache. -/
theorem serve_of_removed (order : List InstanceId) {cell : Cell V}
    (absent : cell.component = none) :
    cell.serve settings type entity statusFor syncTimerElapsed order =
      if order = [] then cell else cell.dropCache := by
  induction order generalizing cell with
  | nil => rfl
  | cons remote rest ih =>
      have head : (cell.performUpdate settings type entity (statusFor remote)
          syncTimerElapsed).1 = cell.dropCache := by
        simp only [performUpdate]
        rw [refresh_of_removed settings type _ absent, prune_of_removed absent]
      have stillAbsent : cell.dropCache.component = none := absent
      rw [serve, List.foldl_cons, ← serve, head, ih stillAbsent]
      cases rest <;> rfl

/-- Serving connections leaves the component alone. -/
@[simp]
theorem component_serve (order : List InstanceId) (cell : Cell V) :
    (cell.serve settings type entity statusFor syncTimerElapsed order).component =
      cell.component := by
  cases stored : cell.component with
  | none =>
      rw [serve_of_removed settings type entity statusFor syncTimerElapsed order stored]
      split
      · exact stored
      · exact stored
  | some value =>
      rw [serve_of_component settings type entity statusFor syncTimerElapsed order stored]
      split
      · rw [component_refresh, stored]
      · exact stored

/-- An entity is synchronized for the remotes that just began to see it, and for all
that see it once the timer has elapsed. -/
@[simp]
theorem isSynchronized_update (old : VisibilityStatus) (isVisible syncTimerElapsed : Bool) :
    isSynchronized (old.update isVisible) syncTimerElapsed =
      (isVisible && (syncTimerElapsed || !old.visibilityBit)) := by
  cases old <;> cases isVisible <;> cases syncTimerElapsed <;> rfl

theorem changeMessages_update {cell : Cell V} {cache : SyncCache}
    (cached : cell.syncCache = some cache) (old : VisibilityStatus)
    (isVisible syncTimerElapsed : Bool) :
    changeMessages type entity (some (old.update isVisible)) syncTimerElapsed cell =
      if isVisible && ((syncTimerElapsed && cache.changed) || !old.visibilityBit) then
        [.setComponent cache.data type entity]
      else [] := by
  rcases cache with ⟨data, changed⟩
  simp only [changeMessages, cached]
  cases old <;> cases isVisible <;> cases syncTimerElapsed <;> cases changed <;> rfl

theorem removalMessages_update (old : VisibilityStatus) (isVisible syncTimerElapsed : Bool) :
    removalMessages type entity (some (old.update isVisible)) syncTimerElapsed =
      if isVisible && (syncTimerElapsed || !old.visibilityBit) then [.delComponent type entity]
      else [] := by
  simp only [removalMessages, synchronizedIn, isSynchronized_update]

/-- What the first connection is told about a removed component: the stale value, unless
it is unchanged and known, and behind it the removal. -/
theorem messages_update_of_leftover {cell : Cell V} {cache : SyncCache}
    (absent : cell.component = none) (cached : cell.syncCache = some cache)
    (old : VisibilityStatus) (isVisible syncTimerElapsed : Bool) :
    cell.messages type entity (some (old.update isVisible)) syncTimerElapsed =
      (if isVisible && ((syncTimerElapsed && cache.changed) || !old.visibilityBit) then
          [.setComponent cache.data type entity]
        else []) ++
      if isVisible && (syncTimerElapsed || !old.visibilityBit) then [.delComponent type entity]
      else [] := by
  have leftover : cell.removed = true := by simp [removed, absent, cached]
  rw [messages, changeMessages_update type entity cached, if_pos leftover,
    removalMessages_update]

variable (status : Option VisibilityStatus)

theorem changeMessages_of_unsynchronized (cell : Cell V)
    (unsynchronized : synchronizedIn status syncTimerElapsed = false) :
    changeMessages type entity status syncTimerElapsed cell = [] := by
  cases status with
  | none => cases cache : cell.syncCache <;> simp [changeMessages, cache]
  | some status =>
      have notSynchronized : isSynchronized status syncTimerElapsed = false := unsynchronized
      cases cache : cell.syncCache <;> simp [changeMessages, cache, notSynchronized]

/-- While the component is there, a connection is only sent the refreshed value. -/
theorem messages_of_component (before : List InstanceId) {cell : Cell V} {value : V}
    (present : cell.component = some value) :
    ((cell.serve settings type entity statusFor syncTimerElapsed before).performUpdate
        settings type entity status syncTimerElapsed).2 =
      changeMessages type entity status syncTimerElapsed
        (cell.refresh settings type true) := by
  have notRemoved : ∀ synchronized, ((cell.serve settings type entity statusFor
      syncTimerElapsed before).refresh settings type synchronized).removed = false := by
    intro synchronized
    rw [serve_of_component settings type entity statusFor syncTimerElapsed before present]
    split <;> simp [removed, present]
  simp only [performUpdate, messages, notRemoved, Bool.false_eq_true, if_false,
    List.append_nil]
  cases synchronized : synchronizedIn status syncTimerElapsed with
  | false =>
      rw [changeMessages_of_unsynchronized type entity syncTimerElapsed status _ synchronized,
        changeMessages_of_unsynchronized type entity syncTimerElapsed status _ synchronized]
  | true =>
      rw [serve_of_component settings type entity statusFor syncTimerElapsed before present]
      split
      · rw [refresh_refresh]
      · rfl

/-- Once the component is gone, only the first connection hears about it. -/
theorem messages_of_removed (before : List InstanceId) {cell : Cell V}
    (absent : cell.component = none) :
    ((cell.serve settings type entity statusFor syncTimerElapsed before).performUpdate
        settings type entity status syncTimerElapsed).2 =
      if before = [] then cell.messages type entity status syncTimerElapsed else [] := by
  rw [serve_of_removed settings type entity statusFor syncTimerElapsed before absent]
  cases before with
  | nil =>
      simp only [performUpdate, if_true]
      rw [refresh_of_removed settings type _ absent]
  | cons first rest =>
      have dropped : cell.dropCache.component = none := absent
      simp only [performUpdate, reduceCtorEq, if_false]
      rw [refresh_of_removed settings type _ dropped]
      simp [messages, changeMessages, dropCache, removed]

end Serve

end Cell

@[simp]
theorem mem_viewOf_iff {statusOf : StatusView} {entities : List Entity}
    {cells : Entity → Cell V} {wanted : Cell V → Bool} {entity : Entity} :
    entity ∈ viewOf statusOf entities cells wanted ↔
      entity ∈ entities ∧ (statusOf entity).isSome ∧ wanted (cells entity) := by
  simp [viewOf]

theorem viewOf_nodup {statusOf : StatusView} {entities : List Entity} (nodup : entities.Nodup)
    (cells : Entity → Cell V) (wanted : Cell V → Bool) :
    (viewOf statusOf entities cells wanted).Nodup :=
  nodup.filter _

theorem isSome_of_synchronizedIn {status : Option VisibilityStatus} {syncTimerElapsed : Bool}
    (synchronized : synchronizedIn status syncTimerElapsed = true) : status.isSome := by
  cases status with
  | none => cases synchronized
  | some status => rfl

/-- A guarded loop over a view acts on each cell of the view on its own. -/
private theorem updateAll_view {statusOf : StatusView} {syncTimerElapsed : Bool}
    {entities : List Entity} (nodup : entities.Nodup) (cells : Entity → Cell V)
    (wanted : Cell V → Bool) (body : Cell V → Cell V) {entity : Entity}
    (mem : entity ∈ entities) :
    updateAll
        (fun other cell =>
          if synchronizedIn (statusOf other) syncTimerElapsed then body cell else cell)
        (viewOf statusOf entities cells wanted) cells entity =
      if wanted (cells entity) && synchronizedIn (statusOf entity) syncTimerElapsed then
        body (cells entity)
      else cells entity := by
  rw [updateAll_apply _ (viewOf_nodup nodup cells wanted)]
  simp only [mem_viewOf_iff, mem, true_and]
  cases synchronized : synchronizedIn (statusOf entity) syncTimerElapsed with
  | false => simp
  | true =>
      have present := isSome_of_synchronizedIn synchronized
      simp [present]

theorem updateSerializedValues_of_mem (settings : SyncSettings V) (type : TypeHash)
    (statusOf : StatusView) (syncTimerElapsed : Bool) {entities : List Entity}
    (nodup : entities.Nodup) (cells : Entity → Cell V) {entity : Entity}
    (mem : entity ∈ entities) :
    updateSerializedValues settings type statusOf syncTimerElapsed entities cells entity =
      (cells entity).refresh settings type
        (synchronizedIn (statusOf entity) syncTimerElapsed) := by
  simp only [updateSerializedValues, Cell.refresh]
  rw [updateAll_view nodup _ Cell.outOfDate (Cell.reserialize settings type) mem,
    updateAll_view nodup cells Cell.unserialized (Cell.serialize settings type) mem]

theorem removeDestroyedComponentData_of_mem {entities : List Entity} (nodup : entities.Nodup)
    (cells : Entity → Cell V) {entity : Entity} (mem : entity ∈ entities) :
    removeDestroyedComponentData entities cells entity = (cells entity).prune := by
  rw [removeDestroyedComponentData, updateAll_apply _ (nodup.filter _)]
  simp [mem, Cell.prune]

/-- Loops over live entities leave the cells of all others alone. -/
theorem removeDestroyedComponentData_of_notMem {entities : List Entity}
    (cells : Entity → Cell V) {entity : Entity} (notMem : entity ∉ entities) :
    removeDestroyedComponentData entities cells entity = cells entity :=
  updateAll_of_notMem _ (fun mem => notMem (List.mem_of_mem_filter mem)) cells

theorem updateSerializedValues_of_notMem (settings : SyncSettings V) (type : TypeHash)
    (statusOf : StatusView) (syncTimerElapsed : Bool) {entities : List Entity}
    (cells : Entity → Cell V) {entity : Entity} (notMem : entity ∉ entities) :
    updateSerializedValues settings type statusOf syncTimerElapsed entities cells entity =
      cells entity := by
  have outside : ∀ (column : Entity → Cell V) (wanted : Cell V → Bool),
      entity ∉ viewOf statusOf entities column wanted := fun column wanted mem =>
    notMem (mem_viewOf_iff.mp mem).1
  simp only [updateSerializedValues]
  rw [updateAll_of_notMem _ (outside _ _), updateAll_of_notMem _ (outside _ _)]

/-! ## Messages about one cell -/

theorem about_of_mem_changeMessages {type : TypeHash} {entity : Entity}
    {status : Option VisibilityStatus} {syncTimerElapsed : Bool} {cell : Cell V}
    {message : CoreMessage}
    (mem : message ∈ changeMessages type entity status syncTimerElapsed cell) :
    ∃ data, message = .setComponent data type entity := by
  unfold changeMessages at mem
  split at mem
  · split at mem
    · simp at mem
    · split at mem
      · simp at mem
      · exact ⟨_, List.mem_singleton.mp mem⟩
  · simp at mem

theorem about_of_mem_removalMessages {type : TypeHash} {entity : Entity}
    {status : Option VisibilityStatus} {syncTimerElapsed : Bool} {message : CoreMessage}
    (mem : message ∈ removalMessages type entity status syncTimerElapsed) :
    message = .delComponent type entity := by
  unfold removalMessages at mem
  split at mem
  · exact List.mem_singleton.mp mem
  · simp at mem

theorem filter_addChangesToMessage (type : TypeHash) (statusOf : StatusView)
    (syncTimerElapsed : Bool) {entities : List Entity} (nodup : entities.Nodup)
    (cells : Entity → Cell V) {entity : Entity} (mem : entity ∈ entities) :
    (addChangesToMessage type statusOf syncTimerElapsed entities cells).filter
        (about type entity) =
      changeMessages type entity (statusOf entity) syncTimerElapsed (cells entity) := by
  have tells : ∀ other, ∀ message ∈
      changeMessages type other (statusOf other) syncTimerElapsed (cells other),
      about type entity message = decide (other = entity) := by
    intro other message messageMem
    obtain ⟨data, rfl⟩ := about_of_mem_changeMessages messageMem
    simp [about]
  rw [addChangesToMessage, filter_flatMap (viewOf_nodup nodup cells _) tells]
  split
  · rfl
  · rename_i viewed
    rw [mem_viewOf_iff] at viewed
    unfold changeMessages
    cases cache : (cells entity).syncCache with
    | none => rfl
    | some cache =>
        cases status : statusOf entity with
        | none => rfl
        | some status => simp [mem, status, Cell.cached, cache] at viewed

theorem filter_addRemovalsToMessage (type : TypeHash) (statusOf : StatusView)
    (syncTimerElapsed : Bool) {entities : List Entity} (nodup : entities.Nodup)
    (cells : Entity → Cell V) {entity : Entity} (mem : entity ∈ entities) :
    (addRemovalsToMessage type statusOf syncTimerElapsed entities cells).filter
        (about type entity) =
      if (cells entity).removed then
        removalMessages type entity (statusOf entity) syncTimerElapsed
      else [] := by
  have tells : ∀ other, ∀ message ∈
      removalMessages type other (statusOf other) syncTimerElapsed,
      about type entity message = decide (other = entity) := by
    intro other message messageMem
    rw [about_of_mem_removalMessages messageMem]
    simp [about]
  rw [addRemovalsToMessage, filter_flatMap (viewOf_nodup nodup cells _) tells]
  split
  · rename_i viewed
    rw [if_pos (mem_viewOf_iff.mp viewed).2.2]
  · rename_i viewed
    rw [mem_viewOf_iff] at viewed
    by_cases removed : (cells entity).removed
    · cases status : statusOf entity with
      | none => simp [removed, removalMessages, synchronizedIn]
      | some status => simp [mem, status, removed] at viewed
    · simp [removed]

/-- Every message of an update is about its component type and a live entity. -/
theorem shape_of_mem_performUpdate {settings : SyncSettings V} {type : TypeHash}
    {statusOf : StatusView} {syncTimerElapsed : Bool} {entities : List Entity}
    {cells : Entity → Cell V} {message : CoreMessage}
    (mem : message ∈
      (performUpdate settings type statusOf syncTimerElapsed entities cells).2) :
    ∃ entity ∈ entities,
      (∃ data, message = .setComponent data type entity) ∨
        message = .delComponent type entity := by
  rcases List.mem_append.mp mem with changed | removed
  · obtain ⟨entity, viewed, messageMem⟩ := List.mem_flatMap.mp changed
    exact ⟨entity, (mem_viewOf_iff.mp viewed).1,
      Or.inl (about_of_mem_changeMessages messageMem)⟩
  · obtain ⟨entity, viewed, messageMem⟩ := List.mem_flatMap.mp removed
    exact ⟨entity, (mem_viewOf_iff.mp viewed).1,
      Or.inr (about_of_mem_removalMessages messageMem)⟩

/-! ## One connection -/

section Connection

variable (settings : SyncSettings V) (statusOf : StatusView) {entities : List Entity}

theorem performUpdate_cell (type : TypeHash) (syncTimerElapsed : Bool)
    (nodup : entities.Nodup) (cells : Entity → Cell V) {entity : Entity}
    (mem : entity ∈ entities) :
    (performUpdate settings type statusOf syncTimerElapsed entities cells).1 entity =
      ((cells entity).performUpdate settings type entity (statusOf entity)
        syncTimerElapsed).1 := by
  simp only [performUpdate, Cell.performUpdate]
  rw [removeDestroyedComponentData_of_mem nodup _ mem,
    updateSerializedValues_of_mem settings type statusOf _ nodup cells mem]

theorem performUpdate_messages (type : TypeHash) (syncTimerElapsed : Bool)
    (nodup : entities.Nodup) (cells : Entity → Cell V) {entity : Entity}
    (mem : entity ∈ entities) :
    (performUpdate settings type statusOf syncTimerElapsed entities cells).2.filter
        (about type entity) =
      ((cells entity).performUpdate settings type entity (statusOf entity)
        syncTimerElapsed).2 := by
  simp only [performUpdate, Cell.performUpdate, Cell.messages]
  rw [List.filter_append, filter_addChangesToMessage type statusOf _ nodup _ mem,
    filter_addRemovalsToMessage type statusOf _ nodup _ mem,
    updateSerializedValues_of_mem settings type statusOf _ nodup cells mem]

/-- Other component types are not mentioned. -/
theorem performUpdate_messages_of_ne {type otherType : TypeHash} (type_ne : otherType ≠ type)
    (syncTimerElapsed : Bool) (cells : Entity → Cell V) (entity : Entity) :
    (performUpdate settings type statusOf syncTimerElapsed entities cells).2.filter
      (about otherType entity) = [] := by
  rw [List.filter_eq_nil_iff]
  intro message mem
  obtain ⟨other, _, ⟨data, rfl⟩ | rfl⟩ := shape_of_mem_performUpdate mem
  · simp [about, type_ne.symm]
  · simp [about, type_ne.symm]

theorem performUpdate_cell_of_notMem (type : TypeHash) (syncTimerElapsed : Bool)
    (cells : Entity → Cell V) {entity : Entity} (notMem : entity ∉ entities) :
    (performUpdate settings type statusOf syncTimerElapsed entities cells).1 entity =
      cells entity := by
  simp only [performUpdate]
  rw [removeDestroyedComponentData_of_notMem _ notMem,
    updateSerializedValues_of_notMem settings type statusOf _ cells notMem]

variable (synchronizeNow : TypeHash → Bool)

/-- Running through the component types acts once on the cells of each of them. -/
private theorem updateTypes_cells (nodup : entities.Nodup) {types : List TypeHash}
    (typesNodup : types.Nodup) (pass : ConnectionPass V) (type : TypeHash) {entity : Entity}
    (mem : entity ∈ entities) :
    (types.foldl (updateType settings statusOf synchronizeNow entities) pass).cells type
        entity =
      if type ∈ types then
        ((pass.cells type entity).performUpdate settings type entity (statusOf entity)
          (synchronizeNow type)).1
      else pass.cells type entity := by
  induction types generalizing pass with
  | nil => simp
  | cons first rest ih =>
      rw [List.nodup_cons] at typesNodup
      rw [List.foldl_cons, ih typesNodup.2]
      by_cases first_eq : type = first
      · subst first_eq
        simp only [updateType, Function.update_self, typesNodup.1, if_false,
          List.mem_cons_self, if_true]
        exact performUpdate_cell settings statusOf type _ nodup _ mem
      · simp only [updateType, Function.update_of_ne first_eq, List.mem_cons, first_eq,
          false_or]

private theorem updateTypes_messages (nodup : entities.Nodup) {types : List TypeHash}
    (typesNodup : types.Nodup) (pass : ConnectionPass V) (type : TypeHash) {entity : Entity}
    (mem : entity ∈ entities) :
    (types.foldl (updateType settings statusOf synchronizeNow entities) pass).message.filter
        (about type entity) =
      pass.message.filter (about type entity) ++
        if type ∈ types then
          ((pass.cells type entity).performUpdate settings type entity (statusOf entity)
            (synchronizeNow type)).2
        else [] := by
  induction types generalizing pass with
  | nil => simp
  | cons first rest ih =>
      rw [List.nodup_cons] at typesNodup
      rw [List.foldl_cons, ih typesNodup.2]
      by_cases first_eq : type = first
      · subst first_eq
        simp only [updateType, List.filter_append, typesNodup.1, if_false, List.append_nil,
          List.mem_cons_self, if_true]
        rw [performUpdate_messages settings statusOf type _ nodup _ mem]
      · simp only [updateType, List.filter_append, Function.update_of_ne first_eq,
          List.mem_cons, first_eq, false_or]
        rw [performUpdate_messages_of_ne settings statusOf first_eq, List.append_nil]

/-- The cells of dead entities and of other types are left alone. -/
private theorem updateTypes_cells_of_notMem (types : List TypeHash) (pass : ConnectionPass V)
    (type : TypeHash) {entity : Entity} (untouched : entity ∉ entities ∨ type ∉ types) :
    (types.foldl (updateType settings statusOf synchronizeNow entities) pass).cells type
        entity =
      pass.cells type entity := by
  induction types generalizing pass with
  | nil => rfl
  | cons first rest ih =>
      have restUntouched : entity ∉ entities ∨ type ∉ rest :=
        untouched.imp_right fun notMem mem => notMem (List.mem_cons_of_mem _ mem)
      rw [List.foldl_cons, ih _ restUntouched]
      by_cases first_eq : type = first
      · subst first_eq
        rcases untouched with dead | notMem
        · simp only [updateType, Function.update_self]
          exact performUpdate_cell_of_notMem settings statusOf type _ _ dead
        · exact absurd List.mem_cons_self notMem
      · simp only [updateType, Function.update_of_ne first_eq]

private theorem shape_of_mem_updateTypes (types : List TypeHash) (pass : ConnectionPass V)
    {message : CoreMessage}
    (mem : message ∈
      (types.foldl (updateType settings statusOf synchronizeNow entities) pass).message) :
    message ∈ pass.message ∨ ∃ type ∈ types, ∃ entity ∈ entities,
      (∃ data, message = .setComponent data type entity) ∨
        message = .delComponent type entity := by
  induction types generalizing pass with
  | nil => exact Or.inl mem
  | cons first rest ih =>
      rw [List.foldl_cons] at mem
      rcases ih _ mem with earlier | ⟨type, typeMem, later⟩
      · rcases List.mem_append.mp earlier with before | here
        · exact Or.inl before
        · exact Or.inr ⟨first, List.mem_cons_self, shape_of_mem_performUpdate here⟩
      · exact Or.inr ⟨type, List.mem_cons_of_mem _ typeMem, later⟩

/-- **One connection at one cell.**  The update of a connection changes a cell of a
synchronized type exactly as `Cell.performUpdate` does. -/
theorem synchronizeConnection_cells (nodup : entities.Nodup)
    (cells : TypeHash → Entity → Cell V) {type : TypeHash} (typeMem : type ∈ settings.types)
    {entity : Entity} (mem : entity ∈ entities) :
    (synchronizeConnection settings statusOf synchronizeNow entities cells).cells type entity =
      ((cells type entity).performUpdate settings type entity (statusOf entity)
        (synchronizeNow type)).1 := by
  simp only [synchronizeConnection]
  rw [updateAll_apply _ settings.nodup, if_pos typeMem]
  have passCell := updateTypes_cells settings statusOf synchronizeNow nodup settings.nodup
    ⟨cells, []⟩ type mem
  rw [if_pos typeMem] at passCell
  by_cases elapsed : synchronizeNow type
  · rw [if_pos elapsed, removeDestroyedComponentData_of_mem nodup _ mem, passCell]
    simp [Cell.performUpdate]
  · rw [if_neg elapsed, passCell]

/-- The compound message of a connection, restricted to one cell, is what
`Cell.performUpdate` pushes. -/
theorem synchronizeConnection_message (nodup : entities.Nodup)
    (cells : TypeHash → Entity → Cell V) {type : TypeHash} (typeMem : type ∈ settings.types)
    {entity : Entity} (mem : entity ∈ entities) :
    (synchronizeConnection settings statusOf synchronizeNow entities cells).message.filter
        (about type entity) =
      ((cells type entity).performUpdate settings type entity (statusOf entity)
        (synchronizeNow type)).2 := by
  simp only [synchronizeConnection]
  have passMessage := updateTypes_messages settings statusOf synchronizeNow nodup
    settings.nodup ⟨cells, []⟩ type mem
  rw [if_pos typeMem, List.filter_nil, List.nil_append] at passMessage
  exact passMessage

theorem synchronizeConnection_cells_of_notMem (cells : TypeHash → Entity → Cell V)
    (type : TypeHash) {entity : Entity}
    (untouched : entity ∉ entities ∨ type ∉ settings.types) :
    (synchronizeConnection settings statusOf synchronizeNow entities cells).cells type entity =
      cells type entity := by
  have passCell := updateTypes_cells_of_notMem settings statusOf synchronizeNow settings.types
    ⟨cells, []⟩ type untouched
  simp only [synchronizeConnection]
  by_cases typeMem : type ∈ settings.types
  · have dead : entity ∉ entities := untouched.resolve_right (not_not_intro typeMem)
    rw [updateAll_apply _ settings.nodup, if_pos typeMem]
    split
    · rw [removeDestroyedComponentData_of_notMem _ dead, passCell]
    · exact passCell
  · rw [updateAll_of_notMem _ typeMem, passCell]

/-- A compound message of the synchronizer holds plain set and delete messages about
synchronized types and live entities. -/
theorem shape_of_mem_synchronizeConnection (cells : TypeHash → Entity → Cell V)
    {message : CoreMessage}
    (mem : message ∈
      (synchronizeConnection settings statusOf synchronizeNow entities cells).message) :
    ∃ type ∈ settings.types, ∃ entity ∈ entities,
      (∃ data, message = .setComponent data type entity) ∨
        message = .delComponent type entity := by
  rcases shape_of_mem_updateTypes settings statusOf synchronizeNow settings.types
    ⟨cells, []⟩ mem with absurdMem | shape
  · simp at absurdMem
  · exact shape

end Connection

end VoxelEngine.Ecs
