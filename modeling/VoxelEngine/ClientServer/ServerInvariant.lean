import VoxelEngine.ClientServer.ServerTick

/-!
# What always holds of a server

These facts hold in every state a server can reach, whatever happens to it: destroyed
entities stay dead, disconnected remotes leave nothing behind, dead entities have no
components, and between ticks no cache is marked as refreshed.
-/

namespace VoxelEngine.ClientServer

open VoxelEngine.Data
open VoxelEngine.Ecs
open VoxelEngine.Ecs.StatusStorage
open VoxelEngine.Transition

variable {V : Type}

namespace Server

theorem setCell_cells (server : Server V) (type otherType : TypeHash) (entity other : Entity)
    (cell : Cell V) :
    (server.setCell type entity cell).cells otherType other =
      if otherType = type ∧ other = entity then cell else server.cells otherType other := by
  by_cases type_eq : otherType = type
  · subst type_eq
    by_cases entity_eq : other = entity
    · subst entity_eq
      simp [setCell]
    · simp [setCell, entity_eq]
  · simp [setCell, type_eq]

/-- Changing a component leaves all caches alone. -/
@[simp]
theorem setCell_syncCache (server : Server V) (type otherType : TypeHash)
    (entity other : Entity) (component : Option V) :
    ((server.setCell type entity
      { server.cells type entity with component := component }).cells otherType
        other).syncCache = (server.cells otherType other).syncCache := by
  rw [setCell_cells]
  split
  · rename_i same
    rw [same.1, same.2]
  · rfl

theorem createEntity_eq_some {server next : Server V} {index : Nat}
    (created : server.createEntity index = some next) :
    ∃ pool, server.pool.create index = some pool ∧ next = { server with pool := pool } := by
  obtain ⟨pool, poolEq, nextEq⟩ := Option.map_eq_some_iff.mp created
  exact ⟨pool, poolEq, nextEq.symm⟩

theorem destroyEntity_eq_some {server next : Server V} {entity : Entity}
    (destroyed : server.destroyEntity entity = some next) :
    ∃ pool, server.pool.destroy entity = some pool ∧
      next = { server with
        pool := pool
        cells := fun type => Function.update (server.cells type) entity Cell.empty
        visibility := server.visibility.onEntityDestroyed entity } := by
  obtain ⟨pool, poolEq, nextEq⟩ := Option.map_eq_some_iff.mp destroyed
  exact ⟨pool, poolEq, nextEq.symm⟩

theorem setComponent_eq_some {server next : Server V} {type : TypeHash} {entity : Entity}
    {value : V} (changed : server.setComponent type entity value = some next) :
    entity ∈ server.pool.entities ∧
      next = server.setCell type entity
        { server.cells type entity with component := some value } := by
  unfold setComponent at changed
  split at changed
  · rename_i live
    exact ⟨live, (Option.some.inj changed).symm⟩
  · contradiction

theorem removeComponent_eq_some {server next : Server V} {type : TypeHash} {entity : Entity}
    (changed : server.removeComponent type entity = some next) :
    (server.cells type entity).component.isSome ∧
      next = server.setCell type entity
        { server.cells type entity with component := none } := by
  unfold removeComponent at changed
  split at changed
  · rename_i present
    exact ⟨present, (Option.some.inj changed).symm⟩
  · contradiction

/-- The facts that every reachable state satisfies. -/
structure WellFormed (server : Server V) : Prop where
  destroyed_dead : ∀ entity ∈ server.visibility.destroyedEntities,
    entity ∉ server.pool.entities
  destroyed_issued : ∀ entity ∈ server.visibility.destroyedEntities,
    entity.version < server.pool.nextVersion entity.index
  destroyed_nodup : server.visibility.destroyedEntities.Nodup
  disconnected_blank : ∀ remote, remote ∉ server.connections →
    server.visibility.storage remote = SlotStorage.empty
  dead_cells : ∀ type entity, entity ∉ server.pool.entities →
    server.cells type entity = Cell.empty
  caches_stale : ∀ type entity, (server.cells type entity).upToDate = false

theorem wellFormed_initial (defaultSyncRate : Int) :
    WellFormed (initial defaultSyncRate : Server V) where
  destroyed_dead := by simp [initial, EntityVisibility.initial]
  destroyed_issued := by simp [initial, EntityVisibility.initial]
  destroyed_nodup := List.nodup_nil
  disconnected_blank _ _ := rfl
  dead_cells _ _ _ := rfl
  caches_stale _ _ := rfl

section Steps

variable {server next : Server V}

private theorem wellFormed_createEntity (wellFormed : server.WellFormed) {index : Nat}
    (created : server.createEntity index = some next) : next.WellFormed := by
  obtain ⟨pool, poolEq, rfl⟩ := createEntity_eq_some created
  obtain ⟨_, entitiesEq, _⟩ := EntityPool.create_eq_some poolEq
  refine ⟨?_, ?_, wellFormed.destroyed_nodup, wellFormed.disconnected_blank, ?_,
    wellFormed.caches_stale⟩
  · intro entity destroyed live
    have issued := wellFormed.destroyed_issued entity destroyed
    exact wellFormed.destroyed_dead entity destroyed
      (EntityPool.mem_of_mem_create poolEq issued live)
  · intro entity destroyed
    exact EntityPool.issued_create poolEq (wellFormed.destroyed_issued entity destroyed)
  · intro type entity dead
    rw [entitiesEq] at dead
    exact wellFormed.dead_cells type entity fun old => dead (List.mem_cons_of_mem _ old)

private theorem wellFormed_destroyEntity (wellFormed : server.WellFormed) {entity : Entity}
    (destroyed : server.destroyEntity entity = some next) : next.WellFormed := by
  obtain ⟨pool, poolEq, rfl⟩ := destroyEntity_eq_some destroyed
  obtain ⟨live, _, versionEq⟩ := EntityPool.destroy_eq_some poolEq
  have reported : ∀ other,
      other ∈ (server.visibility.onEntityDestroyed entity).destroyedEntities →
        other = entity ∨ other ∈ server.visibility.destroyedEntities := by
    intro other mem
    exact ((EntityVisibility.mem_onEntityDestroyed_iff _ _ _).mp mem).imp_right And.left
  refine ⟨?_, ?_, server.visibility.nodup_onEntityDestroyed entity wellFormed.destroyed_nodup,
    ?_, ?_, ?_⟩
  · intro other mem otherLive
    rw [EntityPool.mem_destroy_iff poolEq] at otherLive
    rcases reported other mem with rfl | old
    · exact otherLive.1 rfl
    · exact wellFormed.destroyed_dead other old otherLive.2
  · intro other mem
    simp only [versionEq]
    rcases reported other mem with rfl | old
    · exact server.pool.issued other live
    · exact wellFormed.destroyed_issued other old
  · intro remote disconnected
    have blank := wellFormed.disconnected_blank remote disconnected
    simp only [EntityVisibility.onEntityDestroyed]
    split <;> exact blank
  · intro type other dead
    by_cases other_eq : other = entity
    · subst other_eq
      simp
    · simp only [Function.update_of_ne other_eq]
      refine wellFormed.dead_cells type other fun old => dead ?_
      exact (EntityPool.mem_destroy_iff poolEq).mpr ⟨other_eq, old⟩
  · intro type other
    by_cases other_eq : other = entity
    · subst other_eq
      simp [Cell.empty]
    · simp only [Function.update_of_ne other_eq]
      exact wellFormed.caches_stale type other

private theorem wellFormed_setCell (wellFormed : server.WellFormed) {type : TypeHash}
    {entity : Entity} (live : entity ∈ server.pool.entities) (component : Option V) :
    (server.setCell type entity
      { server.cells type entity with component := component }).WellFormed := by
  refine ⟨wellFormed.destroyed_dead, wellFormed.destroyed_issued, wellFormed.destroyed_nodup,
    wellFormed.disconnected_blank, ?_, ?_⟩
  · intro otherType other dead
    rw [setCell_cells,
      if_neg fun same : otherType = type ∧ other = entity => dead (same.2 ▸ live)]
    exact wellFormed.dead_cells otherType other dead
  · intro otherType other
    rw [setCell_cells]
    split
    · exact wellFormed.caches_stale type entity
    · exact wellFormed.caches_stale otherType other

private theorem wellFormed_addClientConnection (wellFormed : server.WellFormed)
    (remote : InstanceId) : (server.addClientConnection remote).WellFormed := by
  unfold addClientConnection
  split
  · exact wellFormed
  · refine ⟨wellFormed.destroyed_dead, wellFormed.destroyed_issued,
      wellFormed.destroyed_nodup, ?_, wellFormed.dead_cells, wellFormed.caches_stale⟩
    intro other disconnected
    exact wellFormed.disconnected_blank other fun old =>
      disconnected (List.mem_cons_of_mem _ old)

private theorem wellFormed_removeClientConnection (wellFormed : server.WellFormed)
    (remote : InstanceId) : (server.removeClientConnection remote).WellFormed := by
  unfold removeClientConnection
  split
  · refine ⟨wellFormed.destroyed_dead, wellFormed.destroyed_issued,
      wellFormed.destroyed_nodup, ?_, wellFormed.dead_cells, wellFormed.caches_stale⟩
    intro other disconnected
    simp only [EntityVisibility.onRemoteDisconnected]
    by_cases other_eq : other = remote
    · subst other_eq
      simp
    · rw [Function.update_of_ne other_eq]
      refine wellFormed.disconnected_blank other fun old => disconnected ?_
      exact (List.mem_erase_of_ne other_eq).mpr old
  · exact wellFormed

private theorem wellFormed_tick {settings : SyncSettings V} {now : Int}
    {rule : InstanceId → Entity → Bool} {order : List InstanceId}
    (wellFormed : server.WellFormed) (ticked : server.tick settings now rule order = some next) :
    next.WellFormed := by
  refine ⟨?_, ?_, ?_, ?_, ?_, ?_⟩
  · simp [tick_destroyedEntities ticked]
  · simp [tick_destroyedEntities ticked]
  · simp [tick_destroyedEntities ticked]
  · intro remote disconnected
    rw [tick_connections ticked] at disconnected
    rw [tick_storage_of_notMem ticked disconnected]
    exact wellFormed.disconnected_blank remote disconnected
  · intro type entity dead
    rw [tick_pool ticked] at dead
    rcases tick_cells_of_notMem ticked type entity (Or.inl dead) with same | cleared
    · rw [same]
      exact wellFormed.dead_cells type entity dead
    · rw [cleared, wellFormed.dead_cells type entity dead]
      rfl
  · intro type entity
    by_cases served : entity ∈ server.pool.entities ∧ type ∈ settings.types
    · rw [tick_cells ticked served.2 served.1]
    · have untouched : entity ∉ server.pool.entities ∨ type ∉ settings.types :=
        not_and_or.mp served
      rcases tick_cells_of_notMem ticked type entity untouched with same | cleared
      · rw [same]
        exact wellFormed.caches_stale type entity
      · rw [cleared]

/-- Every step keeps the server well formed. -/
theorem wellFormed_step (settings : SyncSettings V) {action : ServerAction V}
    (wellFormed : server.WellFormed) (stepEq : step settings server action = some next) :
    next.WellFormed := by
  cases action with
  | createEntity index => exact wellFormed_createEntity wellFormed stepEq
  | destroyEntity entity => exact wellFormed_destroyEntity wellFormed stepEq
  | setComponent type entity value =>
      obtain ⟨live, rfl⟩ := setComponent_eq_some stepEq
      exact wellFormed_setCell wellFormed live (some value)
  | removeComponent type entity =>
      obtain ⟨present, rfl⟩ := removeComponent_eq_some stepEq
      refine wellFormed_setCell wellFormed ?_ none
      by_contra dead
      rw [wellFormed.dead_cells type entity dead] at present
      simp [Cell.empty] at present
  | addClientConnection remote =>
      exact Option.some.inj stepEq ▸ wellFormed_addClientConnection wellFormed remote
  | removeClientConnection remote =>
      exact Option.some.inj stepEq ▸ wellFormed_removeClientConnection wellFormed remote
  | setSyncRate type interval =>
      cases stepEq
      exact ⟨wellFormed.destroyed_dead, wellFormed.destroyed_issued,
        wellFormed.destroyed_nodup, wellFormed.disconnected_blank, wellFormed.dead_cells,
        wellFormed.caches_stale⟩
  | tick now rule order => exact wellFormed_tick wellFormed stepEq

end Steps

/-! ## Ticks of well-formed servers -/

section Tick

variable {settings : SyncSettings V} {now : Int} {rule : InstanceId → Entity → Bool}
  {order : List InstanceId} {server next : Server V} {remote : InstanceId} {entity : Entity}

/-- After a tick the statuses of live entities are up to date. -/
theorem WellFormed.tick_get? (wellFormed : server.WellFormed)
    (ticked : server.tick settings now rule order = some next)
    (connected : remote ∈ server.connections) (live : entity ∈ server.pool.entities) :
    (next.visibility.storage remote).get? entity =
      some ((status (server.visibility.storage remote) entity).update (rule remote entity)) := by
  rw [tick_storage_of_mem ticked connected]
  exact VisibilityPass.updateConnection_get?_of_mem (rule remote) _ server.pool.distinct
    wellFormed.destroyed_dead live

theorem WellFormed.sees_tick_iff (wellFormed : server.WellFormed)
    (ticked : server.tick settings now rule order = some next)
    (connected : remote ∈ server.connections) (live : entity ∈ server.pool.entities) :
    Sees (next.visibility.storage remote) entity ↔ rule remote entity = true := by
  rw [sees_iff, wellFormed.tick_get? ticked connected live]
  simp

/-- The live entities that a tick takes back from a remote. -/
theorem WellFormed.mem_removed_iff (wellFormed : server.WellFormed)
    (live : entity ∈ server.pool.entities) :
    entity ∈ (server.visibilityPass rule remote).removed ↔
      Sees (server.visibility.storage remote) entity ∧ rule remote entity = false :=
  VisibilityPass.mem_removed_updateConnection_iff (rule remote) _ server.pool.distinct
    wellFormed.destroyed_dead live

/-- Some connection synchronizes the entity in this tick. -/
theorem WellFormed.any_synchronized_iff (wellFormed : server.WellFormed)
    (ticked : server.tick settings now rule order = some next)
    (live : entity ∈ server.pool.entities) (elapsed : Bool) :
    (order.any fun remote =>
        synchronizedIn ((next.visibility.storage remote).get? entity) elapsed) = true ↔
      ∃ remote ∈ server.connections, rule remote entity = true ∧
        (elapsed = true ∨ ¬Sees (server.visibility.storage remote) entity) := by
  rw [List.any_eq_true]
  constructor
  · rintro ⟨other, inOrder, synchronized⟩
    have connected := (tick_mem_order ticked other).mp inOrder
    rw [wellFormed.tick_get? ticked connected live] at synchronized
    simp only [synchronizedIn, Cell.isSynchronized_update, Bool.and_eq_true, Bool.or_eq_true,
      Bool.not_eq_true'] at synchronized
    refine ⟨other, connected, synchronized.1, synchronized.2.imp_right ?_⟩
    intro unseen sees
    exact Bool.false_ne_true (unseen.symm.trans sees)
  · rintro ⟨other, connected, ruled, reason⟩
    refine ⟨other, (tick_mem_order ticked other).mpr connected, ?_⟩
    rw [wellFormed.tick_get? ticked connected live]
    simp only [synchronizedIn, Cell.isSynchronized_update, ruled, Bool.true_and,
      Bool.or_eq_true, Bool.not_eq_true']
    exact reason.imp_right fun unseen => Bool.eq_false_iff.mpr unseen

end Tick

end Server

end VoxelEngine.ClientServer
