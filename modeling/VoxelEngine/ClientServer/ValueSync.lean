import VoxelEngine.ClientServer.ServerInvariant

/-!
# Component values reach every remote that sees the entity

The value a remote holds is the one of the last set message it was sent.  The
synchronizer sends a value when its cache changed or when the entity just became
visible, so a remote is up to date as long as every change of a cache was announced to
it.  That fails in one situation: the cache is refreshed for a remote that just began
to see the entity, on a tick that sends nothing to the remotes which already see it.
-/

namespace VoxelEngine.ClientServer

open VoxelEngine.Data
open VoxelEngine.Ecs
open VoxelEngine.Ecs.StatusStorage
open VoxelEngine.Transition

variable {V : Type}

/-- Keep the data of the most recent set message about a component of an entity. -/
def noteSet (type : TypeHash) (entity : Entity) (last : Option Bytes) :
    CoreMessage → Option Bytes
  | .setComponent data otherType other =>
      if otherType = type ∧ other = entity then some data else last
  | _ => last

/-- The data of the last `MSG_SET_COMPONENT` about a component of an entity. -/
def lastSet (type : TypeHash) (entity : Entity) (messages : List CoreMessage) :
    Option Bytes :=
  messages.foldl (noteSet type entity) none

theorem noteSet_of_not_about {type : TypeHash} {entity : Entity} {message : CoreMessage}
    (last : Option Bytes) (other : about type entity message = false) :
    noteSet type entity last message = last := by
  cases message with
  | setComponent data otherType otherEntity =>
      have different : ¬(otherType = type ∧ otherEntity = entity) := by
        simpa [about] using other
      simp only [noteSet, if_neg different]
  | _ => rfl

/-- Different values in use have different digests. -/
def CollisionFree (settings : SyncSettings V) : Prop :=
  ∀ type ∈ settings.types, ∀ first second : V,
    settings.digest (settings.toBytes type first) =
        settings.digest (settings.toBytes type second) →
      settings.toBytes type first = settings.toBytes type second

namespace Server

/-- The remote begins to see the entity at a tick with this rule. -/
def BeginsToSee (server : Server V) (rule : InstanceId → Entity → Bool) (remote : InstanceId)
    (entity : Entity) : Prop :=
  ¬Sees (server.visibility.storage remote) entity ∧ rule remote entity = true

/-- The remote sees the entity before and after a tick with this rule. -/
def KeepsSeeing (server : Server V) (rule : InstanceId → Entity → Bool) (remote : InstanceId)
    (entity : Entity) : Prop :=
  Sees (server.visibility.storage remote) entity ∧ rule remote entity = true

instance (server : Server V) (rule : InstanceId → Entity → Bool) (remote : InstanceId)
    (entity : Entity) : Decidable (server.BeginsToSee rule remote entity) :=
  inferInstanceAs (Decidable (_ ∧ _))

instance (server : Server V) (rule : InstanceId → Entity → Bool) (remote : InstanceId)
    (entity : Entity) : Decidable (server.KeepsSeeing rule remote entity) :=
  inferInstanceAs (Decidable (_ ∧ _))

/-- At this tick, no cache of a component whose timer has not elapsed changes for the sake
of one remote while another remote keeps seeing the entity. -/
def RefreshesAnnounced (server : Server V) (settings : SyncSettings V) (now : Int)
    (rule : InstanceId → Entity → Bool) : Prop :=
  ∀ type ∈ settings.types, server.synchronizeNow now type = false →
    ∀ entity ∈ server.pool.entities, ∀ value ∈ (server.cells type entity).component,
      (∃ remote ∈ server.connections, server.BeginsToSee rule remote entity) →
      (∃ remote ∈ server.connections, server.KeepsSeeing rule remote entity) →
      (server.cells type entity).syncCache.map SyncCache.data =
        some (settings.toBytes type value)

instance (settings : SyncSettings V) (server : Server V) (now : Int)
    (rule : InstanceId → Entity → Bool) :
    Decidable (server.RefreshesAnnounced settings now rule) :=
  @List.decidableBAll TypeHash _ (fun type => inferInstanceAs (Decidable (_ →
    ∀ entity ∈ server.pool.entities, ∀ value ∈ (server.cells type entity).component,
      (∃ remote ∈ server.connections, _) → (∃ remote ∈ server.connections, _) → _)))
    settings.types

/-- No step refreshes a cache without announcing it to a remote that relies on it. -/
def NoSilentRefresh (server : Server V) (settings : SyncSettings V) :
    ServerAction V → Prop
  | .tick now rule _ => server.RefreshesAnnounced settings now rule
  | _ => True

instance (settings : SyncSettings V) (server : Server V) :
    (action : ServerAction V) → Decidable (server.NoSilentRefresh settings action)
  | .tick now rule _ => inferInstanceAs (Decidable (server.RefreshesAnnounced settings now rule))
  | .createEntity _ | .destroyEntity _ | .setComponent _ _ _ | .removeComponent _ _
  | .addClientConnection _ | .removeClientConnection _ | .setSyncRate _ _ => isTrue trivial

/-- Whatever is cached for an entity was sent to every remote that sees it. -/
structure CachesDelivered (settings : SyncSettings V) (server : Server V) : Prop where
  wellFormed : server.WellFormed
  cache_bytes : ∀ type ∈ settings.types, ∀ entity, ∀ cache,
    (server.cells type entity).syncCache = some cache →
      ∃ value, cache.data = settings.toBytes type value
  delivered : ∀ remote ∈ server.connections, ∀ type ∈ settings.types,
    ∀ entity ∈ server.pool.entities, Sees (server.visibility.storage remote) entity →
      ∀ cache, (server.cells type entity).syncCache = some cache →
        lastSet type entity (server.handled remote) = some cache.data

section Steps

variable {settings : SyncSettings V} {server next : Server V}

theorem cachesDelivered_initial (settings : SyncSettings V) (defaultSyncRate : Int) :
    CachesDelivered settings (initial defaultSyncRate) where
  wellFormed := wellFormed_initial defaultSyncRate
  cache_bytes _ _ _ _ cached := by simp [initial, Cell.empty] at cached
  delivered _ connected := by simp [initial] at connected

private theorem cachesDelivered_createEntity (delivered : CachesDelivered settings server)
    (wellFormed : next.WellFormed) {index : Nat}
    (created : server.createEntity index = some next) : CachesDelivered settings next := by
  obtain ⟨pool, poolEq, rfl⟩ := createEntity_eq_some created
  refine ⟨wellFormed, delivered.cache_bytes, ?_⟩
  intro remote connected type typeMem entity _ sees cache cached
  by_cases old : entity ∈ server.pool.entities
  · exact delivered.delivered remote connected type typeMem entity old sees cache cached
  · simp [delivered.wellFormed.dead_cells type entity old, Cell.empty] at cached

private theorem cachesDelivered_destroyEntity (delivered : CachesDelivered settings server)
    (wellFormed : next.WellFormed) {entity : Entity}
    (destroyed : server.destroyEntity entity = some next) : CachesDelivered settings next := by
  obtain ⟨pool, poolEq, rfl⟩ := destroyEntity_eq_some destroyed
  have cells_eq : ∀ type other cache,
      ((Function.update (server.cells type) entity Cell.empty) other).syncCache = some cache →
        (server.cells type other).syncCache = some cache := by
    intro type other cache cached
    by_cases other_eq : other = entity
    · subst other_eq
      simp [Cell.empty] at cached
    · rwa [Function.update_of_ne other_eq] at cached
  refine ⟨wellFormed, ?_, ?_⟩
  · intro type typeMem other cache cached
    exact delivered.cache_bytes type typeMem other cache (cells_eq type other cache cached)
  · intro remote connected type typeMem other live sees cache cached
    have old := ((EntityPool.mem_destroy_iff poolEq).mp live).2
    refine delivered.delivered remote connected type typeMem other old ?_ cache
      (cells_eq type other cache cached)
    simpa [EntityVisibility.storage_onEntityDestroyed] using sees

private theorem cachesDelivered_setCell (delivered : CachesDelivered settings server)
    {type : TypeHash} {entity : Entity} (component : Option V)
    (wellFormed : (server.setCell type entity
      { server.cells type entity with component := component }).WellFormed) :
    CachesDelivered settings (server.setCell type entity
      { server.cells type entity with component := component }) := by
  refine ⟨wellFormed, ?_, ?_⟩
  · intro otherType typeMem other cache cached
    rw [setCell_syncCache] at cached
    exact delivered.cache_bytes otherType typeMem other cache cached
  · intro remote connected otherType typeMem other live sees cache cached
    rw [setCell_syncCache] at cached
    exact delivered.delivered remote connected otherType typeMem other live sees cache cached

private theorem cachesDelivered_addClientConnection
    (delivered : CachesDelivered settings server) (added : InstanceId)
    (wellFormed : (server.addClientConnection added).WellFormed) :
    CachesDelivered settings (server.addClientConnection added) := by
  unfold addClientConnection at wellFormed ⊢
  split
  · exact delivered
  · rename_i unknown
    rw [dif_neg unknown] at wellFormed
    refine ⟨wellFormed, delivered.cache_bytes, ?_⟩
    intro remote connected type typeMem entity live sees cache cached
    by_cases remote_eq : remote = added
    · subst remote_eq
      rw [delivered.wellFormed.disconnected_blank remote unknown] at sees
      simp [Sees, status, VisibilityStatus.visibilityBit] at sees
    · have old := (List.mem_cons.mp connected).resolve_left remote_eq
      simp only [handled, Function.update_of_ne remote_eq]
      exact delivered.delivered remote old type typeMem entity live sees cache cached

private theorem cachesDelivered_removeClientConnection
    (delivered : CachesDelivered settings server) (removed : InstanceId)
    (wellFormed : (server.removeClientConnection removed).WellFormed) :
    CachesDelivered settings (server.removeClientConnection removed) := by
  unfold removeClientConnection at wellFormed ⊢
  split
  · rename_i known
    rw [if_pos known] at wellFormed
    refine ⟨wellFormed, delivered.cache_bytes, ?_⟩
    intro remote connected type typeMem entity live sees cache cached
    have remaining := (server.connectionsNodup.mem_erase_iff).mp connected
    rw [EntityVisibility.storage_onRemoteDisconnected_of_ne _ remaining.1] at sees
    exact delivered.delivered remote remaining.2 type typeMem entity live sees cache cached
  · exact delivered

variable {now : Int} {rule : InstanceId → Entity → Bool} {order : List InstanceId}

/-- What a tick adds to the last value sent, in terms of the refreshed cell. -/
private theorem lastSet_tick (wellFormed : server.WellFormed)
    (ticked : server.tick settings now rule order = some next) {remote : InstanceId}
    (connected : remote ∈ server.connections) {type : TypeHash}
    (typeMem : type ∈ settings.types) {entity : Entity} (live : entity ∈ server.pool.entities)
    {value : V} (present : (server.cells type entity).component = some value)
    {cache : SyncCache}
    (refreshed : ((server.cells type entity).refresh settings type true).syncCache =
      some cache) :
    lastSet type entity (next.handled remote) =
      if rule remote entity && ((server.synchronizeNow now type && cache.changed) ||
          !(status (server.visibility.storage remote) entity).visibilityBit) then
        some cache.data
      else lastSet type entity (server.handled remote) := by
  obtain ⟨before, _, message, _, handledEq, _, messageEq⟩ :=
    exists_tick_handled ticked connected
  have visibilitySilent : ∀ (pass : VisibilityPass) (last : Option Bytes),
      pass.messages.foldl (noteSet type entity) last = last := by
    intro pass last
    unfold VisibilityPass.messages
    split <;> split <;> rfl
  have pushed := messageEq type typeMem entity live
  rw [Cell.messages_of_component _ _ _ _ _ _ _ present,
    wellFormed.tick_get? ticked connected live,
    Cell.changeMessages_update _ _ refreshed] at pushed
  rw [lastSet, handledEq, List.foldl_append, List.foldl_append, visibilitySilent, ← lastSet,
    foldl_filter_of_neutral (about type entity)
      fun last message _ other => noteSet_of_not_about last other,
    List.filter_reverse, pushed]
  split
  · simp [noteSet]
  · rfl

/-- The cell a tick leaves behind for a component that is present. -/
theorem syncCache_tick_of_component
    (ticked : server.tick settings now rule order = some next) {type : TypeHash}
    (typeMem : type ∈ settings.types) {entity : Entity} (live : entity ∈ server.pool.entities)
    {value : V} (present : (server.cells type entity).component = some value) :
    (next.cells type entity).syncCache =
      if (order.any fun remote =>
          synchronizedIn ((next.visibility.storage remote).get? entity)
            (server.synchronizeNow now type)) then
        ((server.cells type entity).refresh settings type true).syncCache
      else (server.cells type entity).syncCache := by
  rw [tick_cells ticked typeMem live, Cell.serve_of_component _ _ _ _ _ _ present]
  split <;> rfl

/-- After a tick without a component there is no cache either. -/
theorem syncCache_tick_of_removed (ticked : server.tick settings now rule order = some next)
    {remote : InstanceId} (connected : remote ∈ server.connections) {type : TypeHash}
    (typeMem : type ∈ settings.types) {entity : Entity} (live : entity ∈ server.pool.entities)
    (absent : (server.cells type entity).component = none) :
    (next.cells type entity).syncCache = none := by
  have inOrder := (tick_mem_order ticked remote).mpr connected
  rw [tick_cells ticked typeMem live, Cell.serve_of_removed _ _ _ _ _ _ absent,
    if_neg (List.ne_nil_of_mem inOrder)]
  rfl

theorem component_tick (ticked : server.tick settings now rule order = some next)
    {type : TypeHash} (typeMem : type ∈ settings.types) {entity : Entity}
    (live : entity ∈ server.pool.entities) :
    (next.cells type entity).component = (server.cells type entity).component := by
  rw [tick_cells ticked typeMem live]
  cases component : (server.cells type entity).component with
  | none =>
      rw [Cell.serve_of_removed _ _ _ _ _ _ component]
      split <;> exact component
  | some value =>
      rw [Cell.serve_of_component _ _ _ _ _ _ component]
      split
      · rw [Cell.component_refresh, component]
      · exact component

/-- A refresh that is not announced to a remote which keeps seeing the entity found the
current value in the cache. -/
private theorem cached_of_silent (collisionFree : CollisionFree settings)
    (delivered : CachesDelivered settings server)
    (noSilentRefresh : server.NoSilentRefresh settings (.tick now rule order))
    {remote : InstanceId}
    (connected : remote ∈ server.connections) {type : TypeHash}
    (typeMem : type ∈ settings.types) {entity : Entity} (live : entity ∈ server.pool.entities)
    {value : V} (present : (server.cells type entity).component = some value)
    (known : Sees (server.visibility.storage remote) entity)
    (ruled : rule remote entity = true)
    (synchronized : ∃ other ∈ server.connections, rule other entity = true ∧
      (server.synchronizeNow now type = true ∨
        ¬Sees (server.visibility.storage other) entity))
    (unannounced : ¬(server.synchronizeNow now type = true ∧
      Cell.differs settings (server.cells type entity).syncCache
        (settings.toBytes type value) = true)) :
    ∃ cache, (server.cells type entity).syncCache = some cache ∧
      cache.data = settings.toBytes type value := by
  cases elapsed : server.synchronizeNow now type with
  | true =>
      cases cached : (server.cells type entity).syncCache with
      | none => exact absurd ⟨elapsed, by rw [cached]; rfl⟩ unannounced
      | some cache =>
          refine ⟨cache, rfl, ?_⟩
          obtain ⟨older, data_eq⟩ := delivered.cache_bytes type typeMem entity cache cached
          rw [data_eq]
          refine collisionFree type typeMem older value ?_
          simpa [elapsed, cached, Cell.differs, data_eq] using unannounced
  | false =>
      obtain ⟨other, otherConnected, otherRuled, reason⟩ := synchronized
      rw [elapsed] at reason
      have begins : server.BeginsToSee rule other entity :=
        ⟨reason.resolve_left Bool.false_ne_true, otherRuled⟩
      have cached := noSilentRefresh type typeMem elapsed entity live value present
        ⟨other, otherConnected, begins⟩ ⟨remote, connected, known, ruled⟩
      exact Option.map_eq_some_iff.mp cached

/-- **Delivery at a tick.**  If no cache is refreshed silently, every remote that sees an
entity has been sent what is cached for it after the tick. -/
private theorem cachesDelivered_tick (collisionFree : CollisionFree settings)
    (delivered : CachesDelivered settings server) (wellFormed : next.WellFormed)
    (noSilentRefresh : server.NoSilentRefresh settings (.tick now rule order))
    (ticked : server.tick settings now rule order = some next) :
    CachesDelivered settings next := by
  have stale := delivered.wellFormed.caches_stale
  refine ⟨wellFormed, ?_, ?_⟩
  · intro type typeMem entity cache cached
    by_cases live : entity ∈ server.pool.entities
    · cases component : (server.cells type entity).component with
      | none =>
          rw [tick_cells ticked typeMem live, Cell.serve_of_removed _ _ _ _ _ _ component]
            at cached
          split at cached
          · exact delivered.cache_bytes type typeMem entity cache cached
          · simp [Cell.dropCache] at cached
      | some value =>
          rw [syncCache_tick_of_component ticked typeMem live component] at cached
          split at cached
          · rw [Cell.refresh_of_component settings type component (stale type entity)] at cached
            exact ⟨value, by rw [← Option.some.inj cached]⟩
          · exact delivered.cache_bytes type typeMem entity cache cached
    · have dead := live
      rw [← tick_pool ticked] at dead
      simp [wellFormed.dead_cells type entity dead, Cell.empty] at cached
  · intro remote connected type typeMem entity live sees cache cached
    rw [tick_connections ticked] at connected
    rw [tick_pool ticked] at live
    have ruled := (delivered.wellFormed.sees_tick_iff ticked connected live).mp sees
    have earlier := delivered.delivered remote connected type typeMem entity live
    cases component : (server.cells type entity).component with
    | none =>
        rw [syncCache_tick_of_removed ticked connected typeMem live component] at cached
        contradiction
    | some value =>
        rw [syncCache_tick_of_component ticked typeMem live component] at cached
        have refreshed := Cell.refresh_of_component settings type component (stale type entity)
        rw [lastSet_tick delivered.wellFormed ticked connected typeMem live component
          (congrArg Cell.syncCache refreshed)]
        by_cases synchronized : (order.any fun other =>
            synchronizedIn ((next.visibility.storage other).get? entity)
              (server.synchronizeNow now type)) = true
        · rw [if_pos synchronized, refreshed] at cached
          rw [← Option.some.inj cached]
          split
          · rfl
          · rename_i silent
            have known : Sees (server.visibility.storage remote) entity := by
              by_contra unseen
              exact silent (by simp [ruled, Bool.eq_false_iff.mpr unseen])
            obtain ⟨old, oldCached, old_eq⟩ := cached_of_silent collisionFree delivered
              noSilentRefresh connected typeMem live component known ruled
              ((delivered.wellFormed.any_synchronized_iff ticked live _).mp synchronized)
              fun changed => silent (by simp [ruled, changed.1, changed.2])
            rw [earlier known old oldCached, old_eq]
        · rw [if_neg synchronized] at cached
          have unsynchronized := mt
            (delivered.wellFormed.any_synchronized_iff ticked live _).mpr synchronized
          have notElapsed : server.synchronizeNow now type = false := by
            by_contra elapsed
            exact unsynchronized
              ⟨remote, connected, ruled, Or.inl (eq_true_of_ne_false elapsed)⟩
          have known : Sees (server.visibility.storage remote) entity := by
            by_contra unseen
            exact unsynchronized ⟨remote, connected, ruled, Or.inr unseen⟩
          have bit : (status (server.visibility.storage remote) entity).visibilityBit = true :=
            known
          rw [notElapsed, bit]
          simpa using earlier known cache cached

/-- Every step without a silent refresh keeps the caches delivered. -/
private theorem cachesDelivered_step (collisionFree : CollisionFree settings)
    {action : ServerAction V} (delivered : CachesDelivered settings server)
    (noSilentRefresh : server.NoSilentRefresh settings action)
    (stepEq : step settings server action = some next) : CachesDelivered settings next := by
  have wellFormed := wellFormed_step settings delivered.wellFormed stepEq
  cases action with
  | createEntity index => exact cachesDelivered_createEntity delivered wellFormed stepEq
  | destroyEntity entity => exact cachesDelivered_destroyEntity delivered wellFormed stepEq
  | setComponent type entity value =>
      obtain ⟨_, rfl⟩ := setComponent_eq_some stepEq
      exact cachesDelivered_setCell delivered (some value) wellFormed
  | removeComponent type entity =>
      obtain ⟨_, rfl⟩ := removeComponent_eq_some stepEq
      exact cachesDelivered_setCell delivered none wellFormed
  | addClientConnection remote =>
      cases stepEq
      exact cachesDelivered_addClientConnection delivered remote wellFormed
  | removeClientConnection remote =>
      cases stepEq
      exact cachesDelivered_removeClientConnection delivered remote wellFormed
  | setSyncRate type interval =>
      cases stepEq
      exact ⟨wellFormed, delivered.cache_bytes, delivered.delivered⟩
  | tick now rule order =>
      exact cachesDelivered_tick collisionFree delivered wellFormed noSilentRefresh stepEq

/-- Runs without silent refreshes reach only states in which the caches are delivered. -/
theorem cachesDelivered_run (collisionFree : CollisionFree settings)
    {actions : List (ServerAction V)} (start : CachesDelivered settings server)
    (guarded : Guarded (step settings) (NoSilentRefresh · settings) server actions)
    (runEq : run (step settings) server actions = some next) :
    CachesDelivered settings next :=
  run_invariant (fun _ _ _ => cachesDelivered_step collisionFree) start guarded runEq

/-! ## Elapsed timers -/

/-- After a tick of `server` that ended in `next`: where the timer elapsed, the last value
sent to each remote that sees an entity is the current one. -/
def ValuesSent (settings : SyncSettings V) (server next : Server V) (now : Int) : Prop :=
  ∀ remote ∈ next.connections, ∀ type ∈ settings.types,
    server.synchronizeNow now type = true →
      ∀ entity ∈ next.pool.entities, ∀ value ∈ (next.cells type entity).component,
        Sees (next.visibility.storage remote) entity →
          lastSet type entity (next.handled remote) = some (settings.toBytes type value)

/-- When the timer elapsed, the cache of a component that some remote sees is current. -/
private theorem cached_of_elapsed (wellFormed : server.WellFormed)
    (ticked : server.tick settings now rule order = some next) {remote : InstanceId}
    (connected : remote ∈ server.connections) {type : TypeHash}
    (typeMem : type ∈ settings.types) (elapsed : server.synchronizeNow now type = true)
    {entity : Entity} (live : entity ∈ server.pool.entities)
    (sees : Sees (next.visibility.storage remote) entity) {value : V}
    (present : (server.cells type entity).component = some value) :
    ∃ cache, (next.cells type entity).syncCache = some cache ∧
      cache.data = settings.toBytes type value := by
  have ruled := (wellFormed.sees_tick_iff ticked connected live).mp sees
  have synchronized := (wellFormed.any_synchronized_iff ticked live
    (server.synchronizeNow now type)).mpr ⟨remote, connected, ruled, Or.inl elapsed⟩
  rw [syncCache_tick_of_component ticked typeMem live present, if_pos synchronized,
    Cell.refresh_of_component settings type present (wellFormed.caches_stale type entity)]
  exact ⟨_, rfl, rfl⟩

/-- **Value synchronization.**  In every run without silent refreshes, each tick leaves
every remote with the current values of the components whose timer elapsed. -/
theorem valuesSent_of_run (settings : SyncSettings V) (collisionFree : CollisionFree settings)
    (defaultSyncRate : Int) (actions : List (ServerAction V)) (now : Int)
    (rule : InstanceId → Entity → Bool) (order : List InstanceId) {server next : Server V}
    (runEq : run (step settings) (initial defaultSyncRate) actions = some server)
    (ticked : step settings server (.tick now rule order) = some next)
    (noSilentRefresh : Guarded (step settings) (NoSilentRefresh · settings)
      (initial defaultSyncRate) (actions ++ [.tick now rule order])) :
    ValuesSent settings server next now := by
  obtain ⟨earlier, last⟩ := guarded_append_iff.mp noSilentRefresh
  have before := cachesDelivered_run collisionFree
    (cachesDelivered_initial settings defaultSyncRate) earlier runEq
  have announced := (guarded_cons_iff.mp (last server runEq)).1
  have after := cachesDelivered_step collisionFree before announced ticked
  intro remote connected type typeMem elapsed entity live value present sees
  have connectedBefore := tick_connections ticked ▸ connected
  have liveBefore := tick_pool ticked ▸ live
  obtain ⟨cache, cached, data_eq⟩ := cached_of_elapsed before.wellFormed ticked connectedBefore
    typeMem elapsed liveBefore sees ((component_tick ticked typeMem liveBefore).symm.trans present)
  rw [after.delivered remote connected type typeMem entity live sees cache cached, data_eq]

end Steps

instance (settings : SyncSettings V) (server next : Server V) (now : Int) :
    Decidable (ValuesSent settings server next now) :=
  @List.decidableBAll InstanceId _
    (fun _ => @List.decidableBAll TypeHash _ (fun type => inferInstanceAs (Decidable (_ →
      ∀ entity ∈ next.pool.entities, ∀ value ∈ (next.cells type entity).component, _ → _)))
      settings.types)
    next.connections

theorem collisionFree_flagSettings : CollisionFree flagSettings := by
  intro type _
  change ∀ first second : Bool, shortXXH64 [if first then 1 else 0] =
    shortXXH64 [if second then 1 else 0] → [if first then 1 else 0] = [if second then 1 else 0]
  decide

/-- A flag is set while two remotes come to see its entity, the second one on a tick that
synchronizes nothing else; its change arrives at both. -/
def announcedRun : List (ServerAction Bool) :=
  [.addClientConnection 1, .addClientConnection 2, .createEntity 0,
    .setComponent 1 ⟨0, 0⟩ false, .tick 100 (fun remote _ => remote = 1) [2, 1],
    .tick 110 (fun _ _ => true) [1, 2], .setComponent 1 ⟨0, 0⟩ true]

theorem valuesSent_announcedRun :
    ∃ server next, run (step flagSettings) (initial 30) announcedRun = some server ∧
      step flagSettings server (.tick 200 (fun _ _ => true) [2, 1]) = some next ∧
      ValuesSent flagSettings server next 200 := by
  refine ⟨_, _, rfl, rfl, ?_⟩
  exact valuesSent_of_run flagSettings collisionFree_flagSettings 30 announcedRun 200
    (fun _ _ => true) [2, 1] rfl rfl (by decide +kernel)

/-- The same run, but the flag changes before the second remote comes to see its entity. -/
def withheldRun : List (ServerAction Bool) :=
  [.addClientConnection 1, .addClientConnection 2, .createEntity 0,
    .setComponent 1 ⟨0, 0⟩ false, .tick 100 (fun remote _ => remote = 1) [2, 1],
    .setComponent 1 ⟨0, 0⟩ true, .tick 110 (fun _ _ => true) [1, 2]]

/-- The first remote is never sent the new value of the flag. -/
theorem value_withheld :
    ∃ server next, run (step flagSettings) (initial 30) withheldRun = some server ∧
      step flagSettings server (.tick 200 (fun _ _ => true) [2, 1]) = some next ∧
      CollisionFree flagSettings ∧ ¬ValuesSent flagSettings server next 200 := by
  refine ⟨_, _, rfl, rfl, collisionFree_flagSettings, ?_⟩
  decide +kernel

end Server

end VoxelEngine.ClientServer
