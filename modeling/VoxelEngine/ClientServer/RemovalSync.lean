import VoxelEngine.ClientServer.ValueSync

/-!
# Component removals reach the remotes that hold the component

A removal is detected through the cache that outlives its component.  The first
connection that is served drops that cache, whether or not it was told anything, and
the stale value it holds may be pushed once more, behind the removal in the order of
handling.  Removals arrive in the runs in which no remote depends on the lost cache.
-/

namespace VoxelEngine.ClientServer

open VoxelEngine.Data
open VoxelEngine.Ecs
open VoxelEngine.Ecs.StatusStorage
open VoxelEngine.Transition

variable {V : Type}

/-- What a remote holds for a component of an entity once it handled one more message.
Destroying an entity takes its components with it. -/
def receive (type : TypeHash) (entity : Entity) (held : Option Bytes) :
    CoreMessage → Option Bytes
  | .setComponent data otherType other | .undoComponent data otherType other =>
      if otherType = type ∧ other = entity then some data else held
  | .delComponent otherType other =>
      if otherType = type ∧ other = entity then none else held
  | .delEntity changed => if entity ∈ changed then none else held
  | .addEntity _ | .partialSync _ _ _ | .compound _ => held

/-- Messages of the synchronizer about other cells do not matter. -/
theorem receive_of_not_about {type : TypeHash} {entity : Entity} {message : CoreMessage}
    (simple : (∃ otherType other,
      (∃ data, message = .setComponent data otherType other) ∨
        message = .delComponent otherType other))
    (held : Option Bytes) (other : about type entity message = false) :
    receive type entity held message = held := by
  obtain ⟨otherType, otherEntity, ⟨data, rfl⟩ | rfl⟩ := simple
  · have different : ¬(otherType = type ∧ otherEntity = entity) := by
      simpa [about] using other
    simp only [receive, if_neg different]
  · have different : ¬(otherType = type ∧ otherEntity = entity) := by
      simpa [about] using other
    simp only [receive, if_neg different]

/-- The visibility messages take away the components of the removed entities. -/
theorem foldl_receive_messages (type : TypeHash) (entity : Entity) (pass : VisibilityPass)
    (held : Option Bytes) :
    pass.messages.foldl (receive type entity) held =
      if entity ∈ pass.removed then none else held := by
  unfold VisibilityPass.messages
  by_cases nothing : pass.removed = []
  · split <;> simp [nothing, receive]
  · rw [if_neg nothing]
    split <;> rfl

namespace Server

/-- What a connected remote holds for a component of an entity. -/
def held (server : Server V) (remote : InstanceId) (type : TypeHash) (entity : Entity) :
    Option Bytes :=
  (server.handled remote).foldl (receive type entity) none

/-- The first connection that is served learns of the removal of a component with this
leftover cache, and needs to learn nothing else. -/
def FirstInformed (server : Server V) (rule : InstanceId → Entity → Bool) (elapsed : Bool)
    (type : TypeHash) (entity : Entity) (cache : SyncCache) (first : InstanceId) : Prop :=
  ¬server.BeginsToSee rule first entity ∧
    (server.KeepsSeeing rule first entity →
      if elapsed then cache.changed = false else server.held first type entity = none)

instance (server : Server V) (rule : InstanceId → Entity → Bool) (elapsed : Bool)
    (type : TypeHash) (entity : Entity) (cache : SyncCache) (first : InstanceId) :
    Decidable (server.FirstInformed rule elapsed type entity cache first) :=
  inferInstanceAs (Decidable (_ ∧ (_ → if elapsed then _ else _)))

/-- At this tick, a leftover cache is only dropped once nobody needs it any more. -/
def LeftoversUnneeded (server : Server V) (settings : SyncSettings V) (now : Int)
    (rule : InstanceId → Entity → Bool) (order : List InstanceId) : Prop :=
  ∀ type ∈ settings.types, ∀ entity ∈ server.pool.entities,
    (server.cells type entity).component = none →
      ∀ cache ∈ (server.cells type entity).syncCache,
        (∀ first ∈ order.head?,
          server.FirstInformed rule (server.synchronizeNow now type) type entity cache first) ∧
        ∀ remote ∈ order.tail, server.KeepsSeeing rule remote entity →
          server.held remote type entity = none

instance (server : Server V) (settings : SyncSettings V) (now : Int)
    (rule : InstanceId → Entity → Bool) (order : List InstanceId) [DecidableEq V] :
    Decidable (server.LeftoversUnneeded settings now rule order) :=
  @List.decidableBAll TypeHash _ (fun type => inferInstanceAs (Decidable
    (∀ entity ∈ server.pool.entities, _ → ∀ cache ∈ (server.cells type entity).syncCache,
      (∀ first ∈ order.head?, server.FirstInformed rule _ type entity cache first) ∧
      ∀ remote ∈ order.tail, _ → _)))
    settings.types

/-- No step drops a leftover cache that a remote depends on. -/
def NoLostRemoval (server : Server V) (settings : SyncSettings V) : ServerAction V → Prop
  | .tick now rule order => server.LeftoversUnneeded settings now rule order
  | _ => True

instance (server : Server V) (settings : SyncSettings V) [DecidableEq V] :
    (action : ServerAction V) → Decidable (server.NoLostRemoval settings action)
  | .tick now rule order =>
      inferInstanceAs (Decidable (server.LeftoversUnneeded settings now rule order))
  | .createEntity _ | .destroyEntity _ | .setComponent _ _ _ | .removeComponent _ _
  | .addClientConnection _ | .removeClientConnection _ | .setSyncRate _ _ => isTrue trivial

/-- A remote holds nothing that it could not still be told to drop: it sees the entity,
and the cache that betrays a removal is there. -/
structure HoldingsTracked (settings : SyncSettings V) (server : Server V) : Prop where
  wellFormed : server.WellFormed
  tracked : ∀ remote ∈ server.connections, ∀ type ∈ settings.types,
    ∀ entity ∈ server.pool.entities, server.held remote type entity ≠ none →
      Sees (server.visibility.storage remote) entity ∧
        (server.cells type entity).syncCache ≠ none
  issued : ∀ remote ∈ server.connections, ∀ type entity,
    server.held remote type entity ≠ none →
      entity.version < server.pool.nextVersion entity.index

section Steps

variable {settings : SyncSettings V} {server next : Server V}

theorem holdingsTracked_initial (settings : SyncSettings V) (defaultSyncRate : Int) :
    HoldingsTracked settings (initial defaultSyncRate) where
  wellFormed := wellFormed_initial defaultSyncRate
  tracked _ connected := by simp [initial] at connected
  issued _ connected := by simp [initial] at connected

private theorem holdingsTracked_createEntity (tracked : HoldingsTracked settings server)
    (wellFormed : next.WellFormed) {index : Nat}
    (created : server.createEntity index = some next) : HoldingsTracked settings next := by
  obtain ⟨pool, poolEq, rfl⟩ := createEntity_eq_some created
  refine ⟨wellFormed, ?_, ?_⟩
  · intro remote connected type typeMem entity live holds
    have issued := tracked.issued remote connected type entity holds
    have old := EntityPool.mem_of_mem_create poolEq issued live
    exact tracked.tracked remote connected type typeMem entity old holds
  · intro remote connected type entity holds
    exact EntityPool.issued_create poolEq (tracked.issued remote connected type entity holds)

private theorem holdingsTracked_destroyEntity (tracked : HoldingsTracked settings server)
    (wellFormed : next.WellFormed) {entity : Entity}
    (destroyed : server.destroyEntity entity = some next) : HoldingsTracked settings next := by
  obtain ⟨pool, poolEq, rfl⟩ := destroyEntity_eq_some destroyed
  refine ⟨wellFormed, ?_, ?_⟩
  · intro remote connected type typeMem other live holds
    obtain ⟨other_ne, old⟩ := (EntityPool.mem_destroy_iff poolEq).mp live
    have before := tracked.tracked remote connected type typeMem other old holds
    simpa [Function.update_of_ne other_ne] using before
  · intro remote connected type other holds
    simp only [(EntityPool.destroy_eq_some poolEq).2.2]
    exact tracked.issued remote connected type other holds

private theorem holdingsTracked_setCell (tracked : HoldingsTracked settings server)
    {type : TypeHash} {entity : Entity} (component : Option V)
    (wellFormed : (server.setCell type entity
      { server.cells type entity with component := component }).WellFormed) :
    HoldingsTracked settings (server.setCell type entity
      { server.cells type entity with component := component }) := by
  refine ⟨wellFormed, ?_, tracked.issued⟩
  intro remote connected otherType typeMem other live holds
  rw [setCell_syncCache]
  exact tracked.tracked remote connected otherType typeMem other live holds

private theorem holdingsTracked_addClientConnection (tracked : HoldingsTracked settings server)
    (added : InstanceId) (wellFormed : (server.addClientConnection added).WellFormed) :
    HoldingsTracked settings (server.addClientConnection added) := by
  unfold addClientConnection at wellFormed ⊢
  split
  · exact tracked
  · rename_i unknown
    rw [dif_neg unknown] at wellFormed
    have held_eq : ∀ remote, remote ∈ added :: server.connections → ∀ type entity,
        ((Function.update server.sent added [] remote).flatMap CoreMessage.leaves).foldl
            (receive type entity) none ≠ none →
          remote ∈ server.connections ∧ server.held remote type entity ≠ none := by
      intro remote connected type entity holds
      by_cases remote_eq : remote = added
      · subst remote_eq
        simp at holds
      · rw [Function.update_of_ne remote_eq] at holds
        exact ⟨(List.mem_cons.mp connected).resolve_left remote_eq, holds⟩
    refine ⟨wellFormed, ?_, ?_⟩
    · intro remote connected type typeMem entity live holds
      obtain ⟨old, oldHolds⟩ := held_eq remote connected type entity holds
      exact tracked.tracked remote old type typeMem entity live oldHolds
    · intro remote connected type entity holds
      obtain ⟨old, oldHolds⟩ := held_eq remote connected type entity holds
      exact tracked.issued remote old type entity oldHolds

private theorem holdingsTracked_removeClientConnection
    (tracked : HoldingsTracked settings server) (removed : InstanceId)
    (wellFormed : (server.removeClientConnection removed).WellFormed) :
    HoldingsTracked settings (server.removeClientConnection removed) := by
  unfold removeClientConnection at wellFormed ⊢
  split
  · rename_i known
    rw [if_pos known] at wellFormed
    refine ⟨wellFormed, ?_, ?_⟩
    · intro remote connected type typeMem entity live holds
      have remaining := (server.connectionsNodup.mem_erase_iff).mp connected
      rw [EntityVisibility.storage_onRemoteDisconnected_of_ne _ remaining.1]
      exact tracked.tracked remote remaining.2 type typeMem entity live holds
    · intro remote connected type entity holds
      exact tracked.issued remote (List.mem_of_mem_erase connected) type entity holds
  · exact tracked

variable {now : Int} {rule : InstanceId → Entity → Bool} {order : List InstanceId}

/-- What a remote holds after a tick: the visibility messages come first, then the parts
of the compound message about this cell, last pushed first. -/
private theorem held_tick (ticked : server.tick settings now rule order = some next)
    {remote : InstanceId} (connected : remote ∈ server.connections) (type : TypeHash)
    (entity : Entity) :
    ∃ (before after : List InstanceId) (message : List CoreMessage),
      order = before ++ remote :: after ∧
      next.held remote type entity =
        (message.filter (about type entity)).reverse.foldl (receive type entity)
          (if entity ∈ (server.visibilityPass rule remote).removed then none
            else server.held remote type entity) ∧
      (entity ∉ server.pool.entities → message.filter (about type entity) = []) ∧
      (type ∈ settings.types → entity ∈ server.pool.entities →
        message.filter (about type entity) =
          (((server.cells type entity).serve settings type entity
              (fun other => (next.visibility.storage other).get? entity)
              (server.synchronizeNow now type) before).performUpdate settings type entity
            ((next.visibility.storage remote).get? entity)
            (server.synchronizeNow now type)).2) := by
  obtain ⟨before, after, message, orderEq, handledEq, shape, messageEq⟩ :=
    exists_tick_handled ticked connected
  refine ⟨before, after, message, orderEq, ?_, ?_, ?_⟩
  · rw [held, handledEq, List.foldl_append, List.foldl_append, foldl_receive_messages, ← held,
      ← List.filter_reverse]
    refine foldl_filter_of_neutral _ ?_ _
    intro current part mem other
    obtain ⟨otherType, _, otherEntity, _, partShape⟩ := shape part (List.mem_reverse.mp mem)
    exact receive_of_not_about ⟨otherType, otherEntity, partShape⟩ current other
  · intro dead
    rw [List.filter_eq_nil_iff]
    intro part mem aboutEntity
    obtain ⟨otherType, _, otherEntity, otherLive, ⟨data, rfl⟩ | rfl⟩ := shape part mem
    · have same : otherType = type ∧ otherEntity = entity := by simpa [about] using aboutEntity
      exact dead (same.2 ▸ otherLive)
    · have same : otherType = type ∧ otherEntity = entity := by simpa [about] using aboutEntity
      exact dead (same.2 ▸ otherLive)
  · intro typeMem live
    exact messageEq type typeMem entity live

/-- What survives the visibility messages belongs to an entity that stays visible. -/
private theorem seen_of_survives (tracked : HoldingsTracked settings server)
    {remote : InstanceId} (connected : remote ∈ server.connections) {type : TypeHash}
    (typeMem : type ∈ settings.types) {entity : Entity} (live : entity ∈ server.pool.entities)
    (survives : (if entity ∈ (server.visibilityPass rule remote).removed then none
      else server.held remote type entity) ≠ none) :
    server.KeepsSeeing rule remote entity ∧ server.held remote type entity ≠ none ∧
      (server.cells type entity).syncCache ≠ none := by
  split at survives
  · contradiction
  · rename_i notRemoved
    rw [tracked.wellFormed.mem_removed_iff live] at notRemoved
    obtain ⟨sees, cached⟩ :=
      tracked.tracked remote connected type typeMem entity live survives
    have ruled : rule remote entity = true := by
      by_contra hidden
      exact notRemoved ⟨sees, Bool.eq_false_iff.mpr hidden⟩
    exact ⟨⟨sees, ruled⟩, survives, cached⟩

/-- While the component is there, a remote that holds it sees the entity and the cache is
kept. -/
private theorem tracked_tick_of_component (tracked : HoldingsTracked settings server)
    (ticked : server.tick settings now rule order = some next) {remote : InstanceId}
    (connected : remote ∈ server.connections) {type : TypeHash}
    (typeMem : type ∈ settings.types) {entity : Entity} (live : entity ∈ server.pool.entities)
    {value : V} (present : (server.cells type entity).component = some value)
    (holds : next.held remote type entity ≠ none) :
    rule remote entity = true ∧ (next.cells type entity).syncCache ≠ none := by
  have wellFormed := tracked.wellFormed
  have refreshed := Cell.refresh_of_component settings type present
    (wellFormed.caches_stale type entity)
  obtain ⟨before, after, message, _, heldEq, _, messageEq⟩ :=
    held_tick ticked connected type entity
  have pushed := messageEq typeMem live
  rw [Cell.messages_of_component _ _ _ _ _ _ _ present, wellFormed.tick_get? ticked connected live,
    Cell.changeMessages_update _ _ (congrArg Cell.syncCache refreshed)] at pushed
  rw [syncCache_tick_of_component ticked typeMem live present, refreshed]
  split at pushed
  · rename_i announced
    simp only [Bool.and_eq_true, Bool.or_eq_true, Bool.not_eq_true'] at announced
    obtain ⟨ruled, reason⟩ := announced
    have synchronized := (wellFormed.any_synchronized_iff ticked live
      (server.synchronizeNow now type)).mpr ⟨remote, connected, ruled,
        reason.imp And.left Bool.eq_false_iff.mp⟩
    refine ⟨ruled, ?_⟩
    rw [if_pos synchronized]
    simp
  · rw [pushed, List.reverse_nil, List.foldl_nil] at heldEq
    rw [heldEq] at holds
    obtain ⟨keeps, _, cached⟩ := seen_of_survives tracked connected typeMem live holds
    refine ⟨keeps.2, ?_⟩
    split
    · simp
    · exact cached

/-- Once the component is gone, no remote holds it after the tick. -/
private theorem held_tick_of_removed (tracked : HoldingsTracked settings server)
    (unneeded : server.LeftoversUnneeded settings now rule order)
    (ticked : server.tick settings now rule order = some next) {remote : InstanceId}
    (connected : remote ∈ server.connections) {type : TypeHash}
    (typeMem : type ∈ settings.types) {entity : Entity} (live : entity ∈ server.pool.entities)
    (absent : (server.cells type entity).component = none) :
    next.held remote type entity = none := by
  have wellFormed := tracked.wellFormed
  obtain ⟨before, after, message, orderEq, heldEq, _, messageEq⟩ :=
    held_tick ticked connected type entity
  have pushed := messageEq typeMem live
  rw [Cell.messages_of_removed _ _ _ _ _ _ _ absent,
    wellFormed.tick_get? ticked connected live] at pushed
  rw [pushed] at heldEq
  by_contra holds
  cases cached : (server.cells type entity).syncCache with
  | none =>
      have silent : (server.cells type entity).messages type entity
          (some ((status (server.visibility.storage remote) entity).update
            (rule remote entity))) (server.synchronizeNow now type) = [] := by
        simp [Cell.messages, changeMessages, Cell.removed, cached]
      rw [silent, ite_self, List.reverse_nil, List.foldl_nil] at heldEq
      rw [heldEq] at holds
      exact (seen_of_survives tracked connected typeMem live holds).2.2 cached
  | some cache =>
      have needs := unneeded type typeMem entity live absent cache cached
      cases before with
      | nil =>
          obtain ⟨knows, informed⟩ := needs.1 remote (by rw [orderEq]; rfl)
          rw [if_pos rfl, Cell.messages_update_of_leftover _ _ absent cached] at heldEq
          by_cases keeps : server.KeepsSeeing rule remote entity
          · have bit : (status (server.visibility.storage remote) entity).visibilityBit = true :=
              keeps.1
            have learns := informed keeps
            cases elapsed : server.synchronizeNow now type with
            | true =>
                rw [elapsed, if_pos rfl] at learns
                simp [keeps.2, bit, elapsed, learns, receive] at heldEq
                exact holds heldEq
            | false =>
                rw [elapsed] at learns
                simp only [keeps.2, bit, elapsed] at heldEq
                rw [heldEq] at holds
                exact (seen_of_survives tracked connected typeMem live holds).2.1 learns
          · have hidden : rule remote entity = false := by
              by_contra ruled
              have seen : rule remote entity = true := eq_true_of_ne_false ruled
              by_cases sees : Sees (server.visibility.storage remote) entity
              · exact keeps ⟨sees, seen⟩
              · exact knows ⟨sees, seen⟩
            simp only [hidden, Bool.false_and] at heldEq
            rw [heldEq] at holds
            exact keeps (seen_of_survives tracked connected typeMem live holds).1
      | cons first rest =>
          rw [if_neg (List.cons_ne_nil _ _), List.reverse_nil, List.foldl_nil] at heldEq
          rw [heldEq] at holds
          obtain ⟨keeps, holdsBefore, _⟩ := seen_of_survives tracked connected typeMem live holds
          refine holdsBefore (needs.2 remote ?_ keeps)
          rw [orderEq]
          simp

private theorem holdingsTracked_tick (tracked : HoldingsTracked settings server)
    (wellFormed : next.WellFormed)
    (unneeded : server.LeftoversUnneeded settings now rule order)
    (ticked : server.tick settings now rule order = some next) :
    HoldingsTracked settings next := by
  refine ⟨wellFormed, ?_, ?_⟩
  · intro remote connected type typeMem entity live holds
    rw [tick_connections ticked] at connected
    rw [tick_pool ticked] at live
    rw [tracked.wellFormed.sees_tick_iff ticked connected live]
    cases component : (server.cells type entity).component with
    | none =>
        exact absurd (held_tick_of_removed tracked unneeded ticked connected typeMem live component)
          holds
    | some value =>
        exact tracked_tick_of_component tracked ticked connected typeMem live component holds
  · intro remote connected type entity holds
    rw [tick_connections ticked] at connected
    rw [tick_pool ticked]
    by_cases live : entity ∈ server.pool.entities
    · exact server.pool.issued entity live
    · obtain ⟨_, _, message, _, heldEq, silent, _⟩ := held_tick ticked connected type entity
      rw [silent live, List.reverse_nil, List.foldl_nil] at heldEq
      rw [heldEq] at holds
      split at holds
      · contradiction
      · exact tracked.issued remote connected type entity holds

/-- Every step without a lost removal keeps the holdings tracked. -/
private theorem holdingsTracked_step {action : ServerAction V}
    (tracked : HoldingsTracked settings server)
    (noLostRemoval : server.NoLostRemoval settings action)
    (stepEq : step settings server action = some next) : HoldingsTracked settings next := by
  have wellFormed := wellFormed_step settings tracked.wellFormed stepEq
  cases action with
  | createEntity index => exact holdingsTracked_createEntity tracked wellFormed stepEq
  | destroyEntity entity => exact holdingsTracked_destroyEntity tracked wellFormed stepEq
  | setComponent type entity value =>
      obtain ⟨_, rfl⟩ := setComponent_eq_some stepEq
      exact holdingsTracked_setCell tracked (some value) wellFormed
  | removeComponent type entity =>
      obtain ⟨_, rfl⟩ := removeComponent_eq_some stepEq
      exact holdingsTracked_setCell tracked none wellFormed
  | addClientConnection remote =>
      cases stepEq
      exact holdingsTracked_addClientConnection tracked remote wellFormed
  | removeClientConnection remote =>
      cases stepEq
      exact holdingsTracked_removeClientConnection tracked remote wellFormed
  | setSyncRate type interval =>
      cases stepEq
      exact ⟨wellFormed, tracked.tracked, tracked.issued⟩
  | tick now rule order => exact holdingsTracked_tick tracked wellFormed noLostRemoval stepEq

/-- Runs without lost removals reach only states in which the holdings are tracked. -/
theorem holdingsTracked_run {actions : List (ServerAction V)}
    (start : HoldingsTracked settings server)
    (guarded : Guarded (step settings) (NoLostRemoval · settings) server actions)
    (runEq : run (step settings) server actions = some next) :
    HoldingsTracked settings next :=
  run_invariant (fun _ _ _ => holdingsTracked_step) start guarded runEq

end Steps

/-- After a tick of `server` that ended in `next`: where the timer elapsed, no remote that
saw an entity all along still holds a component which the entity does not have. -/
def RemovalsHandled (settings : SyncSettings V) (server next : Server V) (now : Int) : Prop :=
  ∀ remote ∈ next.connections, ∀ type ∈ settings.types,
    server.synchronizeNow now type = true →
      ∀ entity ∈ next.pool.entities, (next.cells type entity).component = none →
        Sees (server.visibility.storage remote) entity →
          Sees (next.visibility.storage remote) entity →
            next.held remote type entity = none

/-- **Removal propagation.**  In every run without lost removals, each tick leaves no
remote with a component that was removed. -/
theorem removalsHandled_of_run (settings : SyncSettings V) (defaultSyncRate : Int)
    (actions : List (ServerAction V)) (now : Int) (rule : InstanceId → Entity → Bool)
    (order : List InstanceId) {server next : Server V}
    (runEq : run (step settings) (initial defaultSyncRate) actions = some server)
    (ticked : step settings server (.tick now rule order) = some next)
    (noLostRemoval : Guarded (step settings) (NoLostRemoval · settings)
      (initial defaultSyncRate) (actions ++ [.tick now rule order])) :
    RemovalsHandled settings server next now := by
  obtain ⟨earlier, last⟩ := guarded_append_iff.mp noLostRemoval
  have before := holdingsTracked_run (holdingsTracked_initial settings defaultSyncRate)
    earlier runEq
  have unneeded := (guarded_cons_iff.mp (last server runEq)).1
  intro remote connected type typeMem _ entity live absent _ _
  have connectedBefore := tick_connections ticked ▸ connected
  have liveBefore := tick_pool ticked ▸ live
  refine held_tick_of_removed before unneeded ticked connectedBefore typeMem liveBefore ?_
  rw [← component_tick ticked typeMem liveBefore, absent]

/-- A flag is set, synchronized twice with the only remote, and removed. -/
def noticedRun : List (ServerAction Bool) :=
  [.addClientConnection 1, .createEntity 0, .setComponent 1 ⟨0, 0⟩ true,
    .tick 100 (fun _ _ => true) [1], .tick 200 (fun _ _ => true) [1],
    .removeComponent 1 ⟨0, 0⟩]

theorem removalsHandled_noticedRun :
    ∃ server next, run (step flagSettings) (initial 30) noticedRun = some server ∧
      step flagSettings server (.tick 300 (fun _ _ => true) [1]) = some next ∧
      RemovalsHandled flagSettings server next 300 := by
  refine ⟨_, _, rfl, rfl, ?_⟩
  exact removalsHandled_of_run flagSettings 30 noticedRun 300 (fun _ _ => true) [1] rfl rfl
    (by decide +kernel)

/-- The same with a second remote. -/
def lostRun : List (ServerAction Bool) :=
  [.addClientConnection 1, .addClientConnection 2, .createEntity 0,
    .setComponent 1 ⟨0, 0⟩ true, .tick 100 (fun _ _ => true) [1, 2],
    .tick 200 (fun _ _ => true) [1, 2], .removeComponent 1 ⟨0, 0⟩]

instance (settings : SyncSettings V) (server next : Server V) (now : Int) [DecidableEq V] :
    Decidable (RemovalsHandled settings server next now) :=
  @List.decidableBAll InstanceId _
    (fun _ => @List.decidableBAll TypeHash _ (fun _ => inferInstanceAs (Decidable (_ →
      ∀ entity ∈ next.pool.entities, _ → _ → _ → _)))
      settings.types)
    next.connections

/-- The second remote keeps the flag. -/
theorem removal_lost :
    ∃ server next, run (step flagSettings) (initial 30) lostRun = some server ∧
      step flagSettings server (.tick 300 (fun _ _ => true) [1, 2]) = some next ∧
      ¬RemovalsHandled flagSettings server next 300 := by
  refine ⟨_, _, rfl, rfl, ?_⟩
  decide +kernel

end Server

end VoxelEngine.ClientServer
