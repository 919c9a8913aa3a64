import VoxelEngine.ClientServer.EntityReplication

/-!
# Recycled entity identifiers

A client creates entities under the identifiers the server sends.  That only works while
the index is free: otherwise its own storage falls back to another identifier.  Here the
client's storage is followed message by message, and the messages about one identifier
are counted.
-/

namespace VoxelEngine.ClientServer

open VoxelEngine.Data
open VoxelEngine.Ecs
open VoxelEngine.Ecs.StatusStorage
open VoxelEngine.Transition

variable {V : Type}

/-- One execution of `create_entity_with_id` on a client. -/
structure Creation where
  requested : Entity
  created : Entity
  indexFree : Bool
  deriving DecidableEq

/-- The part of a client's registry that entity messages act on, and a log of the
entities it created. -/
structure ClientRegistry where
  entities : List Entity
  creations : List Creation

namespace ClientRegistry

/-- The registry of a client that just connected. -/
def empty : ClientRegistry :=
  ⟨[], []⟩

/-- `registry::create_entity_with_id`: when the index of the hint is taken, the storage
chooses an identifier of its own. -/
def createEntityWithId (fallback : List Entity → Entity) (client : ClientRegistry)
    (id : Entity) : ClientRegistry :=
  let indexFree := decide (id.index ∉ client.entities.map Entity.index)
  let created := if indexFree then id else fallback client.entities
  { entities := created :: client.entities
    creations := client.creations ++ [⟨id, created, indexFree⟩] }

/-- `registry::destroy_entity`. -/
def destroyEntity (client : ClientRegistry) (id : Entity) : ClientRegistry :=
  { client with entities := client.entities.filter fun entity => entity ≠ id }

/-- `on_msg_add_del_entity_received`. -/
def handle (fallback : List Entity → Entity) (client : ClientRegistry) :
    CoreMessage → ClientRegistry
  | .addEntity changed => changed.foldl (createEntityWithId fallback) client
  | .delEntity changed => changed.foldl destroyEntity client
  | _ => client

/-- Every creation found the index free, and so created what was requested. -/
def Exact (client : ClientRegistry) : Prop :=
  ∀ creation ∈ client.creations,
    creation.indexFree = true ∧ creation.created = creation.requested

theorem foldl_handle_messages (fallback : List Entity → Entity) (pass : VisibilityPass)
    (client : ClientRegistry) :
    pass.messages.foldl (handle fallback) client =
      pass.removed.foldl destroyEntity
        (pass.added.foldl (createEntityWithId fallback) client) := by
  unfold VisibilityPass.messages
  split
  · rename_i noneAdded
    split
    · rename_i noneRemoved
      rw [noneAdded, noneRemoved]
      rfl
    · rw [noneAdded]
      rfl
  · split
    · rename_i noneRemoved
      rw [noneRemoved]
      rfl
    · rfl

/-- Creating entities whose indices are free creates exactly them. -/
theorem foldl_createEntityWithId (fallback : List Entity → Entity) {added : List Entity}
    (distinct : (added.map Entity.index).Nodup) {client : ClientRegistry}
    (vacant : ∀ id ∈ added, ∀ entity ∈ client.entities, entity.index ≠ id.index)
    (exact : client.Exact) :
    (∀ entity, entity ∈ (added.foldl (createEntityWithId fallback) client).entities ↔
        entity ∈ added ∨ entity ∈ client.entities) ∧
      (added.foldl (createEntityWithId fallback) client).Exact := by
  induction added generalizing client with
  | nil => exact ⟨fun entity => by simp, exact⟩
  | cons id rest ih =>
      rw [List.map_cons, List.nodup_cons] at distinct
      have free : id.index ∉ client.entities.map Entity.index := by
        intro taken
        obtain ⟨entity, mem, index_eq⟩ := List.mem_map.mp taken
        exact vacant id List.mem_cons_self entity mem index_eq
      have created : createEntityWithId fallback client id =
          ⟨id :: client.entities, client.creations ++ [⟨id, id, true⟩]⟩ := by
        simp [createEntityWithId, free]
      have restVacant : ∀ later ∈ rest, ∀ entity ∈ id :: client.entities,
          entity.index ≠ later.index := by
        intro later laterMem entity mem index_eq
        rcases List.mem_cons.mp mem with rfl | old
        · exact distinct.1 (List.mem_map.mpr ⟨later, laterMem, index_eq.symm⟩)
        · exact vacant later (List.mem_cons_of_mem _ laterMem) entity old index_eq
      have stillExact : Exact
          ⟨id :: client.entities, client.creations ++ [⟨id, id, true⟩]⟩ := by
        intro creation mem
        rcases List.mem_append.mp mem with old | new
        · exact exact creation old
        · rw [List.mem_singleton.mp new]
          exact ⟨rfl, rfl⟩
      rw [List.foldl_cons, created]
      obtain ⟨members, allExact⟩ := ih distinct.2 restVacant stillExact
      refine ⟨fun entity => ?_, allExact⟩
      rw [members, List.mem_cons, List.mem_cons, or_assoc]
      exact or_left_comm

/-- Destroying entities leaves the others and the log alone. -/
theorem foldl_destroyEntity (removed : List Entity) (client : ClientRegistry) :
    (∀ entity, entity ∈ (removed.foldl destroyEntity client).entities ↔
        entity ∈ client.entities ∧ entity ∉ removed) ∧
      (removed.foldl destroyEntity client).creations = client.creations := by
  induction removed generalizing client with
  | nil => exact ⟨fun entity => by simp, rfl⟩
  | cons id rest ih =>
      obtain ⟨members, creations_eq⟩ := ih (client.destroyEntity id)
      rw [List.foldl_cons]
      refine ⟨fun entity => ?_, creations_eq⟩
      rw [members, List.mem_cons, not_or]
      simp [destroyEntity, and_assoc]

end ClientRegistry

/-- How often an identifier was announced by `MSG_ADD_ENTITY` and by `MSG_DEL_ENTITY`. -/
structure Mentions where
  additions : Nat
  deletions : Nat
  deriving DecidableEq

namespace Mentions

/-- Count one more message. -/
def count (entity : Entity) (mentions : Mentions) : CoreMessage → Mentions
  | .addEntity changed => { mentions with additions := mentions.additions + changed.count entity }
  | .delEntity changed => { mentions with deletions := mentions.deletions + changed.count entity }
  | _ => mentions

theorem foldl_count_messages (entity : Entity) (pass : VisibilityPass) (mentions : Mentions) :
    pass.messages.foldl (count entity) mentions =
      ⟨mentions.additions + pass.added.count entity,
        mentions.deletions + pass.removed.count entity⟩ := by
  unfold VisibilityPass.messages
  split
  · rename_i noneAdded
    split
    · rename_i noneRemoved
      simp [noneAdded, noneRemoved]
    · simp [count, noneAdded]
  · split
    · rename_i noneRemoved
      simp [count, noneRemoved]
    · simp [count]

end Mentions

namespace Server

/-- The registry of a client that handled everything it was sent. -/
def client (fallback : List Entity → Entity) (server : Server V) (remote : InstanceId) :
    ClientRegistry :=
  readBy (ClientRegistry.handle fallback) ClientRegistry.empty server remote

/-- How often a remote was told to create and to delete an entity. -/
def mentions (entity : Entity) (server : Server V) (remote : InstanceId) : Mentions :=
  readBy (Mentions.count entity) ⟨0, 0⟩ server remote

section Steps

variable {settings : SyncSettings V} {server next : Server V}

/-- The entities a traceable update adds find their indices free on the client. -/
private theorem client_updated (fallback : List Entity → Entity)
    (retractable : server.Retractable) {remote : InstanceId}
    (connected : remote ∈ server.connections) (rule : InstanceId → Entity → Bool)
    {client : ClientRegistry}
    (agrees : (∀ entity,
        entity ∈ client.entities ↔ Sees (server.visibility.storage remote) entity) ∧
      client.Exact) :
    (∀ entity, entity ∈ ((server.visibilityPass rule remote).messages.foldl
        (ClientRegistry.handle fallback) client).entities ↔
          Sees (server.visibilityPass rule remote).storage entity) ∧
      ((server.visibilityPass rule remote).messages.foldl
        (ClientRegistry.handle fallback) client).Exact := by
  obtain ⟨seen_iff, exact⟩ := agrees
  have distinct := server.pool.distinct
  have sublist : (server.visibilityPass rule remote).added.Sublist server.pool.entities :=
    VisibilityPass.added_updateConnection_sublist _ _ _ distinct
  have vacant : ∀ id ∈ (server.visibilityPass rule remote).added,
      ∀ entity ∈ client.entities, entity.index ≠ id.index := by
    intro id added entity mem index_eq
    obtain ⟨live, unseen, _⟩ :=
      (VisibilityPass.mem_added_updateConnection_iff _ _ distinct).mp added
    have sees := (seen_iff entity).mp mem
    have same := retractable.slot_own remote connected entity sees id live index_eq.symm
    exact unseen (same ▸ sees)
  obtain ⟨members, allExact⟩ := ClientRegistry.foldl_createEntityWithId fallback
    (distinct.sublist (sublist.map Entity.index)) vacant exact
  obtain ⟨remaining, creations_eq⟩ := ClientRegistry.foldl_destroyEntity
    (server.visibilityPass rule remote).removed
    ((server.visibilityPass rule remote).added.foldl
      (ClientRegistry.createEntityWithId fallback) client)
  rw [ClientRegistry.foldl_handle_messages]
  refine ⟨fun entity => ?_, ?_⟩
  · rw [remaining, members, retractable.sees_visibilityPass_iff connected, seen_iff, or_comm]
  · intro creation mem
    rw [creations_eq] at mem
    exact allExact creation mem

/-- Additions and deletions of an entity alternate. -/
private theorem mentions_updated (entity : Entity) (retractable : server.Retractable)
    {remote : InstanceId} (connected : remote ∈ server.connections)
    (rule : InstanceId → Entity → Bool) {mentions : Mentions}
    (balanced : mentions.additions = mentions.deletions +
      if Sees (server.visibility.storage remote) entity then 1 else 0) :
    ((server.visibilityPass rule remote).messages.foldl
        (Mentions.count entity) mentions).additions =
      ((server.visibilityPass rule remote).messages.foldl
          (Mentions.count entity) mentions).deletions +
        if Sees (server.visibilityPass rule remote).storage entity then 1 else 0 := by
  have distinct := server.pool.distinct
  have dead := retractable.wellFormed.destroyed_dead
  have addedNodup : (server.visibilityPass rule remote).added.Nodup :=
    server.pool.nodup.sublist (VisibilityPass.added_updateConnection_sublist _ _ _ distinct)
  have removedNodup : (server.visibilityPass rule remote).removed.Nodup :=
    VisibilityPass.removed_updateConnection_nodup _ _ distinct dead
      retractable.wellFormed.destroyed_nodup
  rw [Mentions.foldl_count_messages, addedNodup.count, removedNodup.count]
  simp only [retractable.sees_visibilityPass_iff connected rule entity]
  by_cases sees : Sees (server.visibility.storage remote) entity
  · have notAdded : entity ∉ (server.visibilityPass rule remote).added := fun added =>
      ((VisibilityPass.mem_added_updateConnection_iff _ _ distinct).mp added).2.1 sees
    by_cases removed : entity ∈ (server.visibilityPass rule remote).removed
    · simp [balanced, sees, notAdded, removed]
    · simp [balanced, sees, notAdded, removed]
  · have notRemoved : entity ∉ (server.visibilityPass rule remote).removed := fun removed =>
      sees (VisibilityPass.sees_of_mem_removed _ _ distinct dead removed)
    simp [balanced, sees, notRemoved]

/-- Every client created exactly the entities it was asked for, and the messages about
each entity balance. -/
structure Recycled (fallback : List Entity → Entity) (server : Server V) : Prop where
  retractable : server.Retractable
  client_agrees : ∀ remote ∈ server.connections,
    (∀ entity, entity ∈ (server.client fallback remote).entities ↔
      Sees (server.visibility.storage remote) entity) ∧
      (server.client fallback remote).Exact
  balanced : ∀ entity, ∀ remote ∈ server.connections,
    (server.mentions entity remote).additions = (server.mentions entity remote).deletions +
      if Sees (server.visibility.storage remote) entity then 1 else 0

theorem recycled_initial (fallback : List Entity → Entity) (defaultSyncRate : Int) :
    Recycled fallback (initial defaultSyncRate : Server V) where
  retractable := retractable_initial defaultSyncRate
  client_agrees _ connected := by simp [initial] at connected
  balanced _ _ connected := by simp [initial] at connected

theorem recycled_step {fallback : List Entity → Entity} {action : ServerAction V}
    (recycled : Recycled fallback server) (traceable : server.Traceable action)
    (stepEq : step settings server action = some next) : Recycled fallback next where
  retractable := retractable_step recycled.retractable traceable stepEq
  client_agrees := by
    refine readBy_step
      (fun (client : ClientRegistry) storage =>
        (∀ entity, entity ∈ client.entities ↔ Sees storage entity) ∧
        client.Exact)
      (fun _ _ _ _ => rfl) (fun _ _ _ => rfl) ?_ ?_ recycled.retractable.wellFormed stepEq
      recycled.client_agrees
    · refine ⟨fun entity => ?_, ?_⟩
      · simp [ClientRegistry.empty, sees_iff]
      · simp [ClientRegistry.empty, ClientRegistry.Exact]
    · intro remote connected rule client agrees
      exact client_updated fallback recycled.retractable connected rule agrees
  balanced entity := by
    refine readBy_step
      (fun (mentions : Mentions) storage => mentions.additions = mentions.deletions +
        if Sees storage entity then 1 else 0)
      (fun _ _ _ _ => rfl) (fun _ _ _ => rfl) ?_ ?_ recycled.retractable.wellFormed stepEq
      (recycled.balanced entity)
    · simp [sees_iff]
    · intro remote connected rule mentions balanced
      exact mentions_updated entity recycled.retractable connected rule balanced

/-- Traceable runs reach only states in which the clients followed exactly. -/
theorem recycled_run {fallback : List Entity → Entity} {actions : List (ServerAction V)}
    (start : Recycled fallback server)
    (guarded : Guarded (step settings) Traceable server actions)
    (runEq : run (step settings) server actions = some next) : Recycled fallback next :=
  run_invariant (fun _ _ _ => recycled_step) start guarded runEq

/-- A destroyed identifier is never handed out again. -/
theorem dead_step {action : ServerAction V} {entity : Entity}
    (dead : entity ∉ server.pool.entities)
    (issued : entity.version < server.pool.nextVersion entity.index)
    (stepEq : step settings server action = some next) :
    entity ∉ next.pool.entities ∧ entity.version < next.pool.nextVersion entity.index := by
  cases action with
  | createEntity index =>
      obtain ⟨pool, poolEq, rfl⟩ := createEntity_eq_some stepEq
      constructor
      · intro live
        exact dead (EntityPool.mem_of_mem_create poolEq issued live)
      · exact EntityPool.issued_create poolEq issued
  | destroyEntity other =>
      obtain ⟨pool, poolEq, rfl⟩ := destroyEntity_eq_some stepEq
      refine ⟨fun live => dead ((EntityPool.mem_destroy_iff poolEq).mp live).2, ?_⟩
      simp only [(EntityPool.destroy_eq_some poolEq).2.2]
      exact issued
  | setComponent type other value =>
      obtain ⟨_, rfl⟩ := setComponent_eq_some stepEq
      exact ⟨dead, issued⟩
  | removeComponent type other =>
      obtain ⟨_, rfl⟩ := removeComponent_eq_some stepEq
      exact ⟨dead, issued⟩
  | addClientConnection remote =>
      cases stepEq
      unfold addClientConnection
      split <;> exact ⟨dead, issued⟩
  | removeClientConnection remote =>
      cases stepEq
      unfold removeClientConnection
      split <;> exact ⟨dead, issued⟩
  | setSyncRate type interval =>
      cases stepEq
      exact ⟨dead, issued⟩
  | tick now rule order =>
      rw [tick_pool stepEq]
      exact ⟨dead, issued⟩

/-- Only its own disconnection takes a remote off the list. -/
theorem connected_step {action : ServerAction V} {remote : InstanceId}
    (connected : remote ∈ server.connections)
    (stays : action ≠ .removeClientConnection remote)
    (stepEq : step settings server action = some next) : remote ∈ next.connections := by
  cases action with
  | createEntity index =>
      obtain ⟨pool, _, rfl⟩ := createEntity_eq_some stepEq
      exact connected
  | destroyEntity other =>
      obtain ⟨pool, _, rfl⟩ := destroyEntity_eq_some stepEq
      exact connected
  | setComponent type other value =>
      obtain ⟨_, rfl⟩ := setComponent_eq_some stepEq
      exact connected
  | removeComponent type other =>
      obtain ⟨_, rfl⟩ := removeComponent_eq_some stepEq
      exact connected
  | addClientConnection added =>
      cases stepEq
      unfold addClientConnection
      split
      · exact connected
      · exact List.mem_cons_of_mem _ connected
  | removeClientConnection removed =>
      cases stepEq
      unfold removeClientConnection
      split
      · have ne : remote ≠ removed := fun equal => stays (equal ▸ rfl)
        exact (List.mem_erase_of_ne ne).mpr connected
      · exact connected
  | setSyncRate type interval =>
      cases stepEq
      exact connected
  | tick now rule order => exact tick_connections stepEq ▸ connected

/-- A connected remote was told `additions` times to create an entity that is gone now. -/
structure Gone (fallback : List Entity → Entity) (remote : InstanceId) (entity : Entity)
    (additions : Nat) (server : Server V) : Prop where
  recycled : Recycled fallback server
  connected : remote ∈ server.connections
  dead : entity ∉ server.pool.entities
  issued : entity.version < server.pool.nextVersion entity.index
  added : (server.mentions entity remote).additions = additions

variable {fallback : List Entity → Entity} {remote : InstanceId} {entity : Entity}
  {additions : Nat}

/-- An entity that is gone is not announced again, and stays out of sight. -/
private theorem gone_tick (gone : Gone fallback remote entity additions server) {now : Int}
    {rule : InstanceId → Entity → Bool} {order : List InstanceId}
    (ticked : server.tick settings now rule order = some next) :
    (next.mentions entity remote).additions = additions := by
  have notAdded : entity ∉ (server.visibilityPass rule remote).added := fun added =>
    gone.dead ((VisibilityPass.mem_added_updateConnection_iff _ _
      server.pool.distinct).mp added).1
  rw [mentions, readBy, foldl_tick_handled ticked gone.connected (fun _ _ _ _ => rfl)
    fun _ _ _ => rfl, Mentions.foldl_count_messages, List.count_eq_zero_of_not_mem notAdded]
  exact gone.added

theorem gone_step {action : ServerAction V} (gone : Gone fallback remote entity additions server)
    (traceable : server.Traceable action)
    (stays : action ≠ .removeClientConnection remote)
    (stepEq : step settings server action = some next) :
    Gone fallback remote entity additions next := by
  have connected := connected_step gone.connected stays stepEq
  obtain ⟨dead, issued⟩ := dead_step gone.dead gone.issued stepEq
  refine ⟨recycled_step gone.recycled traceable stepEq, connected, dead, issued, ?_⟩
  rcases connection_step gone.recycled.retractable.wellFormed stepEq connected with
    ⟨new, _⟩ | ⟨_, sent_eq, _⟩ | ⟨now, rule, order, rfl, _⟩
  · exact absurd gone.connected new
  · rw [mentions, readBy, handled, sent_eq]
    exact gone.added
  · exact gone_tick gone stepEq

/-- What is gone and out of sight stays out of sight. -/
theorem unseen_step {action : ServerAction V}
    (gone : Gone fallback remote entity additions server)
    (unseen : ¬Sees (server.visibility.storage remote) entity)
    (stays : action ≠ .removeClientConnection remote)
    (stepEq : step settings server action = some next) :
    ¬Sees (next.visibility.storage remote) entity := by
  have connected := connected_step gone.connected stays stepEq
  rcases connection_step gone.recycled.retractable.wellFormed stepEq connected with
    ⟨new, _⟩ | ⟨_, _, storage_eq⟩ | ⟨now, rule, order, rfl, _⟩
  · exact absurd gone.connected new
  · rw [storage_eq]
    exact unseen
  · rw [tick_storage_of_mem stepEq gone.connected]
    exact fun sees => unseen (VisibilityPass.sees_of_sees_updateConnection _ _ gone.dead sees)

/-- After the next tick, an entity that is gone was deleted as often as it was created. -/
theorem deletions_of_gone {after : List (ServerAction V)} {final : Server V}
    (gone : Gone fallback remote entity additions server)
    (stays : ServerAction.removeClientConnection remote ∉ after)
    (ticks : ∃ now rule order, .tick now rule order ∈ after)
    (traceable : Guarded (step settings) Traceable server after)
    (runEq : run (step settings) server after = some final) :
    (final.mentions entity remote).deletions = additions := by
  obtain ⟨now, rule, order, mem⟩ := ticks
  obtain ⟨first, rest, rfl⟩ := List.append_of_mem mem
  have each : ∀ action ∈ first ++ .tick now rule order :: rest,
      action ≠ .removeClientConnection remote := fun action actionMem equal =>
    stays (equal ▸ actionMem)
  have guarded := traceable.and_of_forall_mem each
  obtain ⟨firstGuarded, restGuarded⟩ := guarded_append_iff.mp guarded
  obtain ⟨middle, firstRun, restRun⟩ := (run_append_eq_some_iff _ _ _ _ _).mp runEq
  obtain ⟨ticked, stepEq, lastRun⟩ := (run_cons_eq_some_iff _ _ _ _ _).mp restRun
  obtain ⟨here, lastGuarded⟩ := guarded_cons_iff.mp (restGuarded middle firstRun)
  have middleGone : Gone fallback remote entity additions middle :=
    run_invariant (fun _ _ _ holds allowed stepEq =>
      gone_step holds allowed.1 allowed.2 stepEq) gone firstGuarded firstRun
  have tickedGone := gone_step middleGone here.1 here.2 stepEq
  have tickedUnseen : ¬Sees (ticked.visibility.storage remote) entity := by
    intro sees
    have reported := (tickedGone.recycled.retractable.dead_reported remote tickedGone.connected
      entity sees tickedGone.dead).1
    rw [tick_destroyedEntities stepEq] at reported
    simp at reported
  have preserved : ∀ (current : Server V) (action : ServerAction V) (following : Server V),
      (Gone fallback remote entity additions current ∧
        ¬Sees (current.visibility.storage remote) entity) →
      (current.Traceable action ∧ action ≠ .removeClientConnection remote) →
      step settings current action = some following →
        Gone fallback remote entity additions following ∧
          ¬Sees (following.visibility.storage remote) entity :=
    fun _ _ _ holds allowed stepEq =>
      ⟨gone_step holds.1 allowed.1 allowed.2 stepEq,
        unseen_step holds.1 holds.2 allowed.2 stepEq⟩
  have finalGone := run_invariant preserved ⟨tickedGone, tickedUnseen⟩
    (lastGuarded ticked stepEq) lastRun
  have balanced := finalGone.1.recycled.balanced entity remote finalGone.1.connected
  rw [if_neg finalGone.2, finalGone.1.added] at balanced
  exact balanced.symm

end Steps

/-- Every client creates exactly the entities it is asked to create, and every entity that
is destroyed while a remote sees it is deleted there exactly once by the updates to come. -/
structure IdentifiersRecycled (settings : SyncSettings V) (fallback : List Entity → Entity)
    (start : Server V) (actions : List (ServerAction V)) : Prop where
  creations_exact : ∀ server, run (step settings) start actions = some server →
    ∀ remote ∈ server.connections, (server.client fallback remote).Exact
  deleted_once : ∀ before entity after server final,
    actions = before ++ .destroyEntity entity :: after →
    run (step settings) start before = some server →
    run (step settings) start actions = some final →
    ∀ remote ∈ server.connections, Sees (server.visibility.storage remote) entity →
      .removeClientConnection remote ∉ after →
      (∃ now rule order, .tick now rule order ∈ after) →
        (final.mentions entity remote).deletions =
          (server.mentions entity remote).deletions + 1

/-- **Identifier recycling.**  In every traceable run the clients follow the server's
identifiers exactly. -/
theorem identifiersRecycled_of_run (settings : SyncSettings V)
    (fallback : List Entity → Entity) (defaultSyncRate : Int) (actions : List (ServerAction V))
    (traceable : Guarded (step settings) Traceable (initial defaultSyncRate) actions) :
    IdentifiersRecycled settings fallback (initial defaultSyncRate) actions where
  creations_exact server runEq remote connected :=
    ((recycled_run (recycled_initial fallback defaultSyncRate) traceable runEq).client_agrees
      remote connected).2
  deleted_once := by
    rintro before entity after server final rfl firstRun runEq remote connected sees stays ticks
    obtain ⟨firstTraceable, restTraceable⟩ := guarded_append_iff.mp traceable
    obtain ⟨middle, middleRun, restRun⟩ := (run_append_eq_some_iff _ _ _ _ _).mp runEq
    have middle_eq : middle = server := Option.some.inj (middleRun.symm.trans firstRun)
    subst middle_eq
    obtain ⟨destroyed, stepEq, lastRun⟩ := (run_cons_eq_some_iff _ _ _ _ _).mp restRun
    obtain ⟨here, lastTraceable⟩ := guarded_cons_iff.mp (restTraceable middle firstRun)
    have recycled := recycled_run (recycled_initial fallback defaultSyncRate) firstTraceable
      firstRun
    have balanced := recycled.balanced entity remote connected
    rw [if_pos sees] at balanced
    obtain ⟨pool, poolEq, rfl⟩ := destroyEntity_eq_some stepEq
    have gone : Gone fallback remote entity (middle.mentions entity remote).additions _ :=
      { recycled := recycled_step recycled here stepEq
        connected := connected
        dead := fun live => ((EntityPool.mem_destroy_iff poolEq).mp live).1 rfl
        issued := by
          simp only [(EntityPool.destroy_eq_some poolEq).2.2]
          exact recycled.retractable.issued remote connected entity sees
        added := rfl }
    rw [deletions_of_gone gone stays ticks (lastTraceable _ stepEq) lastRun, balanced]

/-- An index is handed out again only after the remote heard of the destruction. -/
def recycledRun : List (ServerAction Bool) :=
  [.addClientConnection 1, .createEntity 0, .tick 100 (fun _ _ => true) [1],
    .tick 200 (fun _ _ => true) [1], .destroyEntity ⟨0, 0⟩, .tick 300 (fun _ _ => true) [1],
    .createEntity 0, .tick 400 (fun _ _ => true) [1]]

theorem identifiersRecycled_recycledRun :
    (run (step flagSettings) (initial 30) recycledRun).isSome ∧
      IdentifiersRecycled flagSettings (fun entities => ⟨entities.length, 0⟩) (initial 30)
        recycledRun := by
  refine ⟨by decide +kernel, ?_⟩
  exact identifiersRecycled_of_run flagSettings _ 30 recycledRun (by decide +kernel)

/-- An index is handed out again before the next update. -/
def displacedRun : List (ServerAction Bool) :=
  [.addClientConnection 1, .createEntity 0, .tick 100 (fun _ _ => true) [1],
    .tick 200 (fun _ _ => true) [1], .destroyEntity ⟨0, 0⟩, .createEntity 0,
    .tick 300 (fun _ _ => true) [1]]

/-- The client still holds the first entity when it is asked to create the second one
under its index, and it is never told to delete the first. -/
theorem identifier_displaced :
    ∃ server, run (step flagSettings) (initial 30) displacedRun = some server ∧
      (1 : InstanceId) ∈ server.connections ∧
      (server.client (fun entities => ⟨entities.length, 0⟩) 1).creations =
        [⟨⟨0, 0⟩, ⟨0, 0⟩, true⟩, ⟨⟨0, 1⟩, ⟨1, 0⟩, false⟩] ∧
      (server.mentions ⟨0, 0⟩ 1).deletions = 0 ∧
      ¬IdentifiersRecycled flagSettings (fun entities => ⟨entities.length, 0⟩) (initial 30)
        displacedRun := by
  refine ⟨_, rfl, by decide +kernel, by decide +kernel, by decide +kernel, ?_⟩
  intro recycled
  have exact := recycled.creations_exact _ rfl 1 (by decide +kernel)
    ⟨⟨0, 1⟩, ⟨1, 0⟩, false⟩ (by decide +kernel)
  exact Bool.false_ne_true exact.1

end Server

end VoxelEngine.ClientServer
