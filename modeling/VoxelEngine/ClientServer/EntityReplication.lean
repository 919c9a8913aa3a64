import Mathlib.Data.Finset.Dedup
import Mathlib.Data.Finset.Lattice.Lemmas
import Mathlib.Data.Finset.SDiff
import VoxelEngine.ClientServer.ServerInvariant

/-!
# Entities reach the remotes that see them

A remote knows the entities it was told to create and not yet told to delete.  They
are exactly the live entities that are visible to it, provided that a destroyed entity
is still recognized at the next update: its last status must be plain `visible`, and no
new entity may have taken over its slot.
-/

namespace VoxelEngine.ClientServer

open VoxelEngine.Data
open VoxelEngine.Ecs
open VoxelEngine.Ecs.StatusStorage
open VoxelEngine.Transition

variable {V : Type}

/-- The entities a remote was told to create, after one more message. -/
def learn (known : Finset Entity) : CoreMessage → Finset Entity
  | .addEntity changed => known ∪ changed.toFinset
  | .delEntity changed => known \ changed.toFinset
  | _ => known

/-- The visibility messages of one update add first and delete second. -/
theorem foldl_learn_messages (pass : VisibilityPass) (known : Finset Entity) :
    pass.messages.foldl learn known =
      (known ∪ pass.added.toFinset) \ pass.removed.toFinset := by
  unfold VisibilityPass.messages
  split
  · rename_i noneAdded
    split
    · rename_i noneRemoved
      simp [noneAdded, noneRemoved]
    · rw [noneAdded, List.toFinset_nil, Finset.union_empty]
      rfl
  · split
    · rename_i noneRemoved
      simp [learn, noneRemoved]
    · simp [learn]

namespace Server

/-- The entities a connected remote knows of. -/
def known (server : Server V) (remote : InstanceId) : Finset Entity :=
  (server.handled remote).foldl learn ∅

/-- No connection remembers a visible entity under this index. -/
def IndexVacant (server : Server V) (index : Nat) : Prop :=
  ∀ remote ∈ server.connections,
    ∀ entry ∈ (server.visibility.storage remote).occupant index, entry.2.visibilityBit = false

instance (server : Server V) (index : Nat) : Decidable (server.IndexVacant index) :=
  inferInstanceAs (Decidable (∀ remote ∈ server.connections,
    ∀ entry ∈ (server.visibility.storage remote).occupant index, _))

/-- No entity just became visible to anyone when it is destroyed, and no index is handed
out again while a connection still remembers its previous entity as visible. -/
def Traceable (server : Server V) : ServerAction V → Prop
  | .destroyEntity entity =>
      ∀ remote ∈ server.connections,
        status (server.visibility.storage remote) entity ≠ .becameVisible
  | .createEntity index => server.pool.nextVersion index = 0 ∨ server.IndexVacant index
  | _ => True

instance (server : Server V) : (action : ServerAction V) → Decidable (server.Traceable action)
  | .destroyEntity entity =>
      inferInstanceAs (Decidable (∀ remote ∈ server.connections,
        status (server.visibility.storage remote) entity ≠ .becameVisible))
  | .createEntity _ => inferInstanceAs (Decidable (_ ∨ _))
  | .setComponent _ _ _ | .removeComponent _ _ | .addClientConnection _
  | .removeClientConnection _ | .setSyncRate _ _ | .tick _ _ _ => isTrue trivial

/-- Every entity that a remote sees can still be taken back from it. -/
structure Retractable (server : Server V) : Prop where
  wellFormed : server.WellFormed
  issued : ∀ remote ∈ server.connections, ∀ entity,
    Sees (server.visibility.storage remote) entity →
      entity.version < server.pool.nextVersion entity.index
  dead_reported : ∀ remote ∈ server.connections, ∀ entity,
    Sees (server.visibility.storage remote) entity → entity ∉ server.pool.entities →
      entity ∈ server.visibility.destroyedEntities ∧
        (server.visibility.storage remote).get? entity = some .visible
  slot_own : ∀ remote ∈ server.connections, ∀ entity,
    Sees (server.visibility.storage remote) entity →
      ∀ live ∈ server.pool.entities, live.index = entity.index → live = entity

/-- A remote that is not connected sees nothing. -/
theorem WellFormed.not_sees_of_notMem {server : Server V} (wellFormed : server.WellFormed)
    {remote : InstanceId} (disconnected : remote ∉ server.connections) (entity : Entity) :
    ¬Sees (server.visibility.storage remote) entity := by
  rw [wellFormed.disconnected_blank remote disconnected, sees_iff]
  simp

section Steps

variable {settings : SyncSettings V} {server next : Server V}

theorem retractable_initial (defaultSyncRate : Int) :
    Retractable (initial defaultSyncRate : Server V) where
  wellFormed := wellFormed_initial defaultSyncRate
  issued _ connected := by simp [initial] at connected
  dead_reported _ connected := by simp [initial] at connected
  slot_own _ connected := by simp [initial] at connected

private theorem retractable_createEntity (retractable : server.Retractable)
    (wellFormed : next.WellFormed) {index : Nat}
    (vacant : server.pool.nextVersion index = 0 ∨ server.IndexVacant index)
    (created : server.createEntity index = some next) : next.Retractable := by
  obtain ⟨pool, poolEq, rfl⟩ := createEntity_eq_some created
  obtain ⟨_, entitiesEq, _⟩ := EntityPool.create_eq_some poolEq
  refine ⟨wellFormed, ?_, ?_, ?_⟩
  · intro remote connected entity sees
    exact EntityPool.issued_create poolEq (retractable.issued remote connected entity sees)
  · intro remote connected entity sees dead
    rw [entitiesEq] at dead
    exact retractable.dead_reported remote connected entity sees
      fun old => dead (List.mem_cons_of_mem _ old)
  · intro remote connected entity sees live liveMem index_eq
    rw [entitiesEq] at liveMem
    rcases List.mem_cons.mp liveMem with rfl | old
    · have entityIndex : entity.index = index := index_eq.symm
      exfalso
      rcases vacant with unused | vacant
      · have issued := retractable.issued remote connected entity sees
        rw [entityIndex, unused] at issued
        exact Nat.not_lt_zero _ issued
      · obtain ⟨current, stored, bit⟩ := (sees_iff _ _).mp sees
        have occupied := (SlotStorage.get?_eq_some_iff _ _ _).mp stored
        rw [slot_eq_index, entityIndex] at occupied
        exact Bool.false_ne_true ((vacant remote connected _ occupied).symm.trans bit)
    · exact retractable.slot_own remote connected entity sees live old index_eq

private theorem retractable_destroyEntity (retractable : server.Retractable)
    (wellFormed : next.WellFormed) {entity : Entity}
    (traceable : server.Traceable (.destroyEntity entity))
    (destroyed : server.destroyEntity entity = some next) : next.Retractable := by
  obtain ⟨pool, poolEq, rfl⟩ := destroyEntity_eq_some destroyed
  obtain ⟨entityLive, _, versionEq⟩ := EntityPool.destroy_eq_some poolEq
  refine ⟨wellFormed, ?_, ?_, ?_⟩
  · intro remote connected other sees
    simp only [EntityVisibility.storage_onEntityDestroyed] at sees
    simp only [versionEq]
    exact retractable.issued remote connected other sees
  · intro remote connected other sees dead
    simp only [EntityVisibility.storage_onEntityDestroyed] at sees ⊢
    rw [EntityVisibility.mem_onEntityDestroyed_iff]
    by_cases other_eq : other = entity
    · subst other_eq
      refine ⟨Or.inl rfl, ?_⟩
      obtain ⟨current, stored, bit⟩ := (sees_iff _ _).mp sees
      have notNew := traceable remote connected
      rw [status, stored] at notNew
      cases current with
      | visible => exact stored
      | becameVisible => exact absurd rfl notNew
      | invisible => cases bit
      | becameInvisible => cases bit
    · have deadBefore : other ∉ server.pool.entities := fun old =>
        dead ((EntityPool.mem_destroy_iff poolEq).mpr ⟨other_eq, old⟩)
      obtain ⟨reported, visible⟩ :=
        retractable.dead_reported remote connected other sees deadBefore
      refine ⟨Or.inr ⟨reported, Or.inr fun index_eq => ?_⟩, visible⟩
      have same := retractable.slot_own remote connected other sees entity entityLive
        index_eq.symm
      exact other_eq same.symm
  · intro remote connected other sees live liveMem
    simp only [EntityVisibility.storage_onEntityDestroyed] at sees
    exact retractable.slot_own remote connected other sees live
      ((EntityPool.mem_destroy_iff poolEq).mp liveMem).2

private theorem retractable_addClientConnection (retractable : server.Retractable)
    (added : InstanceId) (wellFormed : (server.addClientConnection added).WellFormed) :
    (server.addClientConnection added).Retractable := by
  unfold addClientConnection at wellFormed ⊢
  split
  · exact retractable
  · rename_i unknown
    rw [dif_neg unknown] at wellFormed
    have old : ∀ remote ∈ added :: server.connections, ∀ entity,
        Sees (server.visibility.storage remote) entity → remote ∈ server.connections := by
      intro remote connected entity sees
      by_contra disconnected
      exact retractable.wellFormed.not_sees_of_notMem disconnected entity sees
    refine ⟨wellFormed, ?_, ?_, ?_⟩
    · intro remote connected entity sees
      exact retractable.issued remote (old remote connected entity sees) entity sees
    · intro remote connected entity sees
      exact retractable.dead_reported remote (old remote connected entity sees) entity sees
    · intro remote connected entity sees
      exact retractable.slot_own remote (old remote connected entity sees) entity sees

private theorem retractable_removeClientConnection (retractable : server.Retractable)
    (removed : InstanceId) (wellFormed : (server.removeClientConnection removed).WellFormed) :
    (server.removeClientConnection removed).Retractable := by
  unfold removeClientConnection at wellFormed ⊢
  split
  · rename_i known
    rw [if_pos known] at wellFormed
    have remaining : ∀ remote ∈ server.connections.erase removed,
        remote ∈ server.connections ∧
          (server.visibility.onRemoteDisconnected removed).storage remote =
            server.visibility.storage remote := by
      intro remote connected
      obtain ⟨ne, old⟩ := server.connectionsNodup.mem_erase_iff.mp connected
      exact ⟨old, EntityVisibility.storage_onRemoteDisconnected_of_ne _ ne⟩
    refine ⟨wellFormed, ?_, ?_, ?_⟩
    · intro remote connected entity sees
      obtain ⟨old, storage_eq⟩ := remaining remote connected
      simp only [storage_eq] at sees
      exact retractable.issued remote old entity sees
    · intro remote connected entity sees
      obtain ⟨old, storage_eq⟩ := remaining remote connected
      simp only [storage_eq] at sees ⊢
      exact retractable.dead_reported remote old entity sees
    · intro remote connected entity sees
      obtain ⟨old, storage_eq⟩ := remaining remote connected
      simp only [storage_eq] at sees
      exact retractable.slot_own remote old entity sees
  · exact retractable

private theorem retractable_tick {now : Int} {rule : InstanceId → Entity → Bool}
    {order : List InstanceId} (retractable : server.Retractable) (wellFormed : next.WellFormed)
    (ticked : server.tick settings now rule order = some next) : next.Retractable := by
  have deadUnseen : ∀ remote ∈ server.connections, ∀ entity,
      Sees (next.visibility.storage remote) entity → entity ∈ server.pool.entities :=
    fun remote connected entity sees => by
      by_contra dead
      rw [tick_storage_of_mem ticked connected] at sees
      have before := VisibilityPass.sees_of_sees_updateConnection (rule remote) _ dead sees
      have reported := (retractable.dead_reported remote connected entity before dead).1
      rw [sees_iff, visibilityPass, VisibilityPass.updateConnection_get?, if_pos reported]
        at sees
      simp at sees
  refine ⟨wellFormed, ?_, ?_, ?_⟩
  · intro remote connected entity sees
    rw [tick_connections ticked] at connected
    rw [tick_pool ticked]
    exact server.pool.issued entity (deadUnseen remote connected entity sees)
  · intro remote connected entity sees dead
    rw [tick_connections ticked] at connected
    rw [tick_pool ticked] at dead
    exact absurd (deadUnseen remote connected entity sees) dead
  · intro remote connected entity sees live liveMem index_eq
    rw [tick_connections ticked] at connected
    rw [tick_pool ticked] at liveMem
    exact server.pool.eq_of_index_eq liveMem (deadUnseen remote connected entity sees) index_eq

/-- Every traceable step keeps what remotes see retractable. -/
theorem retractable_step {action : ServerAction V} (retractable : server.Retractable)
    (traceable : server.Traceable action)
    (stepEq : step settings server action = some next) : next.Retractable := by
  have wellFormed := wellFormed_step settings retractable.wellFormed stepEq
  cases action with
  | createEntity index =>
      exact retractable_createEntity retractable wellFormed traceable stepEq
  | destroyEntity entity =>
      exact retractable_destroyEntity retractable wellFormed traceable stepEq
  | setComponent type entity value =>
      obtain ⟨_, rfl⟩ := setComponent_eq_some stepEq
      exact ⟨wellFormed, retractable.issued, retractable.dead_reported, retractable.slot_own⟩
  | removeComponent type entity =>
      obtain ⟨_, rfl⟩ := removeComponent_eq_some stepEq
      exact ⟨wellFormed, retractable.issued, retractable.dead_reported, retractable.slot_own⟩
  | addClientConnection remote =>
      cases stepEq
      exact retractable_addClientConnection retractable remote wellFormed
  | removeClientConnection remote =>
      cases stepEq
      exact retractable_removeClientConnection retractable remote wellFormed
  | setSyncRate type interval =>
      cases stepEq
      exact ⟨wellFormed, retractable.issued, retractable.dead_reported, retractable.slot_own⟩
  | tick now rule order => exact retractable_tick retractable wellFormed stepEq

/-- **What a step does to a connection.**  It opens the connection, leaves it alone, or is
a tick. -/
theorem connection_step {action : ServerAction V} (wellFormed : server.WellFormed)
    (stepEq : step settings server action = some next) {remote : InstanceId}
    (connected : remote ∈ next.connections) :
    (remote ∉ server.connections ∧ next.sent remote = [] ∧
        next.visibility.storage remote = SlotStorage.empty) ∨
      (remote ∈ server.connections ∧ next.sent remote = server.sent remote ∧
        next.visibility.storage remote = server.visibility.storage remote) ∨
      ∃ now rule order, action = .tick now rule order ∧ remote ∈ server.connections := by
  cases action with
  | createEntity index =>
      obtain ⟨pool, _, rfl⟩ := createEntity_eq_some stepEq
      exact Or.inr (Or.inl ⟨connected, rfl, rfl⟩)
  | destroyEntity entity =>
      obtain ⟨pool, _, rfl⟩ := destroyEntity_eq_some stepEq
      exact Or.inr (Or.inl
        ⟨connected, rfl, by rw [EntityVisibility.storage_onEntityDestroyed]⟩)
  | setComponent type entity value =>
      obtain ⟨_, rfl⟩ := setComponent_eq_some stepEq
      exact Or.inr (Or.inl ⟨connected, rfl, rfl⟩)
  | removeComponent type entity =>
      obtain ⟨_, rfl⟩ := removeComponent_eq_some stepEq
      exact Or.inr (Or.inl ⟨connected, rfl, rfl⟩)
  | addClientConnection added =>
      cases stepEq
      unfold addClientConnection at connected ⊢
      split at connected
      · rename_i known
        rw [dif_pos known]
        exact Or.inr (Or.inl ⟨connected, rfl, rfl⟩)
      · rename_i unknown
        rw [dif_neg unknown]
        by_cases remote_eq : remote = added
        · subst remote_eq
          exact Or.inl
            ⟨unknown, by simp, wellFormed.disconnected_blank remote unknown⟩
        · have old := (List.mem_cons.mp connected).resolve_left remote_eq
          exact Or.inr (Or.inl ⟨old, Function.update_of_ne remote_eq _ _, rfl⟩)
  | removeClientConnection removed =>
      cases stepEq
      unfold removeClientConnection at connected ⊢
      split at connected
      · rename_i known
        rw [if_pos known]
        obtain ⟨ne, old⟩ := server.connectionsNodup.mem_erase_iff.mp connected
        exact Or.inr (Or.inl
          ⟨old, rfl, EntityVisibility.storage_onRemoteDisconnected_of_ne _ ne⟩)
      · rename_i unknown
        rw [if_neg unknown]
        exact Or.inr (Or.inl ⟨connected, rfl, rfl⟩)
  | setSyncRate type interval =>
      cases stepEq
      exact Or.inr (Or.inl ⟨connected, rfl, rfl⟩)
  | tick now rule order =>
      exact Or.inr (Or.inr ⟨now, rule, order, rfl, tick_connections stepEq ▸ connected⟩)

/-- What a reader makes of everything a remote handled. -/
def readBy {σ : Type} (read : σ → CoreMessage → σ) (start : σ) (server : Server V)
    (remote : InstanceId) : σ :=
  (server.handled remote).foldl read start

/-- A relation between what a reader that ignores component messages makes of a connection
and what its remote sees holds forever, once it holds of fresh connections and survives
the visibility updates. -/
theorem readBy_step {σ : Type} {read : σ → CoreMessage → σ} {start : σ}
    (agrees : σ → StatusStorage → Prop)
    (ignoresSet : ∀ state data type entity,
      read state (.setComponent data type entity) = state)
    (ignoresDel : ∀ state type entity, read state (.delComponent type entity) = state)
    (fresh : agrees start SlotStorage.empty)
    (updated : ∀ remote ∈ server.connections, ∀ (rule : InstanceId → Entity → Bool) state,
      agrees state (server.visibility.storage remote) →
        agrees ((server.visibilityPass rule remote).messages.foldl read state)
          (server.visibilityPass rule remote).storage)
    {action : ServerAction V} (wellFormed : server.WellFormed)
    (stepEq : step settings server action = some next)
    (before : ∀ remote ∈ server.connections,
      agrees (readBy read start server remote) (server.visibility.storage remote)) :
    ∀ remote ∈ next.connections,
      agrees (readBy read start next remote) (next.visibility.storage remote) := by
  intro remote connected
  rcases connection_step wellFormed stepEq connected with
    ⟨_, sent_eq, storage_eq⟩ | ⟨old, sent_eq, storage_eq⟩ | ⟨now, rule, order, rfl, old⟩
  · rw [readBy, handled, sent_eq, storage_eq]
    exact fresh
  · have same := before remote old
    rw [readBy, handled, sent_eq, storage_eq]
    exact same
  · have ticked : server.tick settings now rule order = some next := stepEq
    rw [readBy, foldl_tick_handled ticked old ignoresSet ignoresDel,
      tick_storage_of_mem ticked old]
    exact updated remote old rule _ (before remote old)

/-! ## The entities a remote knows -/

/-- What a remote sees after an update: what it saw before or is told of now, except for
what is taken back. -/
theorem Retractable.sees_visibilityPass_iff (retractable : server.Retractable)
    {remote : InstanceId} (connected : remote ∈ server.connections)
    (rule : InstanceId → Entity → Bool) (entity : Entity) :
    Sees (server.visibilityPass rule remote).storage entity ↔
      (Sees (server.visibility.storage remote) entity ∨
          entity ∈ (server.visibilityPass rule remote).added) ∧
        entity ∉ (server.visibilityPass rule remote).removed := by
  have distinct := server.pool.distinct
  have dead := retractable.wellFormed.destroyed_dead
  rw [visibilityPass, VisibilityPass.mem_added_updateConnection_iff _ _ distinct]
  by_cases live : entity ∈ server.pool.entities
  · rw [VisibilityPass.mem_removed_updateConnection_iff _ _ distinct dead live,
      VisibilityPass.sees_updateConnection_of_mem _ _ distinct dead live]
    by_cases sees : Sees (server.visibility.storage remote) entity
    · simp [sees]
    · simp [sees, live]
  · constructor
    · intro sees
      have before := VisibilityPass.sees_of_sees_updateConnection _ _ live sees
      have reported := (retractable.dead_reported remote connected entity before live).1
      rw [sees_iff, VisibilityPass.updateConnection_get?, if_pos reported] at sees
      simp at sees
    · rintro ⟨sees | added, notRemoved⟩
      · obtain ⟨reported, visible⟩ :=
          retractable.dead_reported remote connected entity sees live
        refine absurd (VisibilityPass.mem_removed_of_destroyed _ _ visible reported ?_) notRemoved
        intro other otherLive index_eq
        have same := retractable.slot_own remote connected entity sees other otherLive
          index_eq.symm
        exact live (same ▸ otherLive)
      · exact absurd added.1 live

/-- Every remote knows exactly the entities that it sees. -/
structure Replicated (server : Server V) : Prop where
  retractable : server.Retractable
  known_iff : ∀ remote ∈ server.connections, ∀ entity,
    entity ∈ server.known remote ↔ Sees (server.visibility.storage remote) entity

theorem replicated_initial (defaultSyncRate : Int) :
    Replicated (initial defaultSyncRate : Server V) where
  retractable := retractable_initial defaultSyncRate
  known_iff _ connected := by simp [initial] at connected

theorem replicated_step {action : ServerAction V} (replicated : server.Replicated)
    (traceable : server.Traceable action)
    (stepEq : step settings server action = some next) : next.Replicated where
  retractable := retractable_step replicated.retractable traceable stepEq
  known_iff := by
    refine readBy_step (fun known storage => ∀ entity, entity ∈ known ↔ Sees storage entity)
      (fun _ _ _ _ => rfl) (fun _ _ _ => rfl) ?_ ?_ replicated.retractable.wellFormed stepEq
      replicated.known_iff
    · intro entity
      simp [sees_iff]
    · intro remote connected rule known agrees entity
      rw [replicated.retractable.sees_visibilityPass_iff connected, foldl_learn_messages]
      simp [agrees]

/-- Traceable runs reach only replicated states. -/
theorem replicated_run {actions : List (ServerAction V)} (start : server.Replicated)
    (guarded : Guarded (step settings) Traceable server actions)
    (runEq : run (step settings) server actions = some next) : next.Replicated :=
  run_invariant (fun _ _ _ => replicated_step) start guarded runEq

end Steps

/-- Every remote knows exactly the live entities that are visible to it. -/
def EntitiesReplicated (server : Server V) : Prop :=
  ∀ remote ∈ server.connections, ∀ entity,
    entity ∈ server.known remote ↔
      entity ∈ server.pool.entities ∧ Sees (server.visibility.storage remote) entity

/-- **Entity replication.**  In every traceable run, each update leaves every remote with
exactly the live entities that are visible to it. -/
theorem entitiesReplicated_of_run (settings : SyncSettings V) (defaultSyncRate : Int)
    (actions : List (ServerAction V)) (now : Int) (rule : InstanceId → Entity → Bool)
    (order : List InstanceId) {server next : Server V}
    (runEq : run (step settings) (initial defaultSyncRate) actions = some server)
    (ticked : step settings server (.tick now rule order) = some next)
    (traceable : Guarded (step settings) Traceable (initial defaultSyncRate) actions) :
    EntitiesReplicated next := by
  have before := replicated_run (replicated_initial defaultSyncRate) traceable runEq
  have untraced : server.Traceable (.tick now rule order) := trivial
  have after := replicated_step before untraced ticked
  intro remote connected entity
  rw [after.known_iff remote connected]
  constructor
  · intro sees
    refine ⟨?_, sees⟩
    by_contra dead
    have reported := (after.retractable.dead_reported remote connected entity sees dead).1
    rw [tick_destroyedEntities ticked] at reported
    simp at reported
  · exact And.right

/-- An entity is created, seen for two updates, and destroyed. -/
def retractedRun : List (ServerAction Bool) :=
  [.addClientConnection 1, .createEntity 0, .tick 100 (fun _ _ => true) [1],
    .tick 200 (fun _ _ => true) [1], .destroyEntity ⟨0, 0⟩, .createEntity 1]

theorem entitiesReplicated_retractedRun :
    ∃ server next, run (step flagSettings) (initial 30) retractedRun = some server ∧
      step flagSettings server (.tick 300 (fun _ _ => true) [1]) = some next ∧
      EntitiesReplicated next := by
  refine ⟨_, _, rfl, rfl, ?_⟩
  exact entitiesReplicated_of_run flagSettings 30 retractedRun 300 (fun _ _ => true) [1] rfl rfl
    (by decide +kernel)

/-- An entity is destroyed right after the update in which it became visible. -/
def leakedRun : List (ServerAction Bool) :=
  [.addClientConnection 1, .createEntity 0, .tick 100 (fun _ _ => true) [1],
    .destroyEntity ⟨0, 0⟩]

/-- The remote is never told that the entity is gone. -/
theorem entity_leaked :
    ∃ server next, run (step flagSettings) (initial 30) leakedRun = some server ∧
      step flagSettings server (.tick 200 (fun _ _ => true) [1]) = some next ∧
      ¬EntitiesReplicated next := by
  refine ⟨_, _, rfl, rfl, ?_⟩
  intro replicated
  have dead := ((replicated 1 (by decide +kernel) ⟨0, 0⟩).mp (by decide +kernel)).1
  revert dead
  decide +kernel

end Server

end VoxelEngine.ClientServer
