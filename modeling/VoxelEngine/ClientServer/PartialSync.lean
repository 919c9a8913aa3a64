import VoxelEngine.ClientServer.ServerInvariant
import Mathlib.Data.Finset.Insert
import Mathlib.Data.Finset.Erase
import Mathlib.Data.Finset.Filter

/-!
# Partially synchronizable components

A partially synchronizable component records the remotes that it was added to and sends
messages to them by itself.  The synchronizer tells it about a remote when the visibility of
its entity for that remote changes.  The part of a component that belongs to the base class
is kept beside the component.
-/

namespace VoxelEngine.ClientServer

open VoxelEngine.Data
open VoxelEngine.Ecs
open VoxelEngine.Ecs.StatusStorage
open VoxelEngine.Transition

/-- The members of `partially_synchronizable`: whether there is an owner, and the remotes. -/
structure PartialBase where
  owner : Bool
  remotes : Finset InstanceId
  deriving DecidableEq

namespace PartialBase

/-- A component that was just constructed. -/
def constructed : PartialBase :=
  ⟨false, ∅⟩

/-- `on_component_added` -/
def onComponentAdded (base : PartialBase) : PartialBase :=
  { base with owner := true }

/-- `on_added_to_remote` -/
def onAddedToRemote (base : PartialBase) (remote : InstanceId) : PartialBase :=
  { base with remotes := insert remote base.remotes }

/-- `on_removed_from_remote` -/
def onRemovedFromRemote (base : PartialBase) (remote : InstanceId) : PartialBase :=
  { base with remotes := base.remotes.erase remote }

/-- What the synchronizer calls for a visibility status. -/
def notify (remote : InstanceId) (base : PartialBase) : VisibilityStatus → PartialBase
  | .becameVisible => base.onAddedToRemote remote
  | .becameInvisible => base.onRemovedFromRemote remote
  | .visible | .invisible => base

/-- `get_visible_remotes`: the remotes without a connection are left out. -/
def getVisibleRemotes (base : PartialBase) (connections : List InstanceId) : Finset InstanceId :=
  base.remotes.filter fun remote => remote ∈ connections

end PartialBase

/-- A `partial_sync_message` that was sent. -/
structure PartialPost where
  remote : InstanceId
  entity : Entity
  messageType : TypeHash
  data : Bytes
  deriving DecidableEq

/-- A synchronizer, the component types that it synchronizes partially, and the messages that
a component sends to a remote that it was added to. -/
structure PartialSettings (V : Type) extends SyncSettings V where
  isPartial : TypeHash → Bool
  greeting : TypeHash → V → List (TypeHash × Bytes)

variable {V : Type}

namespace PartialSettings

/-- `partially_synced_types` -/
def partialTypes (settings : PartialSettings V) : List TypeHash :=
  settings.types.filter settings.isPartial

end PartialSettings

/-- A server, the base class parts of its components, and what components sent in the last
step. -/
structure PartialServer (V : Type) where
  server : Server V
  base : TypeHash → Entity → PartialBase
  outbox : Multiset PartialPost

/-- What can happen to a server with partially synchronizable components. -/
inductive PartialAction (V : Type) where
  /-- Components are stored as they were constructed. -/
  | server (action : ServerAction V)
  /-- A component is stored that was in use before. -/
  | setUsed (type : TypeHash) (entity : Entity) (value : V) (base : PartialBase)
  /-- A component sends a message to all its remotes. -/
  | broadcast (type : TypeHash) (entity : Entity) (messageType : TypeHash) (data : Bytes)

namespace PartialServer

/-- A server without entities and connections. -/
def initial (defaultSyncRate : Int) : PartialServer V :=
  ⟨Server.initial defaultSyncRate, fun _ _ => PartialBase.constructed, 0⟩

/-- `registry::set_component`: only a component that was not there before is told. -/
def setBase (state : PartialServer V) (type : TypeHash) (entity : Entity) (base : PartialBase) :
    TypeHash → Entity → PartialBase :=
  let stored := if (state.server.cells type entity).component.isSome then base
    else base.onComponentAdded
  Function.update state.base type (Function.update (state.base type) entity stored)

/-- The view of `invoke_ps_callbacks`. -/
def partialView (server : Server V) (remote : InstanceId) (type : TypeHash) : List Entity :=
  viewOf (server.visibility.storage remote).get? server.pool.entities (server.cells type)
    fun cell => cell.component.isSome

/-- `invoke_ps_callbacks` for one component type. -/
def invokePsCallbacks (server : Server V) (remote : InstanceId) (type : TypeHash)
    (column : Entity → PartialBase) : Entity → PartialBase :=
  updateAll
    (fun entity base =>
      match (server.visibility.storage remote).get? entity with
      | some status => base.notify remote status
      | none => base)
    (partialView server remote type) column

/-- The callbacks for one connection, for all partially synchronized types. -/
def notifyFor (settings : PartialSettings V) (server : Server V)
    (base : TypeHash → Entity → PartialBase) (remote : InstanceId) :
    TypeHash → Entity → PartialBase :=
  updateAll (invokePsCallbacks server remote) settings.partialTypes base

/-- The messages that components send to a remote that they were just added to. -/
def greetings (settings : PartialSettings V) (server : Server V) (remote : InstanceId) :
    List PartialPost :=
  settings.partialTypes.flatMap fun type =>
    ((partialView server remote type).filter fun entity =>
      (server.visibility.storage remote).get? entity = some .becameVisible).flatMap fun entity =>
        (server.cells type entity).component.toList.flatMap fun value =>
          (settings.greeting type value).map fun message =>
            ⟨remote, entity, message.1, message.2⟩

/-- What a step of the server means for the components. -/
def afterAction (settings : PartialSettings V) (state : PartialServer V) (next : Server V) :
    ServerAction V → PartialServer V
  | .setComponent type entity _ =>
      ⟨next, state.setBase type entity PartialBase.constructed, 0⟩
  -- The callbacks for a connection come right after its components were synchronized.
  | .tick _ _ order =>
      ⟨next, order.foldl (notifyFor settings next) state.base,
        ↑(order.flatMap (greetings settings next))⟩
  | _ => ⟨next, state.base, 0⟩

/-- `broadcast_message` -/
def broadcastMessage (settings : PartialSettings V) (state : PartialServer V) (type : TypeHash)
    (entity : Entity) (messageType : TypeHash) (data : Bytes) : Option (PartialServer V) :=
  if type ∈ settings.partialTypes ∧ (state.server.cells type entity).component.isSome = true then
    let base := state.base type entity
    some { state with
      outbox :=
        if base.owner then
          (base.getVisibleRemotes state.server.connections).val.map fun remote =>
            ⟨remote, entity, messageType, data⟩
        else 0 }
  else none

/-- The transition relation. -/
def step (settings : PartialSettings V) : Step (PartialServer V) (PartialAction V)
  | state, .server action =>
      (Server.step settings.toSyncSettings state.server action).map fun next =>
        afterAction settings state next action
  | state, .setUsed type entity value base =>
      (state.server.setComponent type entity value).map fun next =>
        ⟨next, state.setBase type entity base, 0⟩
  | state, .broadcast type entity messageType data =>
      broadcastMessage settings state type entity messageType data

/-- The remote is connected and can see the entity. -/
def Watches (state : PartialServer V) (remote : InstanceId) (entity : Entity) : Prop :=
  remote ∈ state.server.connections ∧ Sees (state.server.visibility.storage remote) entity

instance (state : PartialServer V) (remote : InstanceId) (entity : Entity) :
    Decidable (state.Watches remote entity) :=
  inferInstanceAs (Decidable (_ ∧ _))

/-- The recorded remotes are those that can see the entity, and only such remotes were sent
messages in the last step. -/
structure Recorded (settings : PartialSettings V) (state : PartialServer V) : Prop where
  remotes : ∀ type ∈ settings.partialTypes, ∀ entity,
    (state.server.cells type entity).component.isSome = true → ∀ remote,
      remote ∈ (state.base type entity).remotes ↔ state.Watches remote entity
  outbox : ∀ post ∈ state.outbox, state.Watches post.remote post.entity

/-- A component is stored while no remote can see its entity, or with just the remotes that
can, and a remote disconnects while it can see no entity with such a component. -/
def Timely (settings : PartialSettings V) (state : PartialServer V) : PartialAction V → Prop
  | .server (.setComponent type entity _) =>
      type ∈ settings.partialTypes → ∀ remote, ¬state.Watches remote entity
  | .setUsed type entity _ base =>
      type ∈ settings.partialTypes → ∀ remote,
        remote ∈ base.remotes ↔ state.Watches remote entity
  | .server (.removeClientConnection remote) =>
      ∀ type ∈ settings.partialTypes, ∀ entity,
        (state.server.cells type entity).component.isSome = true → ¬state.Watches remote entity
  | _ => True

variable {settings : PartialSettings V} {state : PartialServer V} {next : Server V}

/-! ## The callbacks of a tick -/

/-- A remote is recorded after the callbacks if it began to see the entity, or if it was
recorded and did not stop. -/
theorem mem_remotes_foldl {order : List InstanceId} (nodup : order.Nodup)
    (statusFor : InstanceId → VisibilityStatus) (base : PartialBase) (remote : InstanceId) :
    remote ∈ (order.foldl (fun current visited => current.notify visited (statusFor visited))
        base).remotes ↔
      (remote ∈ order ∧ statusFor remote = .becameVisible) ∨
        (remote ∈ base.remotes ∧ ¬(remote ∈ order ∧ statusFor remote = .becameInvisible)) := by
  induction order generalizing base with
  | nil => simp
  | cons first rest ih =>
      rw [List.nodup_cons] at nodup
      rw [List.foldl_cons, ih nodup.2, List.mem_cons]
      by_cases first_eq : remote = first
      · subst first_eq
        simp only [nodup.1, false_and, false_or, not_false_eq_true, and_true, true_or, true_and]
        cases statusFor remote <;>
          simp [PartialBase.notify, PartialBase.onAddedToRemote, PartialBase.onRemovedFromRemote]
      · have same : remote ∈ (base.notify first (statusFor first)).remotes ↔
            remote ∈ base.remotes := by
          cases statusFor first <;>
            simp [PartialBase.notify, PartialBase.onAddedToRemote,
              PartialBase.onRemovedFromRemote, first_eq]
        rw [same]
        simp [first_eq]

theorem partialTypes_nodup (settings : PartialSettings V) : settings.partialTypes.Nodup :=
  settings.nodup.filter _

/-- The callbacks for one connection at one component. -/
theorem notifyFor_apply {type : TypeHash} {entity : Entity} {remote : InstanceId}
    {status : VisibilityStatus} (typeMem : type ∈ settings.partialTypes)
    (live : entity ∈ next.pool.entities)
    (present : (next.cells type entity).component.isSome = true)
    (statusEq : (next.visibility.storage remote).get? entity = some status)
    (base : TypeHash → Entity → PartialBase) :
    notifyFor settings next base remote type entity =
      (base type entity).notify remote status := by
  have mem : entity ∈ partialView next remote type := by
    rw [partialView, mem_viewOf_iff]
    simp [live, present, statusEq]
  have nodup : (partialView next remote type).Nodup :=
    viewOf_nodup next.pool.nodup _ _
  rw [notifyFor, updateAll_apply _ (partialTypes_nodup settings), if_pos typeMem,
    invokePsCallbacks, updateAll_apply _ nodup, if_pos mem, statusEq]

theorem foldl_notifyFor_apply {type : TypeHash} {entity : Entity}
    {statusFor : InstanceId → VisibilityStatus} (typeMem : type ∈ settings.partialTypes)
    (live : entity ∈ next.pool.entities)
    (present : (next.cells type entity).component.isSome = true) {order : List InstanceId}
    (statusEq : ∀ remote ∈ order,
      (next.visibility.storage remote).get? entity = some (statusFor remote))
    (base : TypeHash → Entity → PartialBase) :
    order.foldl (notifyFor settings next) base type entity =
      order.foldl (fun current visited => current.notify visited (statusFor visited))
        (base type entity) := by
  induction order generalizing base with
  | nil => rfl
  | cons first rest ih =>
      rw [List.foldl_cons, List.foldl_cons,
        ih (fun remote mem => statusEq remote (List.mem_cons_of_mem _ mem)),
        notifyFor_apply typeMem live present (statusEq first List.mem_cons_self)]

/-! ## Steps -/

/-- Nothing is sent, no component is added, and the same remotes watch. -/
theorem Recorded.frame (recorded : Recorded settings state)
    (present : ∀ type entity, (next.cells type entity).component.isSome = true →
      (state.server.cells type entity).component.isSome = true)
    (watches : ∀ remote entity,
      Watches ⟨next, state.base, 0⟩ remote entity ↔ state.Watches remote entity) :
    Recorded settings ⟨next, state.base, 0⟩ where
  remotes type typeMem entity stored remote := by
    rw [watches]
    exact recorded.remotes type typeMem entity (present type entity stored) remote
  outbox post mem := (Multiset.notMem_zero post mem).elim

theorem recorded_createEntity {index : Nat} (recorded : Recorded settings state)
    (created : state.server.createEntity index = some next) :
    Recorded settings ⟨next, state.base, 0⟩ := by
  rcases Server.createEntity_eq_some created with ⟨pool, _, rfl⟩
  exact recorded.frame (fun _ _ => id) fun _ _ => Iff.rfl

theorem recorded_destroyEntity {entity : Entity} (recorded : Recorded settings state)
    (destroyed : state.server.destroyEntity entity = some next) :
    Recorded settings ⟨next, state.base, 0⟩ := by
  rcases Server.destroyEntity_eq_some destroyed with ⟨pool, _, rfl⟩
  apply recorded.frame
  · intro type other stored
    by_cases other_eq : other = entity
    · subst other_eq
      simp [Cell.empty] at stored
    · simpa [other_eq] using stored
  · intro remote other
    simp only [Watches, EntityVisibility.storage_onEntityDestroyed]

theorem recorded_removeComponent {type : TypeHash} {entity : Entity}
    (recorded : Recorded settings state)
    (removed : state.server.removeComponent type entity = some next) :
    Recorded settings ⟨next, state.base, 0⟩ := by
  rcases Server.removeComponent_eq_some removed with ⟨_, rfl⟩
  apply recorded.frame
  · intro otherType other stored
    rw [Server.setCell_cells] at stored
    split at stored
    · cases stored
    · exact stored
  · exact fun _ _ => Iff.rfl

theorem recorded_addClientConnection {remote : InstanceId} (wellFormed : state.server.WellFormed)
    (recorded : Recorded settings state) :
    Recorded settings ⟨state.server.addClientConnection remote, state.base, 0⟩ := by
  rw [Server.addClientConnection]
  split
  · exact recorded.frame (fun _ _ => id) fun _ _ => Iff.rfl
  · rename_i unknown
    refine recorded.frame (fun _ _ stored => stored) ?_
    intro other entity
    by_cases other_eq : other = remote
    · -- Nothing is visible yet for a remote that was not connected.
      subst other_eq
      have blank := wellFormed.disconnected_blank other unknown
      simp [Watches, blank, unknown, Sees, status, VisibilityStatus.visibilityBit]
    · simp [Watches, other_eq]

/-- A remote is forgotten by the visibility system, but not by the components. -/
theorem recorded_removeClientConnection_iff {remote : InstanceId}
    (recorded : Recorded settings state) :
    Recorded settings ⟨state.server.removeClientConnection remote, state.base, 0⟩ ↔
      Timely settings state (.server (.removeClientConnection remote)) := by
  rw [Server.removeClientConnection]
  split
  · rename_i connected
    have gone : ∀ entity, ¬Watches ⟨{ state.server with
        connections := state.server.connections.erase remote
        connectionsNodup := state.server.connectionsNodup.erase remote
        visibility := state.server.visibility.onRemoteDisconnected remote },
        state.base, 0⟩ remote entity := by
      intro entity watches
      exact state.server.connectionsNodup.not_mem_erase watches.1
    have kept : ∀ other entity, other ≠ remote → (Watches ⟨{ state.server with
        connections := state.server.connections.erase remote
        connectionsNodup := state.server.connectionsNodup.erase remote
        visibility := state.server.visibility.onRemoteDisconnected remote },
        state.base, 0⟩ other entity ↔ state.Watches other entity) := by
      intro other entity other_ne
      rw [Watches, Watches, List.mem_erase_of_ne other_ne,
        EntityVisibility.storage_onRemoteDisconnected_of_ne _ other_ne]
    constructor
    · intro after type typeMem entity stored watches
      have recordedRemote := (recorded.remotes type typeMem entity stored remote).mpr watches
      exact gone entity ((after.remotes type typeMem entity stored remote).mp recordedRemote)
    · intro timely
      refine ⟨?_, fun post mem => (Multiset.notMem_zero post mem).elim⟩
      intro type typeMem entity stored other
      by_cases other_eq : other = remote
      · subst other_eq
        apply iff_of_false _ (gone entity)
        rw [recorded.remotes type typeMem entity stored other]
        exact timely type typeMem entity stored
      · rw [kept other entity other_eq]
        exact recorded.remotes type typeMem entity stored other
  · rename_i unknown
    apply iff_of_true
    · exact recorded.frame (fun _ _ => id) fun _ _ => Iff.rfl
    · intro type _ entity _ watches
      exact unknown watches.1

/-- A component that is stored has to bring the right remotes along. -/
theorem recorded_setBase_iff {type : TypeHash} {entity : Entity} {value : V} {base : PartialBase}
    (recorded : Recorded settings state)
    (changed : state.server.setComponent type entity value = some next) :
    Recorded settings ⟨next, state.setBase type entity base, 0⟩ ↔
      (type ∈ settings.partialTypes → ∀ remote,
        remote ∈ base.remotes ↔ state.Watches remote entity) := by
  rcases Server.setComponent_eq_some changed with ⟨_, rfl⟩
  have self : (state.setBase type entity base type entity).remotes = base.remotes := by
    simp only [setBase, Function.update_self]
    split <;> rfl
  constructor
  · intro after typeMem remote
    have here := after.remotes type typeMem entity (by rw [Server.setCell_cells]; simp) remote
    rw [self] at here
    exact here
  · intro brought
    refine ⟨?_, fun post mem => (Multiset.notMem_zero post mem).elim⟩
    intro otherType typeMem other stored remote
    by_cases same : otherType = type ∧ other = entity
    · rcases same with ⟨rfl, rfl⟩
      rw [self]
      exact brought typeMem remote
    · have others : state.setBase type entity base otherType other =
          state.base otherType other := by
        simp only [setBase]
        by_cases type_eq : otherType = type
        · subst type_eq
          rw [Function.update_self, Function.update_of_ne fun entity_eq => same ⟨rfl, entity_eq⟩]
        · rw [Function.update_of_ne type_eq]
      rw [Server.setCell_cells, if_neg same] at stored
      have before := recorded.remotes otherType typeMem other stored remote
      rw [← others] at before
      exact before

/-- A tick brings the recorded remotes up to date. -/
theorem recorded_tick {now : Int} {rule : InstanceId → Entity → Bool} {order : List InstanceId}
    (wellFormed : state.server.WellFormed) (recorded : Recorded settings state)
    (ticked : state.server.tick settings.toSyncSettings now rule order = some next) :
    Recorded settings (afterAction settings state next (.tick now rule order)) where
  remotes type typeMem entity stored remote := by
    have nextPresent : (next.cells type entity).component.isSome = true := stored
    have present := nextPresent
    rw [Server.tick_component ticked] at present
    have live : entity ∈ state.server.pool.entities := by
      by_contra dead
      rw [wellFormed.dead_cells type entity dead] at present
      cases present
    have nextLive : entity ∈ next.pool.entities := by
      rw [Server.tick_pool ticked]
      exact live
    have statusEq : ∀ visited ∈ order, (next.visibility.storage visited).get? entity =
        some ((status (state.server.visibility.storage visited) entity).update
          (rule visited entity)) := by
      intro visited mem
      exact wellFormed.tick_get? ticked ((Server.tick_mem_order ticked visited).mp mem) live
    have before := recorded.remotes type typeMem entity present remote
    show remote ∈ (order.foldl (notifyFor settings next) state.base type entity).remotes ↔
      remote ∈ next.connections ∧ Sees (next.visibility.storage remote) entity
    rw [foldl_notifyFor_apply typeMem nextLive nextPresent statusEq,
      mem_remotes_foldl (Server.tick_order_nodup ticked), before, Server.tick_mem_order ticked]
    rw [VisibilityStatus.update_eq_becameVisible_iff,
      VisibilityStatus.update_eq_becameInvisible_iff]
    rw [Watches, Server.tick_connections ticked]
    by_cases connected : remote ∈ state.server.connections
    · rw [wellFormed.sees_tick_iff ticked connected live]
      simp only [connected, true_and, Sees]
      cases (status (state.server.visibility.storage remote) entity).visibilityBit <;>
        cases rule remote entity <;> simp
    · simp [connected]
  outbox post mem := by
    rw [afterAction, Multiset.mem_coe, List.mem_flatMap] at mem
    rcases mem with ⟨remote, remoteMem, greeted⟩
    simp only [greetings, List.mem_flatMap, List.mem_filter, List.mem_map] at greeted
    rcases greeted with ⟨type, _, entity, ⟨_, became⟩, value, _, message, _, rfl⟩
    constructor
    · show remote ∈ next.connections
      rw [Server.tick_connections ticked]
      exact (Server.tick_mem_order ticked remote).mp remoteMem
    · show Sees (next.visibility.storage remote) entity
      rw [sees_iff]
      exact ⟨.becameVisible, of_decide_eq_true became, rfl⟩

/-- A message to all remotes goes to those that can see the entity. -/
theorem recorded_broadcast {after : PartialServer V} {type messageType : TypeHash}
    {entity : Entity} {data : Bytes} (recorded : Recorded settings state)
    (sent : broadcastMessage settings state type entity messageType data = some after) :
    after.server = state.server ∧ Recorded settings after := by
  rw [broadcastMessage, Option.ite_none_right_eq_some] at sent
  rcases sent with ⟨⟨typeMem, present⟩, sentEq⟩
  rw [← Option.some.inj sentEq]
  refine ⟨rfl, recorded.remotes, ?_⟩
  intro post mem
  dsimp only at mem
  split at mem
  · rcases Multiset.mem_map.mp mem with ⟨remote, visible, rfl⟩
    rw [PartialBase.getVisibleRemotes, Finset.mem_val, Finset.mem_filter] at visible
    exact (recorded.remotes type typeMem entity present remote).mp visible.1
  · exact (Multiset.notMem_zero post mem).elim

/-! ## Runs -/

theorem recorded_initial (settings : PartialSettings V) (defaultSyncRate : Int) :
    Recorded settings (initial defaultSyncRate) where
  remotes type _ entity stored := by cases stored
  outbox post mem := (Multiset.notMem_zero post mem).elim

theorem wellFormed_step {action : PartialAction V} {after : PartialServer V}
    (wellFormed : state.server.WellFormed) (stepEq : step settings state action = some after) :
    after.server.WellFormed := by
  cases action with
  | server action =>
      rcases Option.map_eq_some_iff.mp stepEq with ⟨next, serverEq, rfl⟩
      have nextWellFormed := Server.wellFormed_step settings.toSyncSettings wellFormed serverEq
      cases action <;> exact nextWellFormed
  | setUsed type entity value base =>
      rcases Option.map_eq_some_iff.mp stepEq with ⟨next, serverEq, rfl⟩
      have setEq : Server.step settings.toSyncSettings state.server
          (.setComponent type entity value) = some next := serverEq
      exact Server.wellFormed_step settings.toSyncSettings wellFormed setEq
  | broadcast type entity messageType data =>
      rw [step, broadcastMessage, Option.ite_none_right_eq_some] at stepEq
      rw [← Option.some.inj stepEq.2]
      exact wellFormed

/-- A step keeps the right remotes recorded if and only if it is timely. -/
theorem recorded_step_iff {action : PartialAction V} {after : PartialServer V}
    (wellFormed : state.server.WellFormed) (recorded : Recorded settings state)
    (stepEq : step settings state action = some after) :
    Recorded settings after ↔ Timely settings state action := by
  cases action with
  | server action =>
      rcases Option.map_eq_some_iff.mp stepEq with ⟨next, serverEq, rfl⟩
      cases action with
      | createEntity index => exact iff_of_true (recorded_createEntity recorded serverEq) trivial
      | destroyEntity entity =>
          exact iff_of_true (recorded_destroyEntity recorded serverEq) trivial
      | setComponent type entity value =>
          rw [afterAction, recorded_setBase_iff recorded serverEq]
          simp [Timely, PartialBase.constructed]
      | removeComponent type entity =>
          exact iff_of_true (recorded_removeComponent recorded serverEq) trivial
      | addClientConnection remote =>
          rw [← Option.some.inj serverEq]
          exact iff_of_true (recorded_addClientConnection wellFormed recorded) trivial
      | removeClientConnection remote =>
          rw [← Option.some.inj serverEq]
          exact recorded_removeClientConnection_iff recorded
      | setSyncRate type interval =>
          rw [← Option.some.inj serverEq]
          exact iff_of_true (recorded.frame (fun _ _ stored => stored) fun _ _ => Iff.rfl) trivial
      | tick now rule order =>
          exact iff_of_true (recorded_tick wellFormed recorded serverEq) trivial
  | setUsed type entity value base =>
      rcases Option.map_eq_some_iff.mp stepEq with ⟨next, serverEq, rfl⟩
      exact recorded_setBase_iff recorded serverEq
  | broadcast type entity messageType data =>
      exact iff_of_true (recorded_broadcast recorded stepEq).2 trivial

/-- For every sequence of actions: the remotes recorded in the components are those that are
connected and can see the entity, and messages only go to these, in every state that is
reached, if and only if components are stored and remotes disconnect in time. -/
theorem recorded_iff_timely (settings : PartialSettings V) (defaultSyncRate : Int)
    (actions : List (PartialAction V)) (final : PartialServer V)
    (runEq : run (step settings) (initial defaultSyncRate) actions = some final) :
    (∀ before after middle, actions = before ++ after →
        run (step settings) (initial defaultSyncRate) before = some middle →
          Recorded settings middle) ↔
      Guarded (step settings) (Timely settings) (initial defaultSyncRate) actions :=
  throughout_iff_guarded (fun _ _ _ wellFormed stepEq => wellFormed_step wellFormed stepEq)
    (fun _ _ _ wellFormed recorded stepEq => recorded_step_iff wellFormed recorded stepEq)
    (Server.wellFormed_initial defaultSyncRate) (recorded_initial settings defaultSyncRate) runEq

/-- Flags that are synchronized partially and greet each remote. -/
def flagPartial : PartialSettings Bool where
  toSyncSettings := flagSettings
  isPartial _ := true
  greeting _ flag := [(9, [if flag then 1 else 0])]

/-- The entity is visible to all remotes, or to none. -/
def flagTick (visible : Bool) : PartialAction Bool :=
  .server (.tick 1000000000 (fun _ _ => visible) [1])

/-- The remote comes to see the entity and does not see it any more when it disconnects. -/
def timelyActions : List (PartialAction Bool) :=
  [.server (.addClientConnection 1), .server (.createEntity 0),
    .server (.setComponent 1 ⟨0, 0⟩ true), flagTick true, .broadcast 1 ⟨0, 0⟩ 9 [2],
    flagTick false, .server (.removeClientConnection 1)]

theorem recorded_timelyActions :
    ∃ final, run (step flagPartial) (initial 0) timelyActions = some final ∧
      final.base 1 ⟨0, 0⟩ = ⟨true, ∅⟩ ∧
      ((∀ before after middle, timelyActions = before ++ after →
          run (step flagPartial) (initial 0) before = some middle →
            Recorded flagPartial middle) ↔
        Guarded (step flagPartial) (Timely flagPartial) (initial 0) timelyActions) := by
  rcases Option.map_eq_some_iff.mp (by decide +kernel :
    (run (step flagPartial) (initial 0) timelyActions).map (fun final => final.base 1 ⟨0, 0⟩) =
      some ⟨true, ∅⟩) with ⟨final, runEq, base_eq⟩
  exact ⟨final, runEq, base_eq, recorded_iff_timely flagPartial 0 timelyActions final runEq⟩

/-- A component that is stored while its entity is visible never learns of the remote, and a
component keeps a remote that disconnects and sends it messages when it connects again. -/
theorem remotes_misrecorded :
    (∃ final, run (step flagPartial) (initial 0)
        [.server (.addClientConnection 1), .server (.createEntity 0), flagTick true,
          .server (.setComponent 1 ⟨0, 0⟩ true), flagTick true] = some final ∧
      ¬Recorded flagPartial final) ∧
    ∃ final, run (step flagPartial) (initial 0)
        [.server (.addClientConnection 1), .server (.createEntity 0),
          .server (.setComponent 1 ⟨0, 0⟩ true), flagTick true,
          .server (.removeClientConnection 1), .server (.addClientConnection 1),
          flagTick false, .broadcast 1 ⟨0, 0⟩ 9 [2]] = some final ∧
      ⟨1, ⟨0, 0⟩, 9, [2]⟩ ∈ final.outbox ∧ ¬final.Watches 1 ⟨0, 0⟩ ∧
      ¬Recorded flagPartial final := by
  constructor
  · rcases Option.map_eq_some_iff.mp (by decide +kernel :
      (run (step flagPartial) (initial 0)
        [.server (.addClientConnection 1), .server (.createEntity 0), flagTick true,
          .server (.setComponent 1 ⟨0, 0⟩ true), flagTick true]).map (fun final =>
            ((final.server.cells 1 ⟨0, 0⟩).component.isSome, final.base 1 ⟨0, 0⟩,
              decide (final.Watches 1 ⟨0, 0⟩))) = some (true, ⟨true, ∅⟩, true)) with
      ⟨final, runEq, facts⟩
    rcases Prod.mk.inj facts with ⟨stored, facts⟩
    rcases Prod.mk.inj facts with ⟨base_eq, watches⟩
    refine ⟨final, runEq, fun recorded => ?_⟩
    have mem := (recorded.remotes 1 (by decide) ⟨0, 0⟩ stored 1).mpr (of_decide_eq_true watches)
    rw [base_eq] at mem
    exact Finset.notMem_empty 1 mem
  · rcases Option.map_eq_some_iff.mp (by decide +kernel :
      (run (step flagPartial) (initial 0)
        [.server (.addClientConnection 1), .server (.createEntity 0),
          .server (.setComponent 1 ⟨0, 0⟩ true), flagTick true,
          .server (.removeClientConnection 1), .server (.addClientConnection 1),
          flagTick false, .broadcast 1 ⟨0, 0⟩ 9 [2]]).map (fun final =>
            (decide (⟨1, ⟨0, 0⟩, 9, [2]⟩ ∈ final.outbox), decide (final.Watches 1 ⟨0, 0⟩))) =
        some (true, false)) with ⟨final, runEq, facts⟩
    rcases Prod.mk.inj facts with ⟨sent, unseen⟩
    have mem : ⟨1, ⟨0, 0⟩, 9, [2]⟩ ∈ final.outbox := of_decide_eq_true sent
    have blind : ¬final.Watches 1 ⟨0, 0⟩ := of_decide_eq_false unseen
    exact ⟨final, runEq, mem, blind, fun recorded => blind (recorded.outbox _ mem)⟩

end PartialServer

end VoxelEngine.ClientServer
