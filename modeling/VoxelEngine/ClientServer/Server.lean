import Mathlib.Data.List.Perm.Basic
import VoxelEngine.Ecs.SyncCell
import VoxelEngine.Transition.Run

/-!
# A server that replicates its registry

The server owns a registry, a list of connections and the two systems that keep the
remotes informed: the entity visibility system and the component synchronizer, which
runs after it in every tick.  What was sent on a connection is recorded in full and
in order.

Ticks take the clock reading and the outcome of the visibility rule as inputs, and
the order in which the connections are enumerated, since the connections are kept in
a hash map.
-/

namespace VoxelEngine.ClientServer

open VoxelEngine.Data
open VoxelEngine.Ecs
open VoxelEngine.Transition

variable {V : Type}

/-- The server instance together with its two replication systems. -/
structure Server (V : Type) where
  pool : EntityPool
  cells : TypeHash → Entity → Cell V
  connections : List InstanceId
  connectionsNodup : connections.Nodup
  visibility : EntityVisibility
  syncRates : TypeHash → Int
  lastSync : TypeHash → Int
  sent : InstanceId → List CoreMessage

/-- What can happen to the server between and during ticks. -/
inductive ServerAction (V : Type) where
  | createEntity (index : Nat)
  | destroyEntity (entity : Entity)
  | setComponent (type : TypeHash) (entity : Entity) (value : V)
  | removeComponent (type : TypeHash) (entity : Entity)
  | addClientConnection (remote : InstanceId)
  | removeClientConnection (remote : InstanceId)
  | setSyncRate (type : TypeHash) (interval : Int)
  | tick (now : Int) (rule : InstanceId → Entity → Bool) (order : List InstanceId)

namespace Server

/-- A server without entities and connections. -/
def initial (defaultSyncRate : Int) : Server V where
  pool := EntityPool.empty
  cells _ _ := Cell.empty
  connections := []
  connectionsNodup := List.nodup_nil
  visibility := EntityVisibility.initial
  syncRates _ := defaultSyncRate
  lastSync _ := 0
  sent _ := []

/-- Replace what is stored for a component type at an entity. -/
def setCell (server : Server V) (type : TypeHash) (entity : Entity) (cell : Cell V) :
    Server V :=
  { server with
    cells := Function.update server.cells type
      (Function.update (server.cells type) entity cell) }

/-- `registry::create_entity`. -/
def createEntity (server : Server V) (index : Nat) : Option (Server V) :=
  (server.pool.create index).map fun pool => { server with pool := pool }

/-- `registry::destroy_entity`: announce the destruction, then drop the entity with all
its components. -/
def destroyEntity (server : Server V) (entity : Entity) : Option (Server V) :=
  (server.pool.destroy entity).map fun pool =>
    { server with
      pool := pool
      cells := fun type => Function.update (server.cells type) entity Cell.empty
      visibility := server.visibility.onEntityDestroyed entity }

/-- `registry::set_component` on a live entity. -/
def setComponent (server : Server V) (type : TypeHash) (entity : Entity) (value : V) :
    Option (Server V) :=
  if entity ∈ server.pool.entities then
    some (server.setCell type entity { server.cells type entity with component := some value })
  else none

/-- `registry::remove_component` of a component that is present. -/
def removeComponent (server : Server V) (type : TypeHash) (entity : Entity) :
    Option (Server V) :=
  if (server.cells type entity).component.isSome then
    some (server.setCell type entity { server.cells type entity with component := none })
  else none

/-- `server::add_client_connection`; a fresh connection has sent nothing. -/
def addClientConnection (server : Server V) (remote : InstanceId) : Server V :=
  if known : remote ∈ server.connections then server
  else
    { server with
      connections := remote :: server.connections
      connectionsNodup := List.nodup_cons.mpr ⟨known, server.connectionsNodup⟩
      sent := Function.update server.sent remote [] }

/-- `server::remove_client_connection`. -/
def removeClientConnection (server : Server V) (remote : InstanceId) : Server V :=
  if remote ∈ server.connections then
    { server with
      connections := server.connections.erase remote
      connectionsNodup := server.connectionsNodup.erase remote
      visibility := server.visibility.onRemoteDisconnected remote }
  else server

/-- Append to what was sent on a connection. -/
def send (server : Server V) (remote : InstanceId) (messages : List CoreMessage) : Server V :=
  { server with
    sent := Function.update server.sent remote (server.sent remote ++ messages) }

/-- The loop body of `system_entity_visibility::on_system_update`. -/
def updateVisibilityFor (rule : InstanceId → Entity → Bool) (server : Server V)
    (remote : InstanceId) : Server V :=
  let pass := VisibilityPass.updateConnection (rule remote) server.pool.entities
    server.visibility.destroyedEntities (server.visibility.storage remote)
  { server with
    visibility := { server.visibility with
      storage := Function.update server.visibility.storage remote pass.storage } }.send
    remote pass.messages

/-- `system_entity_visibility::on_system_update`. -/
def updateVisibility (rule : InstanceId → Entity → Bool) (order : List InstanceId)
    (server : Server V) : Server V :=
  let updated := order.foldl (updateVisibilityFor rule) server
  { updated with visibility := { updated.visibility with destroyedEntities := [] } }

/-- The loop body of `system_synchronizer::on_system_update`. -/
def synchronizeFor (settings : SyncSettings V) (synchronizeNow : TypeHash → Bool)
    (server : Server V) (remote : InstanceId) : Server V :=
  let pass := synchronizeConnection settings (server.visibility.storage remote).get?
    synchronizeNow server.pool.entities server.cells
  { server with cells := pass.cells }.send remote
    (if pass.message.isEmpty then [] else [.compound pass.message])

/-- Has the timer of the component type elapsed at this clock reading? -/
def synchronizeNow (server : Server V) (now : Int) (type : TypeHash) : Bool :=
  now - server.lastSync type ≥ server.syncRates type

/-- `system_synchronizer::on_system_update`. -/
def synchronize (settings : SyncSettings V) (now : Int) (order : List InstanceId)
    (server : Server V) : Server V :=
  let elapsed := server.synchronizeNow now
  let updated := order.foldl (synchronizeFor settings elapsed) server
  { updated with
    cells := clearUpToDate settings updated.cells
    lastSync := updateAll (fun type last => if elapsed type then now else last)
      settings.types updated.lastSync }

/-- One tick: visibility first, since its system has the higher priority. -/
def tick (settings : SyncSettings V) (now : Int) (rule : InstanceId → Entity → Bool)
    (order : List InstanceId) (server : Server V) : Option (Server V) :=
  if order.Perm server.connections then
    some (synchronize settings now order (updateVisibility rule order server))
  else none

/-- The transition relation of the server. -/
def step (settings : SyncSettings V) : Step (Server V) (ServerAction V)
  | server, .createEntity index => server.createEntity index
  | server, .destroyEntity entity => server.destroyEntity entity
  | server, .setComponent type entity value => server.setComponent type entity value
  | server, .removeComponent type entity => server.removeComponent type entity
  | server, .addClientConnection remote => some (server.addClientConnection remote)
  | server, .removeClientConnection remote => some (server.removeClientConnection remote)
  | server, .setSyncRate type interval =>
      some { server with syncRates := Function.update server.syncRates type interval }
  | server, .tick now rule order => server.tick settings now rule order

end Server

/-! ## A synchronizer of flags -/

/-- `XXH64` with seed zero, on data of fewer than four bytes. -/
def shortXXH64 (data : Bytes) : UInt64 :=
  let mixed := data.foldl
    (fun (hash : UInt64) (byte : UInt8) =>
      let folded := hash ^^^ (byte.toUInt64 * 2870177450012600261)
      ((folded <<< 11) ||| (folded >>> 53)) * 11400714785074694791)
    (2870177450012600261 + data.length.toUInt64)
  let first := (mixed ^^^ (mixed >>> 33)) * 14029467366897019727
  let second := (first ^^^ (first >>> 29)) * 1609587929392839161
  second ^^^ (second >>> 32)

example : shortXXH64 [97] = 0xD24EC4F1A98C6E5B := by decide

/-- One synchronized component type, whose values are single flags. -/
def flagSettings : SyncSettings Bool where
  types := [1]
  nodup := List.nodup_singleton 1
  toBytes _ flag := [if flag then 1 else 0]
  digest := shortXXH64

end VoxelEngine.ClientServer
