import VoxelEngine.Ecs.ChangeValidator

/-!
# Component messages

What an instance does when a remote asks it to set or to remove a component, or sends a
message to a partially synchronized component.  Component types are looked up in the
component registry, which knows how to serialize the values of a type; messages to
partially synchronized components are looked up in a registry of their own.  The answers
a handler sends are returned beside the registry it leaves.
-/

namespace VoxelEngine.ClientServer

open VoxelEngine.Ecs

/-- What keeps a handler from returning. -/
inductive Fault where
  /-- A registry has no entry for a type: `storage.at` throws. -/
  | unknownType
  /-- A component that is not present is dereferenced or removed. -/
  | absentComponent
  /-- A component is added to an entity that does not exist. -/
  | invalidEntity
  deriving DecidableEq

/-- `component_registry_data`: how the values of a component type are serialized, and
whether components of the type may be removed. -/
structure ComponentData (V : Type) where
  isRemovable : Bool
  toBytes : V → Bytes
  fromBytes : Bytes → V

/-- The entry of `ps_message_registry` for a message type: the type of the component it
is for, and what the component does with it. -/
structure PsMessage (V : Type) where
  componentType : TypeHash
  onMessageReceived : V → Bytes → InstanceId → V × List CoreMessage

/-- What the handlers of a connection consult besides the registry. -/
structure Receiver (V : Type) where
  componentRegistry : TypeHash → Option (ComponentData V)
  psMessageRegistry : TypeHash → Option (PsMessage V)
  validator : ChangeValidator V
  remoteId : InstanceId

variable {V : Type}

end VoxelEngine.ClientServer

namespace VoxelEngine.Ecs.Registry

open VoxelEngine.ClientServer

variable {V : Type}

/-- `registry::set_component` -/
def setComponent (registry : Registry V) (type : TypeHash) (entity : Entity) (component : V) :
    Except Fault (Registry V) :=
  if entity ∈ registry.pool.entities then
    Except.ok (registry.place type entity (some component))
  else Except.error Fault.invalidEntity

/-- `registry::remove_component` -/
def removeComponent (registry : Registry V) (type : TypeHash) (entity : Entity) :
    Except Fault (Registry V) :=
  match registry.component type entity with
  | some _ => Except.ok (registry.place type entity none)
  | none => Except.error Fault.absentComponent

/-- `registry::set_component_checked`: the result, the component and the registry. -/
def setComponentChecked (registry : Registry V) (validator : ChangeValidator V)
    (remote : InstanceId) (type : TypeHash) (entity : Entity) (component : V) :
    Except Fault (ChangeResult × Option V × Registry V) := do
  let value := registry.component type entity
  let result := validator.isAllowed remote registry type entity value (some component)
  if result = ChangeResult.allowed then
    let next ← registry.setComponent type entity component
    pure (result, some component, next)
  else pure (result, value, registry)

/-- `registry::remove_component_checked`: the result, the old component and the registry.
For a type that may not be removed the change is forbidden even if it is allowed. -/
def removeComponentChecked (registry : Registry V) (validator : ChangeValidator V)
    (remote : InstanceId) (isRemovable : Bool) (type : TypeHash) (entity : Entity) :
    Except Fault (ChangeResult × Option V × Registry V) := do
  let value := registry.component type entity
  let result := validator.isAllowed remote registry type entity value none
  if isRemovable then
    if result = ChangeResult.allowed then
      let next ← registry.removeComponent type entity
      pure (result, none, next)
    else pure (result, value, registry)
  else
    pure (if result = ChangeResult.allowed then ChangeResult.forbidden else result, value, registry)

end VoxelEngine.Ecs.Registry

namespace VoxelEngine.ClientServer

open VoxelEngine.Ecs

variable {V : Type}

namespace ComponentData

/-- The bytes returned beside the result of a checked operation: `to_bytes(*value)` when
the change is forbidden, and nothing otherwise. -/
def bytesIfForbidden (data : ComponentData V) (result : ChangeResult) (value : Option V) :
    Except Fault Bytes :=
  if result = ChangeResult.forbidden then
    match value with
    | some value => Except.ok (data.toBytes value)
    | none => Except.error Fault.absentComponent
  else Except.ok []

/-- `component_registry_data::set_component_checked` -/
def setComponentChecked (data : ComponentData V) (validator : ChangeValidator V)
    (remote : InstanceId) (registry : Registry V) (type : TypeHash) (entity : Entity)
    (bytes : Bytes) : Except Fault (ChangeResult × Bytes × Registry V) := do
  let (result, value, next) ←
    registry.setComponentChecked validator remote type entity (data.fromBytes bytes)
  let oldBytes ← data.bytesIfForbidden result value
  pure (result, oldBytes, next)

/-- `component_registry_data::remove_component_checked` -/
def removeComponentChecked (data : ComponentData V) (validator : ChangeValidator V)
    (remote : InstanceId) (registry : Registry V) (type : TypeHash) (entity : Entity) :
    Except Fault (ChangeResult × Bytes × Registry V) := do
  let (result, value, next) ←
    registry.removeComponentChecked validator remote data.isRemovable type entity
  let oldBytes ← data.bytesIfForbidden result value
  pure (result, oldBytes, next)

end ComponentData

namespace Receiver

/-- `component_registry::get` -/
def getComponentData (receiver : Receiver V) (type : TypeHash) :
    Except Fault (ComponentData V) :=
  match receiver.componentRegistry type with
  | some data => Except.ok data
  | none => Except.error Fault.unknownType

/-- `on_msg_set_component_received`, for `MSG_UNDO_COMPONENT` with `rebroadcast` set. -/
def onMsgSetComponentReceived (receiver : Receiver V) (rebroadcast : Bool)
    (registry : Registry V) (componentData : Bytes) (componentType : TypeHash)
    (entity : Entity) : Except Fault (Registry V × List CoreMessage) := do
  let data ← receiver.getComponentData componentType
  let (result, value, next) ←
    data.setComponentChecked receiver.validator receiver.remoteId registry componentType entity
      componentData
  if !rebroadcast && result == ChangeResult.forbidden then
    pure (next, [CoreMessage.undoComponent value componentType entity])
  else pure (next, [])

/-- `on_msg_del_component_received` -/
def onMsgDelComponentReceived (receiver : Receiver V) (registry : Registry V)
    (componentType : TypeHash) (entity : Entity) :
    Except Fault (Registry V × List CoreMessage) := do
  let data ← receiver.getComponentData componentType
  let (result, value, next) ←
    data.removeComponentChecked receiver.validator receiver.remoteId registry componentType entity
  if result == ChangeResult.forbidden then
    pure (next, [CoreMessage.undoComponent value componentType entity])
  else pure (next, [])

/-- `on_msg_partial_sync_received`: the component handles the message itself. -/
def onMsgPartialSyncReceived (receiver : Receiver V) (registry : Registry V) (data : Bytes)
    (messageType : TypeHash) (entity : Entity) :
    Except Fault (Registry V × List CoreMessage) :=
  match receiver.psMessageRegistry messageType with
  | none => Except.error Fault.unknownType
  | some message =>
      match registry.component message.componentType entity with
      | none => Except.error Fault.absentComponent
      | some component =>
          let (next, replies) := message.onMessageReceived component data receiver.remoteId
          Except.ok (registry.place message.componentType entity (some next), replies)

/-- The handler a server has for a message that is not compound; it has none for the
messages about entities. -/
def handle (receiver : Receiver V) (registry : Registry V) :
    CoreMessage → Except Fault (Registry V × List CoreMessage)
  | CoreMessage.setComponent data type entity =>
      receiver.onMsgSetComponentReceived false registry data type entity
  | CoreMessage.undoComponent data type entity =>
      receiver.onMsgSetComponentReceived true registry data type entity
  | CoreMessage.delComponent type entity => receiver.onMsgDelComponentReceived registry type entity
  | CoreMessage.partialSync data type entity =>
      receiver.onMsgPartialSyncReceived registry data type entity
  | _ => Except.ok (registry, [])

end Receiver

end VoxelEngine.ClientServer
