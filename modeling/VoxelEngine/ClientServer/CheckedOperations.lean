import VoxelEngine.ClientServer.ComponentMessages

/-!
# Checked operations and absent components

A change is checked before it is made, but neither the removal of a component nor the
answer to a forbidden change asks whether there is a component.  The three messages that
go through the checked operations never touch an absent component exactly when the
component is there, or cannot be observed, or is about to be set.
-/

namespace VoxelEngine.ClientServer

open VoxelEngine.Ecs

variable {V : Type}

/-- The messages that are handled by a checked operation. -/
inductive ComponentOperation where
  | set (componentData : Bytes)
  | undo (componentData : Bytes)
  | del
  deriving DecidableEq

namespace ComponentOperation

/-- The message that asks for the operation. -/
def message (operation : ComponentOperation) (type : TypeHash) (entity : Entity) :
    CoreMessage :=
  match operation with
  | set componentData => CoreMessage.setComponent componentData type entity
  | undo componentData => CoreMessage.undoComponent componentData type entity
  | del => CoreMessage.delComponent type entity

/-- The value the operation would leave. -/
def newValue (operation : ComponentOperation) (data : ComponentData V) : Option V :=
  match operation with
  | set componentData => some (data.fromBytes componentData)
  | undo componentData => some (data.fromBytes componentData)
  | del => none

end ComponentOperation

namespace Receiver

section Handlers

variable {receiver : Receiver V} {registry : Registry V} {type : TypeHash} {entity : Entity}
variable {data : ComponentData V}

/-- What a handler does when it must not make the change: answer with the old value. -/
def refuse (registry : Registry V) (data : ComponentData V) (type : TypeHash)
    (entity : Entity) : Except Fault (Registry V × List CoreMessage) :=
  match registry.component type entity with
  | some value =>
      Except.ok (registry, [CoreMessage.undoComponent (data.toBytes value) type entity])
  | none => Except.error Fault.absentComponent

/-- The set handler, case by case of the validator's result. -/
theorem onMsgSetComponentReceived_eq (found : receiver.componentRegistry type = some data)
    (rebroadcast : Bool) (bytes : Bytes) :
    receiver.onMsgSetComponentReceived rebroadcast registry bytes type entity =
      match receiver.validator.isAllowed receiver.remoteId registry type entity
          (registry.component type entity) (some (data.fromBytes bytes)) with
      | ChangeResult.allowed =>
          (registry.setComponent type entity (data.fromBytes bytes)).map fun next => (next, [])
      | ChangeResult.forbidden =>
          (refuse registry data type entity).map fun answer =>
            (answer.1, if rebroadcast then [] else answer.2)
      | ChangeResult.unobservable => Except.ok (registry, []) := by
  simp only [onMsgSetComponentReceived, getComponentData, found,
    ComponentData.setComponentChecked, Registry.setComponentChecked, bind, Except.bind, pure,
    Except.pure]
  generalize receiver.validator.isAllowed receiver.remoteId registry type entity
    (registry.component type entity) (some (data.fromBytes bytes)) = verdict
  cases verdict with
  | allowed =>
      cases registry.setComponent type entity (data.fromBytes bytes) <;>
        simp [Except.map, ComponentData.bytesIfForbidden]
  | forbidden =>
      cases component : registry.component type entity <;> cases rebroadcast <;>
        simp [Except.map, ComponentData.bytesIfForbidden,
          refuse, component]
  | unobservable =>
      simp [ComponentData.bytesIfForbidden]

/-- The delete handler, case by case of the validator's result. -/
theorem onMsgDelComponentReceived_eq (found : receiver.componentRegistry type = some data) :
    receiver.onMsgDelComponentReceived registry type entity =
      match receiver.validator.isAllowed receiver.remoteId registry type entity
          (registry.component type entity) none with
      | ChangeResult.allowed =>
          if data.isRemovable then
            (registry.removeComponent type entity).map fun next => (next, [])
          else refuse registry data type entity
      | ChangeResult.forbidden => refuse registry data type entity
      | ChangeResult.unobservable => Except.ok (registry, []) := by
  simp only [onMsgDelComponentReceived, getComponentData, found,
    ComponentData.removeComponentChecked, Registry.removeComponentChecked, bind, Except.bind,
    pure, Except.pure]
  generalize receiver.validator.isAllowed receiver.remoteId registry type entity
    (registry.component type entity) none = verdict
  cases verdict with
  | allowed =>
      cases data.isRemovable <;> cases component : registry.component type entity <;>
        simp [Except.map, ComponentData.bytesIfForbidden,
          refuse, Registry.removeComponent, component]
  | forbidden =>
      cases data.isRemovable <;> cases component : registry.component type entity <;>
        simp [ComponentData.bytesIfForbidden, refuse,
          component]
  | unobservable =>
      cases data.isRemovable <;>
        simp [ComponentData.bytesIfForbidden]

end Handlers

section Contract

variable (receiver : Receiver V) (registry : Registry V) (type : TypeHash) (entity : Entity)
variable (data : ComponentData V) (operation : ComponentOperation)

/-- What the validator says about the operation. -/
def verdict : ChangeResult :=
  receiver.validator.isAllowed receiver.remoteId registry type entity
    (registry.component type entity) (operation.newValue data)

/-- The operation is answered with the old value. -/
def isAnswered : Bool :=
  match operation with
  | ComponentOperation.set _ =>
      receiver.verdict registry type entity data operation == ChangeResult.forbidden
  | ComponentOperation.undo _ => false
  | ComponentOperation.del =>
      receiver.verdict registry type entity data operation == ChangeResult.forbidden ||
        (receiver.verdict registry type entity data operation == ChangeResult.allowed &&
          !data.isRemovable)

/-- The operation does not look at the component: it cannot be observed, or it is set. -/
def isIndependent : Bool :=
  match operation with
  | ComponentOperation.del =>
      receiver.verdict registry type entity data operation == ChangeResult.unobservable
  | _ => receiver.verdict registry type entity data operation != ChangeResult.forbidden

/-- No absent component was touched, and what is sent back decodes to the value the
component had. -/
def TouchesOnlyPresent : Except Fault (Registry V × List CoreMessage) → Prop
  | Except.error fault => fault ≠ Fault.absentComponent
  | Except.ok (_, replies) =>
      ∀ bytes repliedType repliedEntity,
        CoreMessage.undoComponent bytes repliedType repliedEntity ∈ replies →
          repliedType = type ∧ repliedEntity = entity ∧
            ∃ data, receiver.componentRegistry type = some data ∧
              registry.component type entity = some (data.fromBytes bytes)

/-- The component is there, and the serializer of its type restores its value if the
operation is answered; or the operation does not look at the component. -/
def ComponentAvailable : Prop :=
  ∀ data, receiver.componentRegistry type = some data →
    match registry.component type entity with
    | some value =>
        receiver.isAnswered registry type entity data operation = true →
          data.fromBytes (data.toBytes value) = value
    | none => receiver.isIndependent registry type entity data operation = true

end Contract

section Contract

variable {receiver : Receiver V} {registry : Registry V} {type : TypeHash} {entity : Entity}
variable {data : ComponentData V}

/-- Without an entry for the type the handlers throw before they touch anything. -/
theorem handle_of_unknown (unknown : receiver.componentRegistry type = none)
    (operation : ComponentOperation) :
    receiver.handle registry (operation.message type entity) =
      Except.error Fault.unknownType := by
  cases operation <;>
    simp [ComponentOperation.message, handle, onMsgSetComponentReceived,
      onMsgDelComponentReceived, getComponentData, unknown, bind, Except.bind]

theorem setComponent_ne_absentComponent (value : V) :
    registry.setComponent type entity value ≠ Except.error Fault.absentComponent := by
  unfold Registry.setComponent
  split <;> simp

/-- A refusal is sound when there is a component and its value survives serialization. -/
theorem touchesOnlyPresent_refuse_iff (found : receiver.componentRegistry type = some data) :
    receiver.TouchesOnlyPresent registry type entity (refuse registry data type entity) ↔
      ∃ value, registry.component type entity = some value ∧
        data.fromBytes (data.toBytes value) = value := by
  cases component : registry.component type entity with
  | none => simp [refuse, component, TouchesOnlyPresent]
  | some value =>
      simp only [refuse, component, TouchesOnlyPresent]
      simp [found, eq_comm]

/-- A handler that returns without an answer is sound. -/
theorem touchesOnlyPresent_silent (next : Registry V) :
    receiver.TouchesOnlyPresent registry type entity (Except.ok (next, [])) := by
  intro bytes repliedType repliedEntity mem
  cases mem

theorem touchesOnlyPresent_set (value : V) :
    receiver.TouchesOnlyPresent registry type entity
      ((registry.setComponent type entity value).map fun next => (next, [])) := by
  cases stored : registry.setComponent type entity value with
  | error fault =>
      rintro rfl
      exact setComponent_ne_absentComponent value stored
  | ok next => exact touchesOnlyPresent_silent next

/-- The set handler is sound unless the change is forbidden and the component is missing,
or is answered with bytes that do not restore it. -/
theorem touchesOnlyPresent_onMsgSetComponentReceived_iff
    (found : receiver.componentRegistry type = some data) (rebroadcast : Bool) (bytes : Bytes) :
    receiver.TouchesOnlyPresent registry type entity
        (receiver.onMsgSetComponentReceived rebroadcast registry bytes type entity) ↔
      (receiver.validator.isAllowed receiver.remoteId registry type entity
          (registry.component type entity) (some (data.fromBytes bytes)) =
            ChangeResult.forbidden →
        ∃ value, registry.component type entity = some value ∧
          (rebroadcast = false → data.fromBytes (data.toBytes value) = value)) := by
  rw [onMsgSetComponentReceived_eq found]
  cases receiver.validator.isAllowed receiver.remoteId registry type entity
      (registry.component type entity) (some (data.fromBytes bytes)) with
  | allowed => simpa using touchesOnlyPresent_set (data.fromBytes bytes)
  | unobservable => simpa using touchesOnlyPresent_silent registry
  | forbidden =>
      cases rebroadcast with
      | false =>
          have same : (refuse registry data type entity).map
              (fun answer => (answer.1, answer.2)) = refuse registry data type entity := by
            cases refuse registry data type entity <;> rfl
          simpa [same] using touchesOnlyPresent_refuse_iff found
      | true =>
          cases component : registry.component type entity <;>
            simp [refuse, component, Except.map, TouchesOnlyPresent]

/-- The delete handler is sound if the component is not observable, or is there and either
is removed or is answered with bytes that restore it. -/
theorem touchesOnlyPresent_onMsgDelComponentReceived_iff
    (found : receiver.componentRegistry type = some data) :
    receiver.TouchesOnlyPresent registry type entity
        (receiver.onMsgDelComponentReceived registry type entity) ↔
      match receiver.validator.isAllowed receiver.remoteId registry type entity
          (registry.component type entity) none with
      | ChangeResult.allowed =>
          ∃ value, registry.component type entity = some value ∧
            (data.isRemovable = false → data.fromBytes (data.toBytes value) = value)
      | ChangeResult.forbidden =>
          ∃ value, registry.component type entity = some value ∧
            data.fromBytes (data.toBytes value) = value
      | ChangeResult.unobservable => True := by
  rw [onMsgDelComponentReceived_eq found]
  cases receiver.validator.isAllowed receiver.remoteId registry type entity
      (registry.component type entity) none with
  | allowed =>
      cases removable : data.isRemovable with
      | false => simpa using touchesOnlyPresent_refuse_iff found
      | true =>
          cases component : registry.component type entity with
          | none =>
              simp [Registry.removeComponent, component, Except.map, TouchesOnlyPresent]
          | some value =>
              simpa [Registry.removeComponent, component, Except.map] using
                touchesOnlyPresent_silent _
  | forbidden => simpa using touchesOnlyPresent_refuse_iff found
  | unobservable => simpa using touchesOnlyPresent_silent registry

/-- A checked operation that a remote asks for touches no absent component, and is
answered with the old value, exactly when the component is available. -/
theorem touchesOnlyPresent_iff (operation : ComponentOperation) :
    receiver.TouchesOnlyPresent registry type entity
        (receiver.handle registry (operation.message type entity)) ↔
      receiver.ComponentAvailable registry type entity operation := by
  cases found : receiver.componentRegistry type with
  | none =>
      rw [handle_of_unknown found]
      simp [TouchesOnlyPresent, ComponentAvailable, found]
  | some data =>
      have available : receiver.ComponentAvailable registry type entity operation ↔
          match registry.component type entity with
          | some value =>
              receiver.isAnswered registry type entity data operation = true →
                data.fromBytes (data.toBytes value) = value
          | none => receiver.isIndependent registry type entity data operation = true := by
        simp [ComponentAvailable, found]
      rw [available]
      cases operation with
      | set bytes =>
          apply (touchesOnlyPresent_onMsgSetComponentReceived_iff found false bytes).trans
          cases component : registry.component type entity <;>
            simp [isAnswered, isIndependent, verdict, ComponentOperation.newValue, component]
      | undo bytes =>
          apply (touchesOnlyPresent_onMsgSetComponentReceived_iff found true bytes).trans
          cases component : registry.component type entity <;>
            simp [isAnswered, isIndependent, verdict, ComponentOperation.newValue, component]
      | del =>
          apply (touchesOnlyPresent_onMsgDelComponentReceived_iff found).trans
          cases component : registry.component type entity <;>
            simp only [isAnswered, isIndependent, verdict, ComponentOperation.newValue,
              component] <;>
            generalize receiver.validator.isAllowed receiver.remoteId registry type entity _
              none = result <;>
            cases result <;> simp

end Contract

section Example

/-- A component type whose values are single bytes. -/
def byteComponent : ComponentData UInt8 where
  isRemovable := true
  toBytes value := [value]
  fromBytes bytes := bytes.headD 0

/-- A receiver that allows every change, as instances do by default. -/
def permissive : Receiver UInt8 where
  componentRegistry type := if type = 1 then some byteComponent else none
  psMessageRegistry _ := none
  validator := { rules := fun _ => none, defaultBehaviour := ChangeResult.allowed,
                 checkVisibility := none }
  remoteId := 7

/-- A registry with one entity that has no components. -/
def bareRegistry : Registry UInt8 where
  pool := (EntityPool.empty.create 0).getD EntityPool.empty
  component _ _ := none

/-- Deleting a component that the entity does not have removes an absent component. -/
theorem absent_component_removed :
    permissive.handle bareRegistry (ComponentOperation.del.message 1 ⟨0, 0⟩) =
        Except.error Fault.absentComponent ∧
      ¬ permissive.TouchesOnlyPresent bareRegistry 1 ⟨0, 0⟩
        (permissive.handle bareRegistry (ComponentOperation.del.message 1 ⟨0, 0⟩)) := by
  have removed : permissive.handle bareRegistry (ComponentOperation.del.message 1 ⟨0, 0⟩) =
      Except.error Fault.absentComponent := rfl
  refine ⟨removed, ?_⟩
  rw [removed]
  exact fun touched => touched rfl

end Example

end Receiver

end VoxelEngine.ClientServer
