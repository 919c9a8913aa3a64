import VoxelEngine.ClientServer.MalformedInput
import VoxelEngine.ClientServer.RemoteWrites
import VoxelEngine.ClientServer.SocketFraming
import VoxelEngine.Transition.Run

/-!
# Exceptions on remote input

What a remote sends is decompressed in the completion handler of a read and looked up in
registries by the handlers of messages.  Only the lookup of the type of a message is guarded;
everything else that cannot be decompressed or is not found leaves the completion handler or
`on_message_received` as an exception.  Where the input does not get that far it is rejected
and the registry stays as it was.
-/

namespace VoxelEngine.ClientServer

open VoxelEngine.Ecs
open VoxelEngine.Serialize
open VoxelEngine.Transition

variable {V : Type}

/-! ## Handling core messages -/

/-- The receiving side of a connection.  The handlers of a message type decode its messages;
there is no message for a type without handlers, and none for types whose handlers do not use
the registry.  Only clients have handlers for entities. -/
structure InputHandler (V : Type) where
  localMtr : MessageTypeRegistry
  remoteMtr : MessageTypeRegistry
  decode : MessageType → Bytes → Option CoreMessage
  receiver : Receiver V
  createEntityWithId : Option (Registry V → Entity → Registry V)

/-- `registry::destroy_entity`, for an entity that is alive. -/
def destroyEntity (registry : Registry V) (entity : Entity) :
    Except Fault (Registry V × List CoreMessage) :=
  match registry.pool.destroy entity with
  | none => Except.error Fault.invalidEntity
  | some pool =>
      Except.ok
        (⟨pool, fun type => Function.update (registry.component type) entity none⟩, [])

/-- `on_msg_add_del_entity_received<false>` -/
def destroyEntities : List Entity → Registry V → Handling V
  | [], registry => Handling.start registry
  | entity :: rest, registry =>
      (Handling.ofResult registry (destroyEntity registry entity)).andThen (destroyEntities rest)

namespace InputHandler

section Handle

variable (handler : InputHandler V)

/-- What the handlers do with a message that is not compound. -/
def handle (registry : Registry V) (message : CoreMessage) : Handling V :=
  match handler.createEntityWithId, message with
  | some create, CoreMessage.addEntity changed =>
      ⟨changed.foldl create registry, [], none⟩
  | some _, CoreMessage.delEntity changed => destroyEntities changed registry
  | _, _ => Handling.ofResult registry (handler.receiver.handle registry message)

/-- The messages of a compound message, one after the other. -/
def handleLeaves : List CoreMessage → Registry V → Handling V
  | [], registry => Handling.start registry
  | leaf :: rest, registry => (handler.handle registry leaf).andThen (handleLeaves rest)

/-- The core message that `on_message_received` hands to its handlers.  A type that is not
registered is caught, a type that is not known locally has no handlers. -/
def classify (data : Bytes) : Option CoreMessage := do
  let (id, message) ← popId data
  let remoteType ← handler.remoteMtr.tryGetTypeById id
  let type ← handler.localMtr.tryGetType remoteType.name
  handler.decode type message

/-- `message_handler::on_message_received` -/
def onMessageReceived (data : Bytes) (registry : Registry V) : Handling V :=
  match handler.classify data with
  | some message => handler.handleLeaves message.leaves registry
  | none => Handling.start registry

/-- The messages that are handled, each with the registry it finds and what is left. -/
def trace : List CoreMessage → Registry V → List (Registry V × CoreMessage × Handling V)
  | [], _ => []
  | leaf :: rest, registry =>
      (registry, leaf, handler.handle registry leaf) ::
        match (handler.handle registry leaf).fault with
        | none => trace rest (handler.handle registry leaf).registry
        | some _ => []

end Handle

end InputHandler

/-! ## Messages that are serviced -/

namespace Receiver

section Serviceable

variable (receiver : Receiver V) (registry : Registry V) (type : TypeHash) (entity : Entity)

/-- A checked operation finds everything it looks for: the component type is registered, the
entity exists if a component is set, and the component exists if its removal is observable or
its old value is sent back. -/
def OperationServiceable (operation : ComponentOperation) : Prop :=
  ∃ data, receiver.componentRegistry type = some data ∧
    match operation with
    | ComponentOperation.del =>
        receiver.verdict registry type entity data operation ≠ ChangeResult.unobservable →
          (registry.component type entity).isSome
    | _ =>
        (receiver.verdict registry type entity data operation = ChangeResult.allowed →
          entity ∈ registry.pool.entities) ∧
        (receiver.verdict registry type entity data operation = ChangeResult.forbidden →
          (registry.component type entity).isSome)

/-- The message type is registered and its component exists. -/
def PartialSyncServiceable (messageType : TypeHash) : Prop :=
  ∃ message, receiver.psMessageRegistry messageType = some message ∧
    (registry.component message.componentType entity).isSome

end Serviceable

end Receiver

section Results

variable {receiver : Receiver V} {registry : Registry V} {type : TypeHash} {entity : Entity}

@[simp]
theorem fault_ofResult_ok (result : Registry V × List CoreMessage) :
    (Handling.ofResult registry (Except.ok result)).fault = none :=
  rfl

@[simp]
theorem fault_ofResult_error (fault : Fault) :
    (Handling.ofResult registry (Except.error fault)).fault = some fault :=
  rfl

@[simp]
theorem fault_ofResult_map (result : Except Fault (Registry V))
    (next : Registry V → Registry V × List CoreMessage) :
    (Handling.ofResult registry (result.map next)).fault = none ↔
      ∃ stored, result = Except.ok stored := by
  cases result <;> simp [Except.map]

@[simp]
theorem setComponent_succeeds_iff (value : V) :
    (∃ stored, registry.setComponent type entity value = Except.ok stored) ↔
      entity ∈ registry.pool.entities := by
  by_cases live : entity ∈ registry.pool.entities <;> simp [Registry.setComponent, live]

@[simp]
theorem fault_refuse_iff {data : ComponentData V} :
    (Handling.ofResult registry (Receiver.refuse registry data type entity)).fault = none ↔
      (registry.component type entity).isSome := by
  cases component : registry.component type entity <;> simp [Receiver.refuse, component]

theorem fault_set_iff (found : receiver.componentRegistry type = some data)
    (rebroadcast : Bool) (bytes : Bytes) :
    (Handling.ofResult registry
        (receiver.onMsgSetComponentReceived rebroadcast registry bytes type entity)).fault = none ↔
      (receiver.verdict registry type entity data (ComponentOperation.set bytes) =
          ChangeResult.allowed → entity ∈ registry.pool.entities) ∧
      (receiver.verdict registry type entity data (ComponentOperation.set bytes) =
          ChangeResult.forbidden → (registry.component type entity).isSome) := by
  rw [Receiver.onMsgSetComponentReceived_eq found]
  simp only [Receiver.verdict, ComponentOperation.newValue]
  cases receiver.validator.isAllowed receiver.remoteId registry type entity
      (registry.component type entity) (some (data.fromBytes bytes)) with
  | allowed => simp [fault_ofResult_map, setComponent_succeeds_iff]
  | forbidden =>
      cases component : registry.component type entity <;>
        simp [Receiver.refuse, component, Except.map]
  | unobservable => simp

/-- Setting a component of an entity that does not exist leaves the registry alone, unless the
change is allowed. -/
theorem registry_eq_of_set {data : ComponentData V}
    (found : receiver.componentRegistry type = some data) {bytes : Bytes}
    (live : receiver.verdict registry type entity data (ComponentOperation.set bytes) =
      ChangeResult.allowed → entity ∈ registry.pool.entities)
    (malformed : receiver.componentRegistry type = none ∨ entity ∉ registry.pool.entities)
    (rebroadcast : Bool) :
    (Handling.ofResult registry (receiver.onMsgSetComponentReceived rebroadcast registry bytes
      type entity)).registry = registry := by
  have dead : entity ∉ registry.pool.entities := by
    rcases malformed with unknown | dead
    · rw [found] at unknown
      cases unknown
    · exact dead
  rw [Receiver.onMsgSetComponentReceived_eq found]
  simp only [Receiver.verdict, ComponentOperation.newValue] at live
  cases verdict : receiver.validator.isAllowed receiver.remoteId registry type entity
      (registry.component type entity) (some (data.fromBytes bytes)) with
  | allowed => exact absurd (live verdict) dead
  | forbidden =>
      cases component : registry.component type entity <;>
        simp [Receiver.refuse, component, Except.map, Handling.ofResult]
  | unobservable => rfl

theorem fault_del_iff (found : receiver.componentRegistry type = some data) :
    (Handling.ofResult registry
        (receiver.onMsgDelComponentReceived registry type entity)).fault = none ↔
      (receiver.verdict registry type entity data ComponentOperation.del ≠
        ChangeResult.unobservable → (registry.component type entity).isSome) := by
  rw [Receiver.onMsgDelComponentReceived_eq found]
  simp only [Receiver.verdict, ComponentOperation.newValue]
  cases receiver.validator.isAllowed receiver.remoteId registry type entity
      (registry.component type entity) none with
  | allowed =>
      cases component : registry.component type entity <;> cases data.isRemovable <;>
        simp [Registry.removeComponent, Receiver.refuse, component, Except.map]
  | forbidden => simp
  | unobservable => simp

/-- A checked operation returns exactly when it finds everything it looks for. -/
@[simp]
theorem fault_operation_iff (receiver : Receiver V) (operation : ComponentOperation) :
    (Handling.ofResult registry
        (receiver.handle registry (operation.message type entity))).fault = none ↔
      receiver.OperationServiceable registry type entity operation := by
  cases found : receiver.componentRegistry type with
  | none =>
      rw [Receiver.handle_of_unknown found]
      simp [Receiver.OperationServiceable, found]
  | some data =>
      cases operation with
      | set bytes =>
          apply (fault_set_iff found false bytes).trans
          simp [Receiver.OperationServiceable, found]
      | undo bytes =>
          apply (fault_set_iff found true bytes).trans
          simp [Receiver.OperationServiceable, found, Receiver.verdict,
            ComponentOperation.newValue]
      | del =>
          apply (fault_del_iff found).trans
          simp [Receiver.OperationServiceable, found]

@[simp]
theorem fault_partialSync_iff (bytes : Bytes) :
    (Handling.ofResult registry
        (receiver.onMsgPartialSyncReceived registry bytes type entity)).fault = none ↔
      receiver.PartialSyncServiceable registry entity type := by
  cases found : receiver.psMessageRegistry type with
  | none => simp [Receiver.onMsgPartialSyncReceived, Receiver.PartialSyncServiceable, found]
  | some message =>
      cases component : registry.component message.componentType entity <;>
        simp [Receiver.onMsgPartialSyncReceived, Receiver.PartialSyncServiceable, found,
          component]

theorem fault_destroyEntities_iff {changed : List Entity} :
    (destroyEntities changed registry).fault = none ↔
      changed.Nodup ∧ ∀ entity ∈ changed, entity ∈ registry.pool.entities := by
  induction changed generalizing registry with
  | nil => simp [destroyEntities, Handling.start]
  | cons entity rest ih =>
      cases destroyed : registry.pool.destroy entity with
      | none =>
          have dead : entity ∉ registry.pool.entities := by
            intro live
            simp [EntityPool.destroy, live] at destroyed
          simp [destroyEntities, destroyEntity, destroyed, Handling.ofResult, Handling.andThen,
            dead]
      | some pool =>
          have live := (EntityPool.destroy_eq_some destroyed).1
          have mem_iff : ∀ other, other ∈ pool.entities ↔
              other ≠ entity ∧ other ∈ registry.pool.entities :=
            fun _ => EntityPool.mem_destroy_iff destroyed
          simp only [destroyEntities, destroyEntity, destroyed, Handling.ofResult,
            Handling.andThen, ih, mem_iff, List.nodup_cons, List.forall_mem_cons, live, true_and]
          constructor
          · rintro ⟨distinct, others⟩
            exact ⟨⟨fun mem => (others entity mem).1 rfl, distinct⟩,
              fun other mem => (others other mem).2⟩
          · rintro ⟨⟨fresh, distinct⟩, others⟩
            refine ⟨distinct, fun other mem => ⟨?_, others other mem⟩⟩
            rintro rfl
            exact fresh mem

end Results

namespace InputHandler

/-- Everything that the handlers look for is there. -/
def Serviceable (handler : InputHandler V) (registry : Registry V) : CoreMessage → Prop
  | CoreMessage.setComponent bytes type entity =>
      handler.receiver.OperationServiceable registry type entity (ComponentOperation.set bytes)
  | CoreMessage.undoComponent bytes type entity =>
      handler.receiver.OperationServiceable registry type entity (ComponentOperation.undo bytes)
  | CoreMessage.delComponent type entity =>
      handler.receiver.OperationServiceable registry type entity ComponentOperation.del
  | CoreMessage.partialSync _ type entity =>
      handler.receiver.PartialSyncServiceable registry entity type
  | CoreMessage.delEntity changed =>
      handler.createEntityWithId.isSome →
        changed.Nodup ∧ ∀ entity ∈ changed, entity ∈ registry.pool.entities
  | _ => True

/-- The message names a component type, a partial synchronization message type, an entity or
a component that does not exist. -/
def Malformed (handler : InputHandler V) (registry : Registry V) : CoreMessage → Prop
  | CoreMessage.setComponent _ type entity
  | CoreMessage.undoComponent _ type entity =>
      handler.receiver.componentRegistry type = none ∨ entity ∉ registry.pool.entities
  | CoreMessage.delComponent type entity =>
      handler.receiver.componentRegistry type = none ∨ registry.component type entity = none
  | CoreMessage.partialSync _ type entity =>
      ∀ message, handler.receiver.psMessageRegistry type = some message →
        registry.component message.componentType entity = none
  | CoreMessage.delEntity changed =>
      ∃ entity ∈ changed, entity ∉ registry.pool.entities
  | _ => False

/-- All messages of a compound message find what they look for when they are handled. -/
def Serviced (handler : InputHandler V) : List CoreMessage → Registry V → Prop
  | [], _ => True
  | leaf :: rest, registry =>
      handler.Serviceable registry leaf ∧
        Serviced handler rest (handler.handle registry leaf).registry

section Handle

variable {handler : InputHandler V} {registry : Registry V}

/-- A handler returns exactly when it finds everything it looks for. -/
@[simp]
theorem fault_handle_iff (message : CoreMessage) :
    (handler.handle registry message).fault = none ↔ handler.Serviceable registry message := by
  cases message with
  | setComponent bytes type entity =>
      simpa [handle, Serviceable, ComponentOperation.message] using
        fault_operation_iff handler.receiver (ComponentOperation.set bytes)
  | undoComponent bytes type entity =>
      simpa [handle, Serviceable, ComponentOperation.message] using
        fault_operation_iff handler.receiver (ComponentOperation.undo bytes)
  | delComponent type entity =>
      simpa [handle, Serviceable, ComponentOperation.message] using
        fault_operation_iff handler.receiver ComponentOperation.del
  | partialSync bytes type entity =>
      simp [handle, Serviceable, Receiver.handle]
  | delEntity changed =>
      cases client : handler.createEntityWithId <;>
        simp [handle, Serviceable, client, Receiver.handle, fault_destroyEntities_iff]
  | addEntity changed =>
      cases client : handler.createEntityWithId <;>
        simp [handle, Serviceable, client, Receiver.handle]
  | compound messages => simp [handle, Serviceable, Receiver.handle]

theorem handling_andThen_fault {handling : Handling V} {next : Registry V → Handling V} :
    (handling.andThen next).fault = none ↔
      handling.fault = none ∧ (next handling.registry).fault = none := by
  rcases handling with ⟨left, replies, _ | fault⟩ <;> simp [Handling.andThen]

/-- A message is handled to its end exactly when each of its leaves is serviced. -/
@[simp]
theorem fault_handleLeaves_iff {leaves : List CoreMessage} :
    (handler.handleLeaves leaves registry).fault = none ↔ handler.Serviced leaves registry := by
  induction leaves generalizing registry with
  | nil => simp [handleLeaves, Serviced, Handling.start]
  | cons leaf rest ih =>
      rw [handleLeaves, handling_andThen_fault, fault_handle_iff, ih, Serviced]

/-- A malformed message that is handled all the same changes nothing. -/
theorem registry_eq_of_malformed {message : CoreMessage}
    (serviceable : handler.Serviceable registry message)
    (malformed : handler.Malformed registry message) :
    (handler.handle registry message).registry = registry := by
  cases message with
  | setComponent bytes type entity =>
      rcases serviceable with ⟨data, found, live, _⟩
      simpa [handle, Receiver.handle] using registry_eq_of_set found live malformed false
  | undoComponent bytes type entity =>
      rcases serviceable with ⟨data, found, live, _⟩
      simpa [handle, Receiver.handle] using registry_eq_of_set found live malformed true
  | delComponent type entity =>
      rcases serviceable with ⟨data, found, present⟩
      rcases malformed with unknown | absent
      · rw [found] at unknown
        cases unknown
      · rw [absent] at present
        have unobservable : handler.receiver.verdict registry type entity data
            ComponentOperation.del = ChangeResult.unobservable := by
          by_contra observable
          cases present observable
        simp only [Receiver.verdict, ComponentOperation.newValue] at unobservable
        simp [handle, Receiver.handle, Receiver.onMsgDelComponentReceived_eq found, unobservable,
          Handling.ofResult]
  | partialSync bytes type entity =>
      rcases serviceable with ⟨message, found, present⟩
      rw [malformed message found] at present
      cases present
  | delEntity changed =>
      rcases malformed with ⟨entity, mem, dead⟩
      cases client : handler.createEntityWithId with
      | none => simp [handle, client, Receiver.handle, Handling.ofResult]
      | some create => exact absurd ((serviceable (by rw [client]; rfl)).2 entity mem) dead
  | addEntity changed => cases malformed
  | compound messages => cases malformed

/-- Where all leaves are serviced, the malformed ones among them change nothing. -/
theorem trace_of_serviced {leaves : List CoreMessage}
    (serviced : handler.Serviced leaves registry) :
    ∀ step ∈ handler.trace leaves registry,
      handler.Malformed step.1 step.2.1 → step.2.2.registry = step.1 := by
  induction leaves generalizing registry with
  | nil => simp [trace]
  | cons leaf rest ih =>
      rcases serviced with ⟨serviceable, later⟩
      rw [trace, (fault_handle_iff leaf).mpr serviceable, List.forall_mem_cons]
      exact ⟨registry_eq_of_malformed serviceable, ih later⟩

end Handle

end InputHandler

/-! ## Runs -/

/-- Where an exception came from. -/
inductive Escape where
  /-- `decompress` threw in `on_async_read_complete`. -/
  | decompression
  /-- A handler did not return to `on_message_received`. -/
  | handler (fault : Fault)
  deriving DecidableEq

/-- A session, the events of it that were dispatched, and the instance it belongs to. -/
structure InputState (V : Type) where
  reader : SocketReader
  dispatched : Nat
  handler : InputHandler V
  registry : Registry V
  replies : List CoreMessage
  escaped : Option Escape

/-- What happens on a session and in its instance. -/
inductive InputAction (V : Type) where
  | completion (completion : ReadCompletion)
  /-- The main thread dispatches the next event of the session. -/
  | dispatch
  /-- Something else the program does between two messages. -/
  | elsewhere (handler : InputHandler V) (registry : Registry V)

namespace SocketReader

/-- The body that is complete with these bytes, if it is. -/
def completed (reader : SocketReader) (chunk : Bytes) : Option Bytes :=
  match reader.phase with
  | ReadPhase.header buffer =>
      if headerComplete (buffer ++ chunk) then
        (decodeVariableLength (buffer ++ chunk).reverse).bind fun size =>
          if size.1.toNat = 0 then some [] else none
      else none
  | ReadPhase.body size buffer =>
      if (buffer ++ chunk).length = size then some (buffer ++ chunk) else none
  | _ => none

/-- A complete header can be decoded. -/
theorem decode_of_headerComplete {buffer : Bytes} (complete : headerComplete buffer = true) :
    ∃ size, decodeVariableLength buffer.reverse = some size := by
  rcases plain_or_split buffer with plain | ⟨more, first, left, rfl, plain, ends⟩
  · unfold headerComplete at complete
    split at complete
    · rename_i last lastEq
      have short := plain last (List.mem_of_getLast? lastEq)
      exact absurd (of_decide_eq_true complete) (Nat.not_le.mpr short)
    · cases complete
  · have reversed : (more.reverse ++ first :: left).reverse = left.reverse ++ first :: more := by
      simp
    rw [reversed]
    exact ⟨_, decodeVariableLength_append plain ends _⟩

/-- A read ends in an exception exactly when it completes a body that cannot be
decompressed. -/
theorem onRead_thrown_iff {compression : Compression} {reader : SocketReader} {chunk : Bytes}
    (active : reader.phase ≠ ReadPhase.thrown) :
    (reader.onRead compression chunk).phase = ReadPhase.thrown ↔
      ∃ body, reader.completed chunk = some body ∧ compression.decompress body = none := by
  have completes : ∀ body, (reader.onAsyncReadComplete compression body).phase =
      ReadPhase.thrown ↔ compression.decompress body = none := by
    intro body
    cases restored : compression.decompress body <;> simp [onAsyncReadComplete, restored]
  rcases reader with ⟨phase, events⟩
  cases phase with
  | header buffer =>
      cases complete : headerComplete (buffer ++ chunk) with
      | false => simp [onRead, completed, complete]
      | true =>
          rcases decode_of_headerComplete complete with ⟨size, decoded⟩
          simp only [onRead, completed, complete, if_true, onAsyncReadHeader, decoded,
            Option.bind_some]
          by_cases large : messageSizeLimit < size.1.toNat
          · have some_size : size.1.toNat ≠ 0 := Nat.ne_of_gt (Nat.zero_lt_of_lt large)
            simp [large, some_size, stopWithError]
          · by_cases empty : size.1.toNat = 0 <;> simp [large, empty, completes]
  | body size buffer =>
      by_cases full : (buffer ++ chunk).length = size
      · simp only [onRead, completed, if_pos full, completes, Option.some.injEq, exists_eq_left']
      · simp only [onRead, completed, if_neg full]
        simp
  | closed => simp [onRead, completed]
  | thrown => exact absurd rfl active

end SocketReader

namespace InputState

section Step

variable (compression : Compression) (state : InputState V)

/-- The core message that is handled when the next event is dispatched, if there is one. -/
def nextMessage : Option CoreMessage :=
  match state.reader.events[state.dispatched]? with
  | some (SessionEvent.messageReceived data) => state.handler.classify data
  | _ => none

/-- An exception ends the process; until then reads complete and events are dispatched in
any order. -/
def step : InputAction V → Option (InputState V)
  | InputAction.completion completion =>
      if state.escaped.isSome then none
      else
        (state.reader.step compression completion).map fun reader =>
          { state with
            reader
            escaped := if reader.phase = ReadPhase.thrown then some Escape.decompression else none }
  | InputAction.dispatch =>
      if state.escaped.isSome then none
      else
        match state.reader.events[state.dispatched]? with
        | none => none
        | some event =>
            let handling :=
              match event with
              | SessionEvent.messageReceived data =>
                  state.handler.onMessageReceived data state.registry
              | _ => Handling.start state.registry
            some { state with
              dispatched := state.dispatched + 1
              registry := handling.registry
              replies := state.replies ++ handling.replies
              escaped := handling.fault.map Escape.handler }
  | InputAction.elsewhere handler registry =>
      if state.escaped.isSome then none else some { state with handler, registry }

/-- The body that a read completes can be decompressed; a message that is dispatched finds
what its handlers look for. -/
def Acceptable : InputAction V → Prop
  | InputAction.completion (ReadCompletion.read chunk) =>
      ∀ body, state.reader.completed chunk = some body → (compression.decompress body).isSome
  | InputAction.completion ReadCompletion.fail => True
  | InputAction.dispatch =>
      ∀ message, state.nextMessage = some message →
        state.handler.Serviced message.leaves state.registry
  | InputAction.elsewhere _ _ => True

/-- Reading leaves the registry as it is, and so do messages without handlers and messages
that name what does not exist. -/
def Harmless : InputAction V → Prop
  | InputAction.completion completion =>
      ∀ next, state.step compression (InputAction.completion completion) = some next →
        next.registry = state.registry
  | InputAction.dispatch =>
      match state.nextMessage with
      | none =>
          ∀ next, state.step compression InputAction.dispatch = some next →
            next.registry = state.registry
      | some message =>
          ∀ step ∈ state.handler.trace message.leaves state.registry,
            state.handler.Malformed step.1 step.2.1 → step.2.2.registry = step.1
  | InputAction.elsewhere _ _ => True

/-- The session is read from the start and nothing was dispatched. -/
def start (handler : InputHandler V) (registry : Registry V) : InputState V :=
  ⟨SocketReader.start, 0, handler, registry, [], none⟩

end Step

variable {compression : Compression} {state next : InputState V} {action : InputAction V}

/-- A reader that threw is only found after its exception has escaped. -/
def Consistent (state : InputState V) : Prop :=
  state.reader.phase = ReadPhase.thrown → state.escaped.isSome

theorem consistent_start {handler : InputHandler V} {registry : Registry V} :
    (start handler registry).Consistent := by
  intro thrown
  cases thrown

theorem step_active (stepEq : state.step compression action = some next) :
    state.escaped = none := by
  cases escaped : state.escaped with
  | none => rfl
  | some escape => cases action <;> simp [step, escaped] at stepEq

theorem fault_onMessageReceived_iff {handler : InputHandler V} {registry : Registry V}
    {data : Bytes} :
    (handler.onMessageReceived data registry).fault = none ↔
      ∀ message, handler.classify data = some message →
        handler.Serviced message.leaves registry := by
  cases classified : handler.classify data with
  | none => simp [InputHandler.onMessageReceived, classified, Handling.start]
  | some message =>
      simp [InputHandler.onMessageReceived, classified, InputHandler.fault_handleLeaves_iff]

/-- A step ends without an exception exactly when it is acceptable. -/
theorem step_escaped_iff (consistent : state.Consistent)
    (stepEq : state.step compression action = some next) :
    next.Consistent ∧ (next.escaped = none ↔ state.Acceptable compression action) := by
  have active := step_active stepEq
  have running : state.reader.phase ≠ ReadPhase.thrown := by
    intro thrown
    have escaped := consistent thrown
    rw [active] at escaped
    cases escaped
  cases action with
  | completion completion =>
      simp only [step, active, Option.isSome_none, Bool.false_eq_true, if_false,
        Option.map_eq_some_iff] at stepEq
      rcases stepEq with ⟨reader, readerEq, rfl⟩
      constructor
      · intro thrown
        simp only at thrown
        simp [thrown]
      · have escaped_iff : (if reader.phase = ReadPhase.thrown then some Escape.decompression
            else none) = none ↔ reader.phase ≠ ReadPhase.thrown := by
          by_cases thrown : reader.phase = ReadPhase.thrown <;> simp [thrown]
        apply escaped_iff.trans
        cases completion with
        | read chunk =>
            simp only [SocketReader.step] at readerEq
            split at readerEq
            · cases readerEq
              rw [ne_eq, SocketReader.onRead_thrown_iff running]
              simp only [Acceptable, Option.isSome_iff_ne_none, not_exists, not_and, ne_eq]
            · cases readerEq
        | fail =>
            simp only [SocketReader.step] at readerEq
            split at readerEq
            · cases readerEq
            · cases readerEq
              simp [Acceptable, SocketReader.stopWithError]
  | dispatch =>
      simp only [step, active, Option.isSome_none, Bool.false_eq_true, if_false] at stepEq
      cases eventEq : state.reader.events[state.dispatched]? with
      | none =>
          rw [eventEq] at stepEq
          cases stepEq
      | some event =>
          rw [eventEq] at stepEq
          cases stepEq
          refine ⟨fun thrown => absurd thrown running, ?_⟩
          simp only [Acceptable, nextMessage, eventEq, Option.map_eq_none_iff]
          cases event with
          | messageReceived data => exact fault_onMessageReceived_iff
          | sessionStart => simp [Handling.start]
          | sessionEnd => simp [Handling.start]
          | sessionError => simp [Handling.start]
  | elsewhere handler registry =>
      simp only [step, active, Option.isSome_none, Bool.false_eq_true, if_false] at stepEq
      cases stepEq
      exact ⟨fun thrown => absurd thrown running, by simp [Acceptable]⟩

/-- An acceptable step is harmless. -/
theorem harmless_of_acceptable (acceptable : state.Acceptable compression action) :
    state.Harmless compression action := by
  cases action with
  | completion completion =>
      intro next stepEq
      have active := step_active stepEq
      simp only [step, active, Option.isSome_none, Bool.false_eq_true, if_false,
        Option.map_eq_some_iff] at stepEq
      rcases stepEq with ⟨reader, _, rfl⟩
      rfl
  | dispatch =>
      cases messageEq : state.nextMessage with
      | none =>
          simp only [Harmless, messageEq]
          intro next stepEq
          have active := step_active stepEq
          simp only [step, active, Option.isSome_none, Bool.false_eq_true, if_false] at stepEq
          split at stepEq
          · cases stepEq
          · rename_i event eventEq
            cases stepEq
            simp only [nextMessage, eventEq] at messageEq
            cases event with
            | messageReceived data =>
                simp only at messageEq
                simp [InputHandler.onMessageReceived, messageEq, Handling.start]
            | sessionStart => rfl
            | sessionEnd => rfl
            | sessionError => rfl
      | some message =>
          simp only [Harmless, messageEq]
          exact InputHandler.trace_of_serviced (acceptable message messageEq)
  | elsewhere handler registry => trivial

/-- From a consistent state, no exception escapes exactly when every step is acceptable. -/
theorem escaped_run_iff {actions : List (InputAction V)} {final : InputState V}
    (consistent : state.Consistent) (active : state.escaped = none)
    (runEq : run (step compression) state actions = some final) :
    final.escaped = none ↔ Guarded (step compression) (Acceptable compression) state actions := by
  induction actions generalizing state with
  | nil =>
      cases runEq
      simp [active]
  | cons action rest ih =>
      rcases (run_cons_eq_some_iff _ _ _ _ _).mp runEq with ⟨next, stepEq, restRun⟩
      rcases step_escaped_iff consistent stepEq with ⟨nextConsistent, escaped_iff⟩
      rw [guarded_cons_iff, ← escaped_iff]
      cases escaped : next.escaped with
      | none =>
          apply (ih nextConsistent escaped restRun).trans
          simp [stepEq]
      | some escape =>
          cases rest with
          | nil =>
              cases restRun
              simp [escaped]
          | cons later others =>
              rcases (run_cons_eq_some_iff _ _ _ _ _).mp restRun with ⟨_, laterEq, _⟩
              rw [step_active laterEq] at escaped
              cases escaped

end InputState

/-- Remote input leaves no completion handler and no message handler with an exception, and
changes nothing where it is rejected, exactly when every body that is read can be decompressed
and every message that is handled finds what its handlers look for. -/
theorem remoteInput_rejected_iff {compression : Compression} {handler : InputHandler V}
    {registry : Registry V} {actions : List (InputAction V)} {final : InputState V}
    (runEq : run (InputState.step compression) (InputState.start handler registry) actions =
      some final) :
    (final.escaped = none ∧
        Guarded (InputState.step compression) (InputState.Harmless compression)
          (InputState.start handler registry) actions) ↔
      Guarded (InputState.step compression) (InputState.Acceptable compression)
        (InputState.start handler registry) actions := by
  rw [InputState.escaped_run_iff InputState.consistent_start rfl runEq]
  constructor
  · exact And.left
  · intro acceptable
    exact ⟨acceptable, acceptable.mono fun _ _ => InputState.harmless_of_acceptable⟩

section Example

/-- `del_component_message`, of which the component type is taken from the back first. -/
def decodeDelComponent (message : Bytes) : Option CoreMessage := do
  let (componentType, rest) ← popInteger 8 message
  let (entity, _) ← popInteger 4 rest
  pure (CoreMessage.delComponent (UInt64.ofNat componentType)
    ⟨entity % 2 ^ 20, entity / 2 ^ 20⟩)

/-- A server with handlers for delete messages. -/
def deletingServer : InputHandler UInt8 where
  localMtr := MessageTypeRegistry.registerCoreMessages (fun _ => 0) MessageTypeRegistry.empty
  remoteMtr := MessageTypeRegistry.registerCoreMessages (fun _ => 0) MessageTypeRegistry.empty
  decode type message :=
    if type.name = "ve.ecs.del_component" then decodeDelComponent message else none
  receiver := Receiver.permissive
  createEntityWithId := none

/-- A message that deletes a component of the first entity, from its frame to its handlers. -/
def deletion (componentType : UInt8) : List (InputAction UInt8) :=
  [InputAction.completion (ReadCompletion.read [143]),
    InputAction.completion
      (ReadCompletion.read [120, 0, 0, 0, 0, componentType, 0, 0, 0, 0, 0, 0, 0, 6, 0]),
    InputAction.dispatch]

/-- A frame of two zero bytes, which are not compressed data, and a message that deletes a
component of a type that is not registered both end in an exception. -/
theorem remoteInput_escapes :
    (∃ final, run (InputState.step tagging)
        (InputState.start deletingServer Receiver.bareRegistry)
        [InputAction.completion (ReadCompletion.read [130]),
          InputAction.completion (ReadCompletion.read [0, 0])] = some final ∧
      final.escaped = some Escape.decompression) ∧
      ∃ final, run (InputState.step tagging)
        (InputState.start deletingServer Receiver.bareRegistry) (deletion 2) = some final ∧
      final.escaped = some (Escape.handler Fault.unknownType) := by
  constructor
  · apply Option.map_eq_some_iff.mp
    decide +kernel
  · apply Option.map_eq_some_iff.mp
    decide +kernel

/-- Nothing leaves the handlers when the component type is registered and there is a component
to delete. -/
theorem remoteInput_rejected_deletion :
    ∃ final, run (InputState.step tagging)
        (InputState.start deletingServer (Receiver.bareRegistry.place 1 ⟨0, 0⟩ (some 5)))
        (deletion 1) = some final ∧
      Guarded (InputState.step tagging) (InputState.Acceptable tagging)
        (InputState.start deletingServer (Receiver.bareRegistry.place 1 ⟨0, 0⟩ (some 5)))
        (deletion 1) := by
  have finished : (run (InputState.step tagging)
      (InputState.start deletingServer (Receiver.bareRegistry.place 1 ⟨0, 0⟩ (some 5)))
      (deletion 1)).map InputState.escaped = some none := by
    decide +kernel
  rcases Option.map_eq_some_iff.mp finished with ⟨final, runEq, quiet⟩
  have acceptable :=
    (InputState.escaped_run_iff InputState.consistent_start rfl runEq).mp quiet
  have harmless := acceptable.mono fun _ _ => InputState.harmless_of_acceptable
  exact ⟨final, runEq, (remoteInput_rejected_iff runEq).mp ⟨quiet, harmless⟩⟩

end Example

end VoxelEngine.ClientServer
