import VoxelEngine.ClientServer.MessageHandler
import VoxelEngine.Transition.Run

/-!
# The fast path of local connections

A local connection hands a message to the other side without serializing it.  If decoding
restores the values of the types that the handlers were added for, this cannot be told from
delivering the serialized message: not at once, not when the message is queued first, and
not in any sequence of deliveries with anything else in between.
-/

namespace VoxelEngine.ClientServer

open VoxelEngine.Serialize
open VoxelEngine.Transition

variable {V W : Type}

/-- What can happen to a message handler that receives messages. -/
inductive Delivery (V W : Type) where
  /-- A message that is not serialized. -/
  | value (id : MtrId) (value : V) (toBytes : V → Bytes)
  /-- A serialized message. -/
  | bytes (data : Bytes)
  | toggleQueue (enabled : Bool)
  /-- Anything else, such as adding handlers or registering types. -/
  | other (action : MessageHandler × W → Option (MessageHandler × W))

namespace Delivery

/-- Serialize the message first. -/
def serialized : Delivery V W → Delivery V W
  | value id message toBytes => bytes (toBytes message ++ MessageHandler.idBytes id)
  | delivery => delivery

end Delivery

namespace Connection

variable (environment : Environment V W)

/-- One delivery. -/
def step (connection : Connection V W) : Delivery V W → Option (Connection V W)
  | Delivery.value id value toBytes => onValueReceived environment id value toBytes connection
  | Delivery.bytes data => onMessageReceived environment data connection
  | Delivery.toggleQueue enabled => toggleQueue environment enabled connection
  | Delivery.other action => connection.act action

/-- The value has the type of the handlers that are there for its message type, and
decoding restores it. -/
def Restored (connection : Connection V W) : Delivery V W → Prop
  | Delivery.value id value toBytes =>
      ∀ data, connection.handler.handlersFor id = some data →
        ∃ left, environment.fromBytes data.dataType (toBytes value) = some (value, left)
  | _ => True

variable {environment}

@[simp]
theorem popInteger_idBytes (message : Bytes) (id : MtrId) :
    popInteger 2 (message ++ MessageHandler.idBytes id) = some (id.toNat, message) :=
  popInteger_append (Nat.lt_of_lt_of_eq id.toNat_lt (by decide)) message

/-- Serialized messages are taken apart into their number and their data. -/
@[simp]
theorem onMessageReceived_append (message : Bytes) (id : MtrId) (connection : Connection V W) :
    onMessageReceived environment (message ++ MessageHandler.idBytes id) connection =
      onBytesReceived environment id message connection := by
  rw [onMessageReceived, popInteger_idBytes, Option.bind_some, UInt16.ofNat_toNat]

/-- Handling a restored value is handling its serialized form. -/
theorem handleBytes_eq_handleValue {data : HandlerData} {message left : Bytes} {value : V}
    (restored : environment.fromBytes data.dataType message = some (value, left))
    (connection : Connection V W) :
    handleBytes environment data message connection =
      handleValue environment data value connection := by
  rw [handleBytes, restored, Option.bind_some, handleValue]

/-- The two paths agree on a single message. -/
theorem onMessageReceived_eq_onValueReceived {connection : Connection V W} {id : MtrId}
    {value : V} {toBytes : V → Bytes}
    (restored : Restored environment connection (Delivery.value id value toBytes)) :
    onMessageReceived environment (toBytes value ++ MessageHandler.idBytes id) connection =
      onValueReceived environment id value toBytes connection := by
  rw [onMessageReceived_append]
  unfold onBytesReceived onValueReceived
  split
  · rfl
  · unfold onMessageReceivedCommon
    cases found : connection.handler.handlersFor id with
    | none => rfl
    | some data =>
        rcases restored data found with ⟨left, decoded⟩
        exact handleBytes_eq_handleValue decoded connection

theorem step_serialized {connection : Connection V W} {delivery : Delivery V W}
    (restored : Restored environment connection delivery) :
    step environment connection delivery.serialized = step environment connection delivery := by
  cases delivery with
  | value id value toBytes => exact onMessageReceived_eq_onValueReceived restored
  | bytes data => rfl
  | toggleQueue enabled => rfl
  | other action => rfl

/-- Serializing the messages of a sequence of deliveries first changes nothing: the same
handlers are invoked with the same values in the same order. -/
theorem run_serialized {connection : Connection V W} {deliveries : List (Delivery V W)}
    (restored : Guarded (step environment) (Restored environment) connection deliveries) :
    run (step environment) connection (deliveries.map Delivery.serialized) =
      run (step environment) connection deliveries := by
  induction deliveries generalizing connection with
  | nil => rfl
  | cons delivery deliveries ih =>
      rw [guarded_cons_iff] at restored
      rw [List.map_cons, run_cons, run_cons, step_serialized restored.1]
      cases stepped : step environment connection delivery with
      | none => rfl
      | some next => exact ih (restored.2 next stepped)

section Example

/-- Messages are single bytes, and nothing happens when they are handled. -/
def byteEnvironment : Environment UInt8 Unit where
  fromBytes _ := takeBack
  behaviour _ _ := some
  sendMessage _ := some

/-- The remote calls type 3 what is type 0 here, and two handlers were added for it. -/
def chatConnection : Connection UInt8 Unit where
  handler :=
    { localMtr := { types := [⟨"chat", 1, 0, false⟩], nextId := 1, distinct := List.nodup_singleton _ }
      remoteMtr := { types := [⟨"chat", 1, 3, false⟩], nextId := 0, distinct := List.nodup_singleton _ }
      handlers := fun id => if id = 0 then some ⟨1, [⟨7, 1, "chat"⟩, ⟨8, 1, "chat"⟩]⟩ else none
      useQueue := false
      readQueue := []
      writeQueue := [] }
  rest := ()
  invoked := []

/-- A message at once, one that is queued and one of an unknown type. -/
def chatDeliveries : List (Delivery UInt8 Unit) :=
  [Delivery.value 3 65 fun value => [value], Delivery.toggleQueue true,
    Delivery.value 3 66 fun value => [value], Delivery.value 4 67 fun value => [value],
    Delivery.toggleQueue false]

theorem run_serialized_chat :
    run (step byteEnvironment) chatConnection (chatDeliveries.map Delivery.serialized) =
        run (step byteEnvironment) chatConnection chatDeliveries ∧
      (run (step byteEnvironment) chatConnection chatDeliveries).map Connection.invoked =
        some [(7, 65), (8, 65), (7, 66), (8, 66)] := by
  have restored : ∀ delivery ∈ chatDeliveries, ∀ connection,
      Restored byteEnvironment connection delivery := by
    intro delivery mem connection
    simp only [chatDeliveries, List.mem_cons, List.not_mem_nil, or_false] at mem
    rcases mem with rfl | rfl | rfl | rfl | rfl
    · exact fun data _ => ⟨[], rfl⟩
    · trivial
    · exact fun data _ => ⟨[], rfl⟩
    · exact fun data _ => ⟨[], rfl⟩
    · trivial
  constructor
  · apply run_serialized
    exact ((guarded_true _ _ _).and_of_forall_mem restored).mono
      fun connection _ both => both.2 connection
  · decide +kernel

end Example

end Connection

end VoxelEngine.ClientServer
