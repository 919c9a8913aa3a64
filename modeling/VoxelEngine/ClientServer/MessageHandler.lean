import Mathlib.Logic.Function.Basic
import VoxelEngine.ClientServer.MessageTypeRegistry
import VoxelEngine.Serialize.Integer

/-!
# Message handlers

One end of a connection.  Messages that arrive carry the number that the remote gave their
type; it is translated through the name of the type into the local number, for which
handlers may have been added.  While a handler queues, messages are stored in a byte string
and replayed later: each message is followed by the number of its type, and by the size of
both.  What the added handlers do is left open: they may act on the message handler itself
as well as on the rest of the program.
-/

namespace VoxelEngine.ClientServer

open VoxelEngine.Serialize

/-- Which function was added as a handler. -/
abbrev HandlerId := Nat

/-- A handler together with the data type it takes and the name it was added under. -/
structure AddedHandler where
  id : HandlerId
  type : TypeHash
  name : String
  deriving DecidableEq

/-- `handler_data<T>`: the handlers for a message type, whose messages are decoded as a
`T`. -/
structure HandlerData where
  dataType : TypeHash
  handlers : List AddedHandler
  deriving DecidableEq

/-- The first handler of a type decides as what its messages are decoded. -/
def HandlerData.pushBack (data : Option HandlerData) (added : AddedHandler) : HandlerData :=
  match data with
  | some known => { known with handlers := known.handlers ++ [added] }
  | none => ⟨added.type, [added]⟩

theorem HandlerData.mem_pushBack {data : Option HandlerData} {added other : AddedHandler}
    (mem : other ∈ (HandlerData.pushBack data added).handlers) :
    (∃ known, data = some known ∧ other ∈ known.handlers) ∨ other = added := by
  cases data with
  | none => exact Or.inr (List.mem_singleton.mp mem)
  | some known =>
      rcases List.mem_append.mp mem with old | new
      · exact Or.inl ⟨known, rfl, old⟩
      · exact Or.inr (List.mem_singleton.mp new)

/-- `message_handler` -/
structure MessageHandler where
  localMtr : MessageTypeRegistry
  remoteMtr : MessageTypeRegistry
  handlers : MtrId → Option HandlerData
  useQueue : Bool
  readQueue : Bytes
  writeQueue : Bytes

/-- A message handler, the rest of the program, and which handlers were invoked so far. -/
structure Connection (V W : Type) where
  handler : MessageHandler
  rest : W
  invoked : List (HandlerId × V)

/-- What a message handler is connected to: the serializers of the data types, what the
added handlers do, and the transport.  All of them may fail to return. -/
structure Environment (V W : Type) where
  fromBytes : TypeHash → Reader UInt8 V
  behaviour : HandlerId → V → MessageHandler × W → Option (MessageHandler × W)
  sendMessage : Bytes → MessageHandler × W → Option (MessageHandler × W)

namespace MessageHandler

/-- The bytes of a type number. -/
def idBytes (id : MtrId) : Bytes :=
  toLittleEndian 2 id.toNat

/-- The bytes of a size, a `u64`. -/
def sizeBytes (size : Nat) : Bytes :=
  toLittleEndian 8 size

/-- Put a message into a queue. -/
def enqueue (queue message : Bytes) (id : MtrId) : Bytes :=
  queue ++ (message ++ idBytes id) ++ sizeBytes (message.length + 2)

/-- The handlers that are invoked for a message, if there are any. -/
def handlersFor (handler : MessageHandler) (id : MtrId) : Option HandlerData :=
  (handler.remoteMtr.tryGetTypeById id).bind fun remoteType =>
    (handler.localMtr.tryGetType remoteType.name).bind fun localType =>
      handler.handlers localType.id

/-- A handler is connected before anything but the core messages is registered. -/
def start (typeHash : String → TypeHash) : MessageHandler where
  localMtr := MessageTypeRegistry.registerCoreMessages typeHash MessageTypeRegistry.empty
  remoteMtr := MessageTypeRegistry.registerCoreMessages typeHash MessageTypeRegistry.empty
  handlers _ := none
  useQueue := false
  readQueue := []
  writeQueue := []

@[simp]
theorem start_localMtr (typeHash : String → TypeHash) :
    (start typeHash).localMtr =
      MessageTypeRegistry.registerCoreMessages typeHash MessageTypeRegistry.empty := by
  simp only [start]

@[simp]
theorem start_handlers (typeHash : String → TypeHash) (id : MtrId) :
    (start typeHash).handlers id = none := by
  simp only [start]

/-- `register_message_type_local`: a name that is known stays as it is. -/
def registerMessageTypeLocal (handler : MessageHandler) (name : String)
    (typeHash : TypeHash) : MessageHandler :=
  { handler with
    localMtr := (handler.localMtr.registerType name typeHash false).getD handler.localMtr }

/-- `on_msg_sync_mtr_received`: re-registrations are ignored. -/
def onMsgSyncMtrReceived (handler : MessageHandler) (name : String) (typeHash : TypeHash)
    (id : MtrId) : MessageHandler :=
  { handler with
    remoteMtr := (handler.remoteMtr.register ⟨name, typeHash, id, false⟩).getD
      handler.remoteMtr }

/-- Put a handler behind those that are there. -/
def insertHandler (handler : MessageHandler) (id : MtrId) (added : AddedHandler) :
    MessageHandler :=
  { handler with
    handlers := Function.update handler.handlers id
      (some (HandlerData.pushBack (handler.handlers id) added)) }

@[simp]
theorem insertHandler_self (handler : MessageHandler) (id : MtrId) (added : AddedHandler) :
    (handler.insertHandler id added).handlers id =
      some (HandlerData.pushBack (handler.handlers id) added) :=
  Function.update_self _ _ _

theorem insertHandler_of_ne (handler : MessageHandler) {id other : MtrId} (ne : other ≠ id)
    (added : AddedHandler) :
    (handler.insertHandler id added).handlers other = handler.handlers other :=
  Function.update_of_ne ne _ _

/-- `add_handler` under a name, which registers the name if it is not known. -/
def addHandler (handler : MessageHandler) (name : String) (id : HandlerId) (type : TypeHash) :
    Option MessageHandler :=
  let registered := handler.registerMessageTypeLocal name type
  (registered.localMtr.tryGetType name).map fun known =>
    registered.insertHandler known.id ⟨id, type, name⟩

/-- `add_handler` under a number, which must be registered already. -/
def addHandlerById (handler : MessageHandler) (localId : MtrId) (id : HandlerId)
    (type : TypeHash) : Option MessageHandler :=
  (handler.localMtr.tryGetTypeById localId).map fun known =>
    handler.insertHandler localId ⟨id, type, known.name⟩

/-- The messages of a queue from the back, as `toggle_queue` takes them apart. -/
def popMessages : (limit : Nat) → Bytes → Option (List Bytes)
  | 0, queue => if queue.isEmpty then some [] else none
  | limit + 1, queue =>
      if queue.isEmpty then some []
      else
        (popInteger 8 queue).bind fun size =>
          (takeBackN size.1 size.2).bind fun message =>
            (popMessages limit message.2).map fun messages => message.1 :: messages

/-- All messages of a queue, oldest first. -/
def queuedMessages (queue : Bytes) : Option (List Bytes) :=
  (popMessages queue.length queue).map List.reverse

/-- A larger limit takes the same messages apart. -/
theorem popMessages_of_le {limit larger : Nat} (le : limit ≤ larger) {queue : Bytes}
    {messages : List Bytes} (popped : popMessages limit queue = some messages) :
    popMessages larger queue = some messages := by
  induction limit generalizing larger queue messages with
  | zero =>
      rw [popMessages, Option.ite_none_right_eq_some] at popped
      cases larger with
      | zero => rw [popMessages, if_pos popped.1, popped.2]
      | succ larger => rw [popMessages, if_pos popped.1, popped.2]
  | succ limit ih =>
      cases larger with
      | zero => cases le
      | succ larger =>
          rw [popMessages] at popped ⊢
          split at popped
          · rename_i empty
            rw [if_pos empty, popped]
          · rename_i full
            rw [if_neg full]
            rcases Option.bind_eq_some_iff.mp popped with ⟨size, sizeEq, popped⟩
            rcases Option.bind_eq_some_iff.mp popped with ⟨message, messageEq, popped⟩
            rcases Option.map_eq_some_iff.mp popped with ⟨others, othersEq, rfl⟩
            rw [sizeEq, Option.bind_some, messageEq, Option.bind_some,
              ih (Nat.le_of_succ_le_succ le) othersEq, Option.map_some]

/-- A message that is put into a queue comes last. -/
theorem queuedMessages_enqueue {queue : Bytes} {messages : List Bytes}
    (queued : queuedMessages queue = some messages) {message : Bytes}
    (short : message.length + 2 < 2 ^ 64) (id : MtrId) :
    queuedMessages (enqueue queue message id) = some (messages ++ [message ++ idBytes id]) := by
  rcases Option.map_eq_some_iff.mp queued with ⟨reversed, popped, rfl⟩
  have fits : message.length + 2 < 256 ^ 8 := Nat.lt_of_lt_of_eq short (by decide)
  have frame_length : (message ++ idBytes id).length = message.length + 2 := by
    rw [List.length_append, idBytes, length_toLittleEndian]
  have enqueue_length : (enqueue queue message id).length =
      (queue.length + message.length + 9) + 1 := by
    rw [enqueue, List.length_append, List.length_append, frame_length, sizeBytes,
      length_toLittleEndian]
    omega
  have full : (enqueue queue message id).isEmpty = false := by
    rw [List.isEmpty_eq_false_iff]
    intro empty
    rw [empty] at enqueue_length
    cases enqueue_length
  have taken : takeBackN (message.length + 2) (queue ++ (message ++ idBytes id)) =
      some (message ++ idBytes id, queue) := by
    rw [← frame_length]
    exact takeBackN_append queue (message ++ idBytes id)
  rw [queuedMessages, enqueue_length, popMessages, full, if_neg Bool.false_ne_true, enqueue,
    sizeBytes, popInteger_append fits, Option.bind_some, taken, Option.bind_some,
    popMessages_of_le (by omega) popped]
  simp

end MessageHandler

namespace Connection

variable {V W : Type} (environment : Environment V W)

/-- Let something act on the message handler and the rest of the program. -/
def act (connection : Connection V W)
    (action : MessageHandler × W → Option (MessageHandler × W)) : Option (Connection V W) :=
  (action (connection.handler, connection.rest)).map fun result =>
    { connection with handler := result.1, rest := result.2 }

/-- Invoke handlers with a value, one after the other. -/
def invokeAll (value : V) : List AddedHandler → Connection V W → Option (Connection V W)
  | [], connection => some connection
  | added :: others, connection =>
      (act { connection with invoked := connection.invoked ++ [(added.id, value)] }
        (environment.behaviour added.id value)).bind fun next => invokeAll value others next

/-- `handler_data<T>::handle(std::span<const u8>)` -/
def handleBytes (data : HandlerData) (message : Bytes) (connection : Connection V W) :
    Option (Connection V W) :=
  (environment.fromBytes data.dataType message).bind fun value =>
    invokeAll environment value.1 data.handlers connection

/-- `handler_data<T>::handle(const void*)` -/
def handleValue (data : HandlerData) (value : V) (connection : Connection V W) :
    Option (Connection V W) :=
  invokeAll environment value data.handlers connection

/-- `on_message_received_common`: messages of types that are not known on both sides, and
those without handlers, are ignored. -/
def onMessageReceivedCommon (id : MtrId)
    (handle : HandlerData → Connection V W → Option (Connection V W))
    (connection : Connection V W) : Option (Connection V W) :=
  match connection.handler.handlersFor id with
  | some data => handle data connection
  | none => some connection

/-- `on_message_received(id, const void*, to_bytes)` -/
def onValueReceived (id : MtrId) (value : V) (toBytes : V → Bytes)
    (connection : Connection V W) : Option (Connection V W) :=
  if connection.handler.useQueue then
    some { connection with
      handler := { connection.handler with
        readQueue := MessageHandler.enqueue connection.handler.readQueue (toBytes value) id } }
  else
    onMessageReceivedCommon id (fun data => handleValue environment data value) connection

/-- `on_message_received(id, std::span<const u8>)` -/
def onBytesReceived (id : MtrId) (message : Bytes) (connection : Connection V W) :
    Option (Connection V W) :=
  if connection.handler.useQueue then
    some { connection with
      handler := { connection.handler with
        readQueue := MessageHandler.enqueue connection.handler.readQueue message id } }
  else
    onMessageReceivedCommon id (fun data => handleBytes environment data message) connection

/-- `on_message_received(std::span<const u8>)` -/
def onMessageReceived (data : Bytes) (connection : Connection V W) : Option (Connection V W) :=
  (popInteger 2 data).bind fun id =>
    onBytesReceived environment (UInt16.ofNat id.1) id.2 connection

/-- Do something for each message in turn. -/
def forEach (body : Bytes → Connection V W → Option (Connection V W)) :
    List Bytes → Connection V W → Option (Connection V W)
  | [], connection => some connection
  | message :: messages, connection =>
      (body message connection).bind fun next => forEach body messages next

/-- `toggle_queue`: switching the queue off replays what was received and sends what was
written in the meantime. -/
def toggleQueue (enabled : Bool) (connection : Connection V W) : Option (Connection V W) :=
  let toggled := { connection with handler := { connection.handler with useQueue := enabled } }
  if enabled then some toggled
  else
    (MessageHandler.queuedMessages toggled.handler.readQueue).bind fun readMessages =>
      (MessageHandler.queuedMessages toggled.handler.writeQueue).bind fun writeMessages =>
        (forEach (onMessageReceived environment) readMessages toggled).bind fun received =>
          (forEach (fun message current => act current (environment.sendMessage message))
              writeMessages
              { received with handler := { received.handler with readQueue := [] } }).map
            fun sent => { sent with handler := { sent.handler with writeQueue := [] } }

end Connection

end VoxelEngine.ClientServer
