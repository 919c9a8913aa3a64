import VoxelEngine.ClientServer.FastPath
import VoxelEngine.ClientServer.RemoteMessages
import VoxelEngine.ClientServer.SizeLimit

/-!
# Messages over a socket

A message handler sends messages through a session, whose peer reads them from a stream that is
cut anywhere and hands them to another message handler.  Whatever the two programs do, the second
handler receives the messages of the first one, under their names and in their order, and it is
never given a message whose type it does not know.
-/

namespace VoxelEngine.ClientServer

open VoxelEngine.Serialize
open VoxelEngine.Transition

/-! ## What the peer has read -/

/-- The message of a `message_received_event`. -/
def SessionEvent.message : SessionEvent → Option Bytes
  | messageReceived message => some message
  | _ => none

namespace SocketReader

variable {compression : Compression} {reader : SocketReader}

/-- The messages that a session has raised, each of which is dispatched once. -/
def messages (reader : SocketReader) : List Bytes :=
  reader.events.filterMap SessionEvent.message

theorem events_onAsyncReadComplete (compression : Compression) (buffer : Bytes)
    (reader : SocketReader) :
    reader.events <+: (reader.onAsyncReadComplete compression buffer).events := by
  rw [onAsyncReadComplete]
  split
  · exact List.prefix_append _ _
  · exact List.prefix_rfl

theorem events_onAsyncReadHeader (compression : Compression) (buffer : Bytes)
    (reader : SocketReader) :
    reader.events <+: (reader.onAsyncReadHeader compression buffer).events := by
  rw [onAsyncReadHeader]
  split
  · exact List.prefix_rfl
  · split
    · exact List.prefix_append _ _
    · split
      · exact events_onAsyncReadComplete compression [] reader
      · exact List.prefix_rfl

/-- Events are not taken back. -/
theorem events_onRead (compression : Compression) (chunk : Bytes) (reader : SocketReader) :
    reader.events <+: (reader.onRead compression chunk).events := by
  rcases reader with ⟨⟨buffer⟩ | ⟨size, buffer⟩ | _ | _, events⟩
  · simp only [onRead]
    split
    · exact events_onAsyncReadHeader compression _ ⟨ReadPhase.header buffer, events⟩
    · exact List.prefix_rfl
  · simp only [onRead]
    split
    · exact events_onAsyncReadComplete compression _ ⟨ReadPhase.body size buffer, events⟩
    · exact List.prefix_rfl
  · exact List.prefix_rfl
  · exact List.prefix_rfl

theorem events_feed (compression : Compression) (stream : Bytes) (reader : SocketReader) :
    reader.events <+: (reader.feed compression stream).events := by
  induction stream generalizing reader with
  | nil => exact List.prefix_rfl
  | cons byte rest ih => exact (events_onRead compression [byte] reader).trans (ih _)

/-- What is read from the frames of some messages are the first of them. -/
theorem messages_feed_frames (lossless : compression.Lossless) {messages : List Bytes}
    (addressable : ∀ message ∈ messages, (compression.compress message).length < 2 ^ 64)
    (events : List SessionEvent) :
    ∃ read, read <+: messages ∧
      (feed compression ⟨ReadPhase.header [], events⟩
          ((messages.map compression.compress).flatMap frame)).messages =
        events.filterMap SessionEvent.message ++ read := by
  induction messages generalizing events with
  | nil => exact ⟨[], List.prefix_rfl, (List.append_nil _).symm⟩
  | cons message rest ih =>
      rw [List.forall_mem_cons] at addressable
      rw [List.map_cons, List.flatMap_cons, feed_append]
      by_cases large : messageSizeLimit < (compression.compress message).length
      · refine ⟨[], List.nil_prefix, ?_⟩
        rw [feed_frame_large addressable.1 large, feed_closed, SocketReader.messages,
          List.filterMap_append]
        rfl
      · rw [feed_frame (Nat.le_of_not_lt large) (lossless message)]
        rcases ih addressable.2 (events ++ [SessionEvent.messageReceived message]) with
          ⟨read, read_prefix, messages_eq⟩
        refine ⟨message :: read, List.cons_prefix_cons.mpr ⟨rfl, read_prefix⟩, ?_⟩
        rw [messages_eq, List.filterMap_append, List.append_assoc]
        rfl

end SocketReader

namespace SessionLink

variable {compression : Compression} {messages : List Bytes} {link : SessionLink}

/-- The peer has read the first of the messages that were written. -/
theorem Linked.messages_prefix (linked : Linked compression messages link)
    (lossless : compression.Lossless)
    (addressable : ∀ message ∈ messages, (compression.compress message).length < 2 ^ 64) :
    link.peer.messages <+: messages := by
  rcases (List.take_prefix link.received _).trans linked.handed with ⟨rest, whole⟩
  rcases SocketReader.messages_feed_frames lossless addressable [] with
    ⟨read, read_prefix, messages_eq⟩
  have later := (SocketReader.events_feed compression rest link.peer).filterMap
    SessionEvent.message
  rw [linked.peer_eq, ← SocketReader.feed_append, whole] at later
  have all : link.peer.messages <+: read := by
    rw [List.filterMap_nil, List.nil_append] at messages_eq
    rw [← messages_eq, SocketReader.messages, linked.peer_eq]
    exact later
  exact all.trans read_prefix

/-- Nothing waits to be written or to be read. -/
structure Drained (link : SessionLink) : Prop where
  queue : link.sender.writer.writeQueue = []
  stream : link.inFlight = []

end SessionLink

/-! ## The receiving program -/

/-- What a handler may do to its message handler.  The number zero is that of the handler for
announcements. -/
inductive HandlerCall where
  | registerType (name : String) (typeHash : TypeHash)
  | addHandler (name : String) (id : HandlerId) (type : TypeHash)

def HandlerCall.perform (handler : MessageHandler) : HandlerCall → Option MessageHandler
  | registerType name typeHash => some (handler.registerMessageTypeLocal name typeHash)
  | addHandler name id type => handler.addHandler name (id + 1) type

/-- What the handlers of a program do with the bytes of a message. -/
abbrev HandlerCode (W : Type) :=
  HandlerId → Bytes → W → Option (W × List HandlerCall)

/-- Announcements are handled by `on_msg_sync_mtr_received`. -/
def remoteEnvironment {W : Type} (code : HandlerCode W) : Environment Bytes W where
  fromBytes _ message := some (message, [])
  behaviour
    | 0, message, (handler, rest) =>
        (MtrSyncMessage.fromBytes message).map fun msg =>
          (handler.onMsgSyncMtrReceived msg.name msg.typeHash msg.id, rest)
    | id + 1, message, (handler, rest) =>
        (code id message rest).bind fun done =>
          (done.2.foldlM HandlerCall.perform handler).map fun next => (next, done.1)
  sendMessage _ state := some state

namespace MessageHandler

/-- A message handler that knows some types of its remote.  Only announcements are handled as
such. -/
structure Listens (remote : List MessageType) (handler : MessageHandler) : Prop where
  direct : handler.useQueue = false
  remote_eq : handler.remoteMtr.types = remote
  numbered : handler.localMtr.Numbered
  sync : ∃ mtrSync ∈ handler.localMtr.types, mtrSync.name = mtrSyncName ∧ mtrSync.id = 0
  announcements : ∃ data first others, handler.handlers 0 = some data ∧
    data.handlers = first :: others ∧ first.id = 0 ∧ ∀ other ∈ others, other.id ≠ 0
  others : ∀ id data, id ≠ 0 → handler.handlers id = some data →
    ∀ added ∈ data.handlers, added.id ≠ 0

variable {remote : List MessageType} {handler next : MessageHandler}

theorem Listens.registerMessageTypeLocal (listens : handler.Listens remote) (name : String)
    (typeHash : TypeHash) : (handler.registerMessageTypeLocal name typeHash).Listens remote := by
  rw [MessageHandler.registerMessageTypeLocal]
  cases registered : handler.localMtr.registerType name typeHash false with
  | none => exact listens
  | some registry =>
      have types_eq := (MessageTypeRegistry.registerType_eq_some registered).2.1
      rw [Option.getD_some]
      refine { listens with numbered := listens.numbered.registerType registered, sync := ?_ }
      rcases listens.sync with ⟨mtrSync, mem, named⟩
      refine ⟨mtrSync, ?_, named⟩
      simp only [types_eq]
      exact List.mem_append_left _ mem

theorem Listens.insertHandler (listens : handler.Listens remote) (id : MtrId)
    {added : AddedHandler} (id_ne : added.id ≠ 0) :
    (handler.insertHandler id added).Listens remote := by
  refine { listens with announcements := ?_, others := ?_ }
  · rcases listens.announcements with ⟨data, first, others, dataEq, handlers_eq, first_id, later⟩
    by_cases same : id = 0
    · subst same
      refine ⟨_, first, others ++ [added], insertHandler_self handler 0 added, ?_, first_id, ?_⟩
      · rw [dataEq, HandlerData.pushBack, handlers_eq, List.cons_append]
      · intro other mem
        rcases List.mem_append.mp mem with old | new
        · exact later other old
        · rw [List.mem_singleton.mp new]
          exact id_ne
    · rw [insertHandler_of_ne handler (Ne.symm same)]
      exact ⟨data, first, others, dataEq, handlers_eq, first_id, later⟩
  · intro other data other_ne dataEq
    by_cases same : other = id
    · subst same
      rw [insertHandler_self, Option.some.injEq] at dataEq
      subst dataEq
      intro entry mem
      rcases HandlerData.mem_pushBack mem with ⟨known, knownEq, knownMem⟩ | new
      · exact listens.others other known other_ne knownEq entry knownMem
      · rw [new]
        exact id_ne
    · rw [insertHandler_of_ne handler same] at dataEq
      exact listens.others other data other_ne dataEq

/-- How many types are registered. -/
def localCount (handler : MessageHandler) : Nat :=
  handler.localMtr.types.length

/-- A handler can do no harm. -/
theorem Listens.perform (listens : handler.Listens remote) {call : HandlerCall}
    (callEq : call.perform handler = some next) : next.Listens remote := by
  cases call with
  | registerType name typeHash =>
      cases callEq
      exact listens.registerMessageTypeLocal name typeHash
  | addHandler name id type =>
      rcases Option.map_eq_some_iff.mp callEq with ⟨known, _, rfl⟩
      exact (listens.registerMessageTypeLocal name type).insertHandler known.id
        (Nat.succ_ne_zero id)

theorem localCount_perform {call : HandlerCall} (callEq : call.perform handler = some next) :
    handler.localCount ≤ next.localCount := by
  cases call with
  | registerType name typeHash =>
      cases callEq
      exact length_registerType_le handler.localMtr name typeHash
  | addHandler name id type =>
      rcases Option.map_eq_some_iff.mp callEq with ⟨known, _, rfl⟩
      exact length_registerType_le handler.localMtr name type

/-- Neither can several of them, and no local type is ever removed. -/
theorem performAll_spec {calls : List HandlerCall}
    (callsEq : calls.foldlM HandlerCall.perform handler = some next) :
    handler.localCount ≤ next.localCount ∧
      ∀ types, handler.Listens types → next.Listens types := by
  induction calls generalizing handler with
  | nil =>
      cases callsEq
      exact ⟨Nat.le_refl _, fun _ => id⟩
  | cons call rest ih =>
      rw [List.foldlM_cons] at callsEq
      rcases Option.bind_eq_some_iff.mp callsEq with ⟨middle, callEq, restEq⟩
      rcases ih restEq with ⟨later, kept⟩
      exact ⟨Nat.le_trans (localCount_perform callEq) later,
        fun types listens => kept types (listens.perform callEq)⟩

/-- A type that the remote has announced is known afterwards. -/
theorem Listens.onMsgSyncMtrReceived (listens : handler.Listens remote) {type : MessageType}
    (notCore : type.isCore = false) (fresh : type.name ∉ remote.map MessageType.name) :
    (handler.onMsgSyncMtrReceived type.name type.typeHash type.id).Listens (remote ++ [type]) := by
  have type_eq : (⟨type.name, type.typeHash, type.id, false⟩ : MessageType) = type := by
    rw [← notCore]
  have unknown : handler.remoteMtr.tryGetType type.name = none := by
    rw [MessageTypeRegistry.tryGetType_eq_none_iff, listens.remote_eq]
    exact fresh
  rw [MessageHandler.onMsgSyncMtrReceived, type_eq]
  rcases MessageTypeRegistry.exists_register unknown with ⟨registry, registered⟩
  have types_eq := (MessageTypeRegistry.register_eq_some registered).2.1
  rw [registered, Option.getD_some]
  refine { listens with remote_eq := ?_ }
  rw [types_eq, listens.remote_eq]

end MessageHandler

/-- Types are told apart by their numbers. -/
def DistinctIds (types : List MessageType) : Prop :=
  ∀ first ∈ types, ∀ second ∈ types, first.id = second.id → first = second

theorem tryGetTypeById_of_mem {registry : MessageTypeRegistry}
    (distinct : DistinctIds registry.types) {type : MessageType} (mem : type ∈ registry.types) :
    registry.tryGetTypeById type.id = some type := by
  cases found : registry.tryGetTypeById type.id with
  | none =>
      rw [MessageTypeRegistry.tryGetTypeById, List.find?_eq_none] at found
      exact absurd (decide_eq_true rfl) (found type mem)
  | some other =>
      rcases MessageTypeRegistry.tryGetTypeById_id found with ⟨otherMem, id_eq⟩
      rw [distinct other otherMem type mem id_eq]

namespace Connection

variable {W : Type} {code : HandlerCode W} {remote : List MessageType}
  {connection next : Connection Bytes W}

theorem invokeAll_spec {handlers : List AddedHandler} {message : Bytes}
    (invokeEq : invokeAll (remoteEnvironment code) message handlers connection = some next) :
    connection.handler.localCount ≤ next.handler.localCount ∧
      ((∀ added ∈ handlers, added.id ≠ 0) →
        ∀ types, connection.handler.Listens types → next.handler.Listens types) := by
  induction handlers generalizing connection with
  | nil =>
      cases invokeEq
      exact ⟨Nat.le_refl _, fun _ _ => id⟩
  | cons added rest ih =>
      rcases Option.bind_eq_some_iff.mp invokeEq with ⟨middle, actEq, restEq⟩
      rcases Option.map_eq_some_iff.mp actEq with ⟨result, resultEq, rfl⟩
      rcases ih restEq with ⟨later, kept⟩
      rw [List.forall_mem_cons]
      rcases added with ⟨id, type, name⟩
      cases id with
      | zero =>
          rcases Option.map_eq_some_iff.mp resultEq with ⟨msg, _, rfl⟩
          exact ⟨later, fun plain => absurd rfl plain.1⟩
      | succ id =>
          rcases Option.bind_eq_some_iff.mp resultEq with ⟨done, _, callsEq⟩
          rcases Option.map_eq_some_iff.mp callsEq with ⟨handler, performEq, rfl⟩
          rcases MessageHandler.performAll_spec performEq with ⟨grown, listens⟩
          exact ⟨Nat.le_trans grown later,
            fun plain types before => kept plain.2 types (listens types before)⟩

theorem localCount_onMessageReceived {message : Bytes}
    (receiveEq : onMessageReceived (remoteEnvironment code) message connection = some next) :
    connection.handler.localCount ≤ next.handler.localCount := by
  rcases Option.bind_eq_some_iff.mp receiveEq with ⟨id, _, receiveEq⟩
  rw [onBytesReceived] at receiveEq
  split at receiveEq
  · cases receiveEq
    exact Nat.le_refl _
  · rw [onMessageReceivedCommon] at receiveEq
    split at receiveEq
    · rename_i data _
      exact (invokeAll_spec receiveEq).1
    · cases receiveEq
      exact Nat.le_refl _

/-- Receiving a message of a known type. -/
theorem listens_onMessageReceived (listens : connection.handler.Listens remote)
    (distinct : DistinctIds remote) (few : connection.handler.localCount ≤ 65536)
    {type : MessageType} (mem : type ∈ remote) (name_ne : type.name ≠ mtrSyncName) {data : Bytes}
    (receiveEq : onMessageReceived (remoteEnvironment code) (packMessage data type.id) connection =
      some next) : next.handler.Listens remote := by
  rw [packMessage, onMessageReceived_append, onBytesReceived, listens.direct,
    if_neg Bool.false_ne_true, onMessageReceivedCommon] at receiveEq
  cases foundEq : connection.handler.handlersFor type.id with
  | none =>
      rw [foundEq] at receiveEq
      cases receiveEq
      exact listens
  | some found =>
      rw [foundEq] at receiveEq
      rw [← listens.remote_eq] at distinct mem
      rw [MessageHandler.handlersFor, tryGetTypeById_of_mem distinct mem, Option.bind_some]
        at foundEq
      rcases Option.bind_eq_some_iff.mp foundEq with ⟨localType, localEq, handlersEq⟩
      rcases MessageTypeRegistry.tryGetType_name localEq with ⟨localMem, localName⟩
      have id_ne : localType.id ≠ 0 := by
        intro zero
        rcases listens.sync with ⟨mtrSync, syncMem, syncName, syncId⟩
        have same := listens.numbered.eq_of_id_eq few syncMem localMem (syncId.trans zero.symm)
        rw [← same, syncName] at localName
        exact name_ne localName.symm
      exact (invokeAll_spec receiveEq).2 (listens.others _ _ id_ne handlersEq) _ listens

/-- Receiving an announcement. -/
theorem listens_of_announced (listens : connection.handler.Listens remote)
    (distinct : DistinctIds remote)
    (sync : ∃ mtrSync ∈ remote, mtrSync.name = mtrSyncName ∧ mtrSync.id = 0) {type : MessageType}
    (notCore : type.isCore = false) (fresh : type.name ∉ remote.map MessageType.name)
    (short : ShortName type.name)
    (receiveEq : onMessageReceived (remoteEnvironment code) (WrittenMessage.announce type).bytes
      connection = some next) : next.handler.Listens (remote ++ [type]) := by
  rcases sync with ⟨mtrSync, syncMem, syncName, syncId⟩
  rcases listens.sync with ⟨localSync, localMem, localName, localId⟩
  rcases listens.announcements with ⟨data, first, others, dataEq, handlers_eq, first_id, plain⟩
  have foundEq : connection.handler.handlersFor 0 = some data := by
    rw [← listens.remote_eq] at distinct syncMem
    have remoteFound := tryGetTypeById_of_mem distinct syncMem
    have localFound := MessageSender.tryGetType_of_mem localMem
    rw [syncId] at remoteFound
    rw [localName] at localFound
    rw [MessageHandler.handlersFor, remoteFound, Option.bind_some, syncName, localFound,
      Option.bind_some, localId, dataEq]
  rw [WrittenMessage.bytes, packMessage, onMessageReceived_append, onBytesReceived, listens.direct,
    if_neg Bool.false_ne_true, onMessageReceivedCommon, foundEq] at receiveEq
  change invokeAll (remoteEnvironment code) _ data.handlers connection = some next at receiveEq
  rw [handlers_eq, invokeAll] at receiveEq
  rcases Option.bind_eq_some_iff.mp receiveEq with ⟨middle, actEq, restEq⟩
  rcases Option.map_eq_some_iff.mp actEq with ⟨result, resultEq, rfl⟩
  have restored : MtrSyncMessage.fromBytes
      (MtrSyncMessage.toBytes ⟨type.name, type.typeHash, type.id⟩) =
        some ⟨type.name, type.typeHash, type.id⟩ :=
    MtrSyncMessage.fromBytes_toBytes short
  rw [first_id] at resultEq
  rcases Option.map_eq_some_iff.mp resultEq with ⟨msg, msgEq, rfl⟩
  rw [restored] at msgEq
  rw [← Option.some.inj msgEq] at restEq
  exact (invokeAll_spec restEq).2 plain _ (listens.onMsgSyncMtrReceived notCore fresh)

end Connection

/-! ## Both sides -/

/-- A message handler that sends, the sessions in between, and a message handler that receives.
What was sent and received is recorded. -/
structure RemoteConnection (W : Type) where
  sender : MessageSender
  link : SessionLink
  dispatched : Nat
  receiver : Connection Bytes W
  sent : List (String × Bytes)
  written : List Bytes
  received : List (Option String × Bytes)

/-- What happens on the two sides and in between. -/
inductive RemoteAction (W : Type) where
  | registerType (name : String) (typeHash : TypeHash)
  | sendMessage (name : String) (typeHash : TypeHash) (data : Bytes)
  | sendMessageById (id : MtrId) (data : Bytes)
  | transport (action : LinkAction)
  | dispatch
  | receiverCalls (rest : W) (calls : List HandlerCall)

/-- Announcements are dispatched by the message handler alone. -/
def RemoteAction.Regular {W : Type} : RemoteAction W → Prop
  | sendMessage name _ _ => name ≠ mtrSyncName
  | sendMessageById id _ => id ≠ 0
  | _ => True

instance {W : Type} (action : RemoteAction W) : Decidable action.Regular :=
  match action with
  | .registerType _ _ => isTrue trivial
  | .sendMessage name _ _ => inferInstanceAs (Decidable (name ≠ mtrSyncName))
  | .sendMessageById id _ => inferInstanceAs (Decidable (id ≠ 0))
  | .transport _ => isTrue trivial
  | .dispatch => isTrue trivial
  | .receiverCalls _ _ => isTrue trivial

/-- The name of the type of a message, as far as it is known, and the data. -/
def MessageHandler.receivedAs (handler : MessageHandler) (message : Bytes) :
    Option (Option String × Bytes) :=
  (popInteger 2 message).map fun id =>
    ((handler.remoteMtr.tryGetTypeById (UInt16.ofNat id.1)).map MessageType.name, id.2)

namespace RemoteConnection

variable {W : Type}

/-- A connection that was just made. -/
def start (typeHash : String → TypeHash) (rest : W) : RemoteConnection W where
  sender := MessageSender.start typeHash
  link := SessionLink.start
  dispatched := 0
  receiver :=
    ⟨(MessageHandler.start typeHash).insertHandler 0 ⟨0, typeHash mtrSyncName, mtrSyncName⟩, rest,
      []⟩
  sent := []
  written := []
  received := []

/-- Write messages to the session. -/
def write (compression : Compression) (connection : RemoteConnection W) (messages : List Bytes) :
    RemoteConnection W :=
  { connection with
    link := messages.foldl
      (fun link message => { link with sender := link.sender.write compression message })
      connection.link
    written := connection.written ++ messages }

/-- The next message is given to the receiver. -/
def dispatch (code : HandlerCode W) (connection : RemoteConnection W) :
    Option (RemoteConnection W) :=
  connection.link.peer.messages[connection.dispatched]?.bind fun message =>
    (connection.receiver.handler.receivedAs message).bind fun reception =>
      (connection.receiver.onMessageReceived (remoteEnvironment code) message).map fun receiver =>
        { connection with
          dispatched := connection.dispatched + 1
          receiver := receiver
          received := connection.received ++ [reception] }

/-- One step. -/
def step (compression : Compression) (code : HandlerCode W) (connection : RemoteConnection W) :
    RemoteAction W → Option (RemoteConnection W)
  | .registerType name typeHash =>
      some { connection with sender := connection.sender.registerMessageTypeLocal name typeHash }
  | .sendMessage name typeHash data =>
      (connection.sender.sendMessage name typeHash data).map fun result =>
        { connection.write compression result.2 with
          sender := result.1
          sent := connection.sent ++ [(name, data)] }
  | .sendMessageById id data =>
      (connection.sender.localMtr.tryGetTypeById id).bind fun type =>
        (connection.sender.sendMessageById id data).map fun result =>
          { connection.write compression result.2 with
            sender := result.1
            sent := connection.sent ++ [(type.name, data)] }
  | .transport action =>
      match action.message with
      | some _ => none
      | none =>
          (connection.link.step compression action).map fun link => { connection with link := link }
  | .dispatch => connection.dispatch code
  | .receiverCalls rest calls =>
      (calls.foldlM HandlerCall.perform connection.receiver.handler).map fun handler =>
        { connection with
          receiver := { connection.receiver with handler := handler, rest := rest } }

/-! ## What holds in every state -/

variable {compression : Compression} {code : HandlerCode W} {core : List MessageType}
  {outbox : List WrittenMessage} {connection next final : RemoteConnection W}

/-- Types and messages only become more. -/
structure Grows (connection next : RemoteConnection W) : Prop where
  senderTypes : connection.sender.localMtr.types <+: next.sender.localMtr.types
  receiverTypes : connection.receiver.handler.localCount ≤ next.receiver.handler.localCount
  written : connection.written <+: next.written

theorem Grows.refl (connection : RemoteConnection W) : connection.Grows connection :=
  ⟨List.prefix_rfl, Nat.le_refl _, List.prefix_rfl⟩

theorem Grows.trans {middle : RemoteConnection W} (first : connection.Grows middle)
    (second : middle.Grows next) : connection.Grows next :=
  ⟨first.senderTypes.trans second.senderTypes, Nat.le_trans first.receiverTypes
    second.receiverTypes, first.written.trans second.written⟩

/-- Numbers have not wrapped around, and sizes can be told. -/
structure WithinLimits (compression : Compression) (connection : RemoteConnection W) : Prop where
  senderTypes : connection.sender.localMtr.types.length ≤ 65536
  receiverTypes : connection.receiver.handler.localCount ≤ 65536
  names : ∀ type ∈ connection.sender.localMtr.types, ShortName type.name
  addressable : ∀ message ∈ connection.written, (compression.compress message).length < 2 ^ 64

theorem WithinLimits.of_grows (limits : next.WithinLimits compression)
    (grows : connection.Grows next) : connection.WithinLimits compression where
  senderTypes := Nat.le_trans grows.senderTypes.length_le limits.senderTypes
  receiverTypes := Nat.le_trans grows.receiverTypes limits.receiverTypes
  names type mem := limits.names type (grows.senderTypes.subset mem)
  addressable message mem := limits.addressable message (grows.written.subset mem)

theorem types_registerMessageTypeLocal (sender : MessageSender) (name : String)
    (typeHash : TypeHash) :
    sender.localMtr.types <+: (sender.registerMessageTypeLocal name typeHash).localMtr.types := by
  rw [MessageSender.registerMessageTypeLocal]
  cases registered : sender.localMtr.registerType name typeHash false with
  | none => exact List.prefix_rfl
  | some registry =>
      rw [Option.getD_some, (MessageTypeRegistry.registerType_eq_some registered).2.1]
      exact List.prefix_append _ _

theorem localMtr_sendMessageById {sender : MessageSender} {id : MtrId} {data : Bytes}
    {result : MessageSender × List Bytes} (sendEq : sender.sendMessageById id data = some result) :
    result.1.localMtr = sender.localMtr := by
  rcases Option.map_eq_some_iff.mp sendEq with ⟨announced, announcedEq, rfl⟩
  rcases Option.bind_eq_some_iff.mp announcedEq with ⟨type, _, announcedEq⟩
  split at announcedEq
  · cases announcedEq
    rfl
  · split at announcedEq
    · cases announcedEq
      rfl
    · rcases Option.map_eq_some_iff.mp announcedEq with ⟨mtrSync, _, rfl⟩
      rfl

theorem grows_step {action : RemoteAction W}
    (stepEq : connection.step compression code action = some next) : connection.Grows next := by
  cases action with
  | registerType name typeHash =>
      cases stepEq
      exact ⟨types_registerMessageTypeLocal _ name typeHash, Nat.le_refl _, List.prefix_rfl⟩
  | sendMessage name typeHash data =>
      rcases Option.map_eq_some_iff.mp stepEq with ⟨result, resultEq, rfl⟩
      rcases Option.bind_eq_some_iff.mp resultEq with ⟨type, _, sendEq⟩
      refine ⟨?_, Nat.le_refl _, List.prefix_append _ _⟩
      simp only [localMtr_sendMessageById sendEq]
      exact types_registerMessageTypeLocal _ name typeHash
  | sendMessageById id data =>
      rcases Option.bind_eq_some_iff.mp stepEq with ⟨type, _, stepEq⟩
      rcases Option.map_eq_some_iff.mp stepEq with ⟨result, sendEq, rfl⟩
      refine ⟨?_, Nat.le_refl _, List.prefix_append _ _⟩
      simp only [localMtr_sendMessageById sendEq]
      exact List.prefix_rfl
  | transport action =>
      rw [step] at stepEq
      split at stepEq
      · cases stepEq
      · rcases Option.map_eq_some_iff.mp stepEq with ⟨link, _, rfl⟩
        exact ⟨List.prefix_rfl, Nat.le_refl _, List.prefix_rfl⟩
  | dispatch =>
      rcases Option.bind_eq_some_iff.mp stepEq with ⟨message, _, stepEq⟩
      rcases Option.bind_eq_some_iff.mp stepEq with ⟨reception, _, stepEq⟩
      rcases Option.map_eq_some_iff.mp stepEq with ⟨receiver, receiverEq, rfl⟩
      exact ⟨List.prefix_rfl, Connection.localCount_onMessageReceived receiverEq, List.prefix_rfl⟩
  | receiverCalls rest calls =>
      rcases Option.map_eq_some_iff.mp stepEq with ⟨handler, callsEq, rfl⟩
      exact ⟨List.prefix_rfl, (MessageHandler.performAll_spec callsEq).1, List.prefix_rfl⟩

/-- What was received, announcements apart. -/
def receivedMessages (connection : RemoteConnection W) : List (Option String × Bytes) :=
  connection.received.filter fun reception => reception.1 ≠ some mtrSyncName

/-- The sessions carry what was written, and the receiver has read the front of it. -/
structure Coherent (compression : Compression) (core : List MessageType)
    (outbox : List WrittenMessage) (connection : RemoteConnection W) : Prop where
  announces : connection.sender.Announces core outbox
  linked : SessionLink.Linked compression (outbox.map WrittenMessage.bytes) connection.link
  written_eq : connection.written = outbox.map WrittenMessage.bytes
  sent_eq : connection.sent = outbox.filterMap WrittenMessage.carried
  dispatched_le : connection.dispatched ≤ outbox.length
  listens : connection.receiver.handler.Listens
    (core ++ (outbox.take connection.dispatched).filterMap WrittenMessage.announced)
  received_eq : connection.receivedMessages =
    ((outbox.take connection.dispatched).filterMap WrittenMessage.carried).map
      fun message => (some message.1, message.2)

/-- Writing messages to the session. -/
theorem linked_writes {link : SessionLink} {messages : List Bytes}
    (linked : SessionLink.Linked compression messages link) (more : List Bytes) :
    SessionLink.Linked compression (messages ++ more)
      (more.foldl
        (fun link message => { link with sender := link.sender.write compression message })
        link) := by
  induction more generalizing link messages with
  | nil =>
      rw [List.append_nil]
      exact linked
  | cons message rest ih =>
      have stepEq : link.step compression (LinkAction.write message) =
          some { link with sender := link.sender.write compression message } := rfl
      have written := linked.step stepEq
      rw [List.append_cons]
      exact ih written

/-- Sending more leaves what the receiver has read as it is. -/
theorem Coherent.send (coherent : connection.Coherent compression core outbox)
    {sender : MessageSender} {items : List WrittenMessage} {name : String} {data : Bytes}
    (announces : sender.Announces core (outbox ++ items))
    (carried : items.filterMap WrittenMessage.carried = [(name, data)]) :
    Coherent compression core (outbox ++ items)
      { connection.write compression (items.map WrittenMessage.bytes) with
        sender := sender
        sent := connection.sent ++ [(name, data)] } where
  announces := announces
  linked := by
    rw [List.map_append]
    exact linked_writes coherent.linked _
  written_eq := by
    simp only [write, coherent.written_eq, List.map_append]
  sent_eq := by
    rw [List.filterMap_append, carried, ← coherent.sent_eq]
  dispatched_le := by
    rw [List.length_append]
    exact Nat.le_trans coherent.dispatched_le (Nat.le_add_right _ _)
  listens := by
    simp only [write, List.take_append_of_le_length coherent.dispatched_le]
    exact coherent.listens
  received_eq := by
    simp only [write, List.take_append_of_le_length coherent.dispatched_le]
    exact coherent.received_eq

/-- What the receiver knows is told apart by its numbers. -/
theorem Coherent.distinctIds (coherent : connection.Coherent compression core outbox)
    (few : connection.sender.localMtr.types.length ≤ 65536) (count : Nat) :
    DistinctIds (core ++ (outbox.take count).filterMap WrittenMessage.announced) := by
  have known : ∀ type ∈ core ++ (outbox.take count).filterMap WrittenMessage.announced,
      type ∈ connection.sender.localMtr.types := by
    intro type mem
    apply coherent.announces.mem_types
    rcases List.mem_append.mp mem with inCore | later
    · exact List.mem_append_left _ inCore
    · exact List.mem_append_right _
        (((List.take_sublist count outbox).filterMap _).subset later)
  intro first firstMem second secondMem id_eq
  exact coherent.announces.numbered.eq_of_id_eq few (known first firstMem)
    (known second secondMem) id_eq

/-- The next message is read as what it is. -/
theorem Coherent.dispatch (coherent : connection.Coherent compression core outbox)
    (lossless : compression.Lossless) (limits : connection.WithinLimits compression)
    (dispatchEq : connection.dispatch code = some next) :
    next.Coherent compression core outbox := by
  rcases Option.bind_eq_some_iff.mp dispatchEq with ⟨message, messageEq, dispatchEq⟩
  rcases Option.bind_eq_some_iff.mp dispatchEq with ⟨reception, receptionEq, dispatchEq⟩
  rcases Option.map_eq_some_iff.mp dispatchEq with ⟨receiver, receiverEq, rfl⟩
  have addressable := limits.addressable
  rw [coherent.written_eq] at addressable
  rcases coherent.linked.messages_prefix lossless addressable with ⟨unread, split⟩
  have itemEq : (outbox.map WrittenMessage.bytes)[connection.dispatched]? = some message := by
    rw [← split, List.getElem?_append_left (List.getElem?_eq_some_iff.mp messageEq).1, messageEq]
  rw [List.getElem?_map] at itemEq
  rcases Option.map_eq_some_iff.mp itemEq with ⟨item, itemAt, rfl⟩
  rcases List.getElem?_eq_some_iff.mp itemAt with ⟨inside, item_eq⟩
  have take_succ : outbox.take (connection.dispatched + 1) =
      outbox.take connection.dispatched ++ [item] := by
    rw [List.take_add_one, itemAt]
    rfl
  have readable := coherent.announces.readable
  rw [← List.take_append_drop connection.dispatched outbox, WrittenMessage.readable_append,
    List.drop_eq_getElem_cons inside, item_eq] at readable
  have distinct := coherent.distinctIds limits.senderTypes connection.dispatched
  have core_known : ∀ type ∈ core, type ∈
      core ++ (outbox.take connection.dispatched).filterMap WrittenMessage.announced :=
    fun type mem => List.mem_append_left _ mem
  -- how the type is found by its number
  have named : ∀ type ∈
      core ++ (outbox.take connection.dispatched).filterMap WrittenMessage.announced,
      ∀ data, connection.receiver.handler.receivedAs (packMessage data type.id) =
        some (some type.name, data) := by
    intro type mem data
    rw [← coherent.listens.remote_eq] at distinct mem
    rw [MessageHandler.receivedAs, packMessage, Connection.popInteger_idBytes, Option.map_some,
      UInt16.ofNat_toNat, tryGetTypeById_of_mem distinct mem]
    rfl
  have nextLe : connection.dispatched + 1 ≤ outbox.length := inside
  cases item with
  | announce type =>
      rcases readable.2 with ⟨notCore, fresh, _⟩
      rcases coherent.announces.sync with ⟨mtrSync, syncMem, syncName, syncId⟩
      have typeMem : type ∈ connection.sender.localMtr.types :=
        coherent.announces.known type
          (WrittenMessage.mem_filterMap_announced.mpr (List.mem_of_getElem? itemAt))
      have listens := Connection.listens_of_announced coherent.listens distinct
        ⟨mtrSync, core_known mtrSync syncMem, syncName, syncId⟩ notCore fresh
        (limits.names type typeMem) receiverEq
      have reception_eq := named mtrSync (core_known mtrSync syncMem)
        (MtrSyncMessage.toBytes ⟨type.name, type.typeHash, type.id⟩)
      rw [syncId, syncName] at reception_eq
      have same := receptionEq.symm.trans reception_eq
      refine { coherent with dispatched_le := nextLe, listens := ?_, received_eq := ?_ }
      · simp only [take_succ, List.filterMap_append]
        rw [← List.append_assoc]
        exact listens
      · simp only [receivedMessages, take_succ, List.filterMap_append, List.filter_append,
          Option.some.inj same]
        rw [← receivedMessages, coherent.received_eq]
        simp [WrittenMessage.carried]
  | carry type data =>
      rcases readable.2 with ⟨mem, name_ne, _⟩
      have listens := Connection.listens_onMessageReceived coherent.listens distinct
        limits.receiverTypes mem name_ne receiverEq
      have same := receptionEq.symm.trans (named type mem data)
      refine { coherent with dispatched_le := nextLe, listens := ?_, received_eq := ?_ }
      · simp only [take_succ, List.filterMap_append]
        simpa only [WrittenMessage.announced, List.filterMap_cons, List.filterMap_nil,
          List.append_nil] using listens
      · simp only [receivedMessages, take_succ, List.filterMap_append, List.filter_append,
          Option.some.inj same]
        rw [← receivedMessages, coherent.received_eq]
        simp [WrittenMessage.carried, name_ne]

/-- Every step keeps the two sides together. -/
theorem Coherent.step (coherent : connection.Coherent compression core outbox)
    (lossless : compression.Lossless) (limits : next.WithinLimits compression)
    {action : RemoteAction W} (regular : action.Regular)
    (stepEq : connection.step compression code action = some next) :
    ∃ items, next.Coherent compression core (outbox ++ items) := by
  have before := limits.of_grows (grows_step stepEq)
  cases action with
  | registerType name typeHash =>
      cases stepEq
      refine ⟨[], ?_⟩
      rw [List.append_nil]
      exact { coherent with
        announces := coherent.announces.registerMessageTypeLocal name typeHash }
  | sendMessage name typeHash data =>
      rcases Option.map_eq_some_iff.mp stepEq with ⟨result, sendEq, rfl⟩
      have few : (connection.sender.registerMessageTypeLocal name typeHash).localMtr.types.length ≤
          65536 := by
        rcases Option.bind_eq_some_iff.mp sendEq with ⟨type, _, byIdEq⟩
        rw [← localMtr_sendMessageById byIdEq]
        exact limits.senderTypes
      rcases coherent.announces.sendMessage few regular sendEq with
        ⟨items, messages_eq, carried, _, announces⟩
      rw [messages_eq]
      exact ⟨items, coherent.send announces carried⟩
  | sendMessageById id data =>
      rcases Option.bind_eq_some_iff.mp stepEq with ⟨type, typeEq, stepEq⟩
      rcases Option.map_eq_some_iff.mp stepEq with ⟨result, sendEq, rfl⟩
      rcases coherent.announces.sendMessageById before.senderTypes regular sendEq with
        ⟨found, items, foundEq, messages_eq, carried, _, announces⟩
      rw [typeEq] at foundEq
      cases foundEq
      rw [messages_eq]
      exact ⟨items, coherent.send announces carried⟩
  | transport action =>
      rw [RemoteConnection.step] at stepEq
      split at stepEq
      · cases stepEq
      · rename_i quiet
        rcases Option.map_eq_some_iff.mp stepEq with ⟨link, linkEq, rfl⟩
        have linked := coherent.linked.step linkEq
        rw [quiet, Option.toList_none, List.append_nil] at linked
        refine ⟨[], ?_⟩
        rw [List.append_nil]
        exact { coherent with linked := linked }
  | dispatch =>
      refine ⟨[], ?_⟩
      rw [List.append_nil]
      exact coherent.dispatch lossless before stepEq
  | receiverCalls rest calls =>
      rcases Option.map_eq_some_iff.mp stepEq with ⟨handler, callsEq, rfl⟩
      refine ⟨[], ?_⟩
      rw [List.append_nil]
      exact
        { coherent with listens := (MessageHandler.performAll_spec callsEq).2 _ coherent.listens }

/-- Nothing is on the way. -/
structure Settled (connection : RemoteConnection W) : Prop where
  drained : connection.link.Drained
  dispatched : connection.dispatched = connection.link.peer.messages.length

end RemoteConnection

end VoxelEngine.ClientServer
