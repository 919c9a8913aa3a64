import Mathlib.Logic.Function.Basic
import VoxelEngine.ClientServer.MessageHandler

/-!
# Local connections

Two message handlers in the same process.  Sending a message invokes the handlers of the
other side at once, unless one of the sides is queueing; those handlers may send messages
and switch queues in turn.  Switching a queue off replays what was received, and then sends
what was written, one message after the other; only after that are the queues emptied.
Before the first message of a type, the type is announced to the other side.
-/

namespace VoxelEngine.ClientServer

/-- The two ends of a connection. -/
inductive Side where
  | client
  | server
  deriving DecidableEq

/-- `local_message_handler::other` -/
def Side.other : Side → Side
  | client => server
  | server => client

@[simp]
theorem Side.other_other (side : Side) : side.other.other = side := by
  cases side <;> rfl

theorem Side.other_ne (side : Side) : side.other ≠ side := by
  cases side <;> decide

theorem Side.eq_or_eq_other (side reference : Side) :
    side = reference ∨ side = reference.other := by
  cases side <;> cases reference <;> decide

/-- A message that one side sends to the other. -/
inductive LocalMessage (M : Type) where
  /-- `MSG_SYNC_MTR` for the type with the given number. -/
  | syncMtr (type : MtrId)
  | message (type : MtrId) (body : M)
  deriving DecidableEq

/-- The part of a message handler that is concerned with sending, and the messages sent so
far. -/
structure Outgoing (M : Type) where
  publishedTypes : List MtrId
  writeQueue : List (LocalMessage M)
  sent : List (LocalMessage M)

/-- The part of a message handler that is concerned with receiving, the messages that were
handled so far, and those that were ignored. -/
structure Incoming (M : Type) where
  remoteTypes : List MtrId
  readQueue : List (LocalMessage M)
  delivered : List (LocalMessage M)
  ignored : List (LocalMessage M)

/-- `local_message_handler` -/
structure LocalHandler (M : Type) where
  useQueue : Bool
  outgoing : Outgoing M
  incoming : Incoming M

/-- A call of `toggle_queue(false)`: the messages it still has to replay, unless it is done
with them, and those it still has to send. -/
structure Toggle (M : Type) where
  side : Side
  unread : Option (List (LocalMessage M))
  unwritten : List (LocalMessage M)

/-- What the program is in the middle of. -/
inductive Task (M : Type) where
  /-- The handlers of a message are invoked. -/
  | handlers
  | toggle (toggle : Toggle M)

/-- Two connected message handlers, and the calls that have not returned yet, innermost
first. -/
structure LocalConnection (M : Type) where
  handler : Side → LocalHandler M
  tasks : List (Task M)

/-- What the program, or a handler while it is invoked, can do. -/
inductive LocalAction (M : Type) where
  | send (side : Side) (type : MtrId) (body : M)
  | toggleQueue (side : Side) (enabled : Bool)
  /-- The innermost call goes on, or returns. -/
  | proceed

namespace LocalConnection

variable {M : Type} (isCore : MtrId → Bool)

/-- No messages were sent yet. -/
def start : LocalConnection M where
  handler _ := ⟨false, ⟨[], [], []⟩, ⟨[], [], [], []⟩⟩
  tasks := []

/-- Change the receiving part of a message handler. -/
def modifyIncoming (side : Side) (change : Incoming M → Incoming M)
    (connection : LocalConnection M) : LocalConnection M :=
  { connection with
    handler := Function.update connection.handler side
      { connection.handler side with incoming := change (connection.handler side).incoming } }

/-- Change the sending part of a message handler. -/
def modifyOutgoing (side : Side) (change : Outgoing M → Outgoing M)
    (connection : LocalConnection M) : LocalConnection M :=
  { connection with
    handler := Function.update connection.handler side
      { connection.handler side with outgoing := change (connection.handler side).outgoing } }

/-- `use_queue = enabled` -/
def setQueue (side : Side) (enabled : Bool) (connection : LocalConnection M) :
    LocalConnection M :=
  { connection with
    handler := Function.update connection.handler side
      { connection.handler side with useQueue := enabled } }

/-- Go on with other calls. -/
def withTasks (tasks : List (Task M)) (connection : LocalConnection M) : LocalConnection M :=
  { connection with tasks := tasks }

section Fields

variable (side other : Side) (connection : LocalConnection M)

@[simp]
theorem withTasks_handler (tasks : List (Task M)) :
    (connection.withTasks tasks).handler = connection.handler :=
  rfl

@[simp]
theorem withTasks_tasks (tasks : List (Task M)) : (connection.withTasks tasks).tasks = tasks :=
  rfl

@[simp]
theorem modifyIncoming_outgoing (change : Incoming M → Incoming M) :
    ((connection.modifyIncoming side change).handler other).outgoing =
      (connection.handler other).outgoing := by
  by_cases same : other = side
  · subst same
    simp [modifyIncoming]
  · simp [modifyIncoming, same]

@[simp]
theorem modifyIncoming_useQueue (change : Incoming M → Incoming M) :
    ((connection.modifyIncoming side change).handler other).useQueue =
      (connection.handler other).useQueue := by
  by_cases same : other = side
  · subst same
    simp [modifyIncoming]
  · simp [modifyIncoming, same]

@[simp]
theorem modifyIncoming_self (change : Incoming M → Incoming M) :
    ((connection.modifyIncoming side change).handler side).incoming =
      change (connection.handler side).incoming := by
  simp [modifyIncoming]

@[simp]
theorem modifyOutgoing_incoming (change : Outgoing M → Outgoing M) :
    ((connection.modifyOutgoing side change).handler other).incoming =
      (connection.handler other).incoming := by
  by_cases same : other = side
  · subst same
    simp [modifyOutgoing]
  · simp [modifyOutgoing, same]

@[simp]
theorem modifyOutgoing_useQueue (change : Outgoing M → Outgoing M) :
    ((connection.modifyOutgoing side change).handler other).useQueue =
      (connection.handler other).useQueue := by
  by_cases same : other = side
  · subst same
    simp [modifyOutgoing]
  · simp [modifyOutgoing, same]

@[simp]
theorem modifyOutgoing_self (change : Outgoing M → Outgoing M) :
    ((connection.modifyOutgoing side change).handler side).outgoing =
      change (connection.handler side).outgoing := by
  simp [modifyOutgoing]

@[simp]
theorem setQueue_incoming (enabled : Bool) :
    ((connection.setQueue side enabled).handler other).incoming =
      (connection.handler other).incoming := by
  by_cases same : other = side
  · subst same
    simp [setQueue]
  · simp [setQueue, same]

@[simp]
theorem setQueue_outgoing (enabled : Bool) :
    ((connection.setQueue side enabled).handler other).outgoing =
      (connection.handler other).outgoing := by
  by_cases same : other = side
  · subst same
    simp [setQueue]
  · simp [setQueue, same]

@[simp]
theorem setQueue_self (enabled : Bool) :
    ((connection.setQueue side enabled).handler side).useQueue = enabled := by
  simp [setQueue]

variable {side other}

@[simp]
theorem modifyIncoming_of_ne (ne : other ≠ side) (change : Incoming M → Incoming M) :
    (connection.modifyIncoming side change).handler other = connection.handler other := by
  simp [modifyIncoming, ne]

@[simp]
theorem modifyOutgoing_of_ne (ne : other ≠ side) (change : Outgoing M → Outgoing M) :
    (connection.modifyOutgoing side change).handler other = connection.handler other := by
  simp [modifyOutgoing, ne]

@[simp]
theorem setQueue_of_ne (ne : other ≠ side) (enabled : Bool) :
    (connection.setQueue side enabled).handler other = connection.handler other := by
  simp [setQueue, ne]

end Fields

/-- The remote registered the type of the message. -/
def isKnown (incoming : Incoming M) : LocalMessage M → Bool
  | LocalMessage.syncMtr _ => true
  | LocalMessage.message type _ => isCore type || decide (type ∈ incoming.remoteTypes)

/-- What a message that is not ignored does to the receiving side: announcements register a
type. -/
def deliver (message : LocalMessage M) (incoming : Incoming M) : Incoming M :=
  match message with
  | LocalMessage.syncMtr type =>
      { incoming with
        remoteTypes := incoming.remoteTypes ++ [type]
        delivered := incoming.delivered ++ [message] }
  | LocalMessage.message _ _ => { incoming with delivered := incoming.delivered ++ [message] }

/-- The handlers that are about to be invoked for a message. -/
def invoked : LocalMessage M → List (Task M)
  | LocalMessage.syncMtr _ => []
  | LocalMessage.message _ _ => [Task.handlers]

/-- `on_message_received_common` -/
def handleMessage (side : Side) (message : LocalMessage M) (connection : LocalConnection M) :
    LocalConnection M :=
  if isKnown isCore (connection.handler side).incoming message then
    (connection.modifyIncoming side (deliver message)).withTasks
      (invoked message ++ connection.tasks)
  else
    connection.modifyIncoming side fun incoming =>
      { incoming with ignored := incoming.ignored ++ [message] }

/-- `on_message_received` -/
def onMessageReceived (side : Side) (message : LocalMessage M)
    (connection : LocalConnection M) : LocalConnection M :=
  if (connection.handler side).useQueue then
    connection.modifyIncoming side fun incoming =>
      { incoming with readQueue := incoming.readQueue ++ [message] }
  else handleMessage isCore side message connection

/-- The part of `send_message` that follows the announcement of the type. -/
def emit (side : Side) (message : LocalMessage M) (connection : LocalConnection M) :
    LocalConnection M :=
  if (connection.handler side).useQueue then
    connection.modifyOutgoing side fun outgoing =>
      { outgoing with
        writeQueue := outgoing.writeQueue ++ [message]
        sent := outgoing.sent ++ [message] }
  else
    onMessageReceived isCore side.other message
      (connection.modifyOutgoing side fun outgoing =>
        { outgoing with sent := outgoing.sent ++ [message] })

/-- `register_message_type_remote` -/
def registerMessageTypeRemote (side : Side) (type : MtrId) (connection : LocalConnection M) :
    LocalConnection M :=
  if isCore type || decide (type ∈ (connection.handler side).outgoing.publishedTypes) then
    connection
  else
    (emit isCore side (LocalMessage.syncMtr type) connection).modifyOutgoing side fun outgoing =>
      { outgoing with publishedTypes := outgoing.publishedTypes ++ [type] }

/-- `send_message` -/
def sendMessage (side : Side) (type : MtrId) (body : M) (connection : LocalConnection M) :
    LocalConnection M :=
  emit isCore side (LocalMessage.message type body)
    (registerMessageTypeRemote isCore side type connection)

/-- `toggle_queue`, up to the point where the first message is replayed or sent. -/
def toggleQueue (side : Side) (enabled : Bool) (connection : LocalConnection M) :
    LocalConnection M :=
  if enabled then connection.setQueue side true
  else
    (connection.setQueue side false).withTasks
      (Task.toggle ⟨side, some (connection.handler side).incoming.readQueue,
        (connection.handler side).outgoing.writeQueue⟩ :: connection.tasks)

/-- What a call of `toggle_queue(false)` does next. -/
def proceedToggle (side : Side) (tasks : List (Task M)) (connection : LocalConnection M) :
    Option (List (LocalMessage M)) → List (LocalMessage M) → LocalConnection M
  | some (message :: reads), writes =>
      onMessageReceived isCore side message
        (connection.withTasks (Task.toggle ⟨side, some reads, writes⟩ :: tasks))
  | some [], writes =>
      (connection.modifyIncoming side fun incoming => { incoming with readQueue := [] }).withTasks
        (Task.toggle ⟨side, none, writes⟩ :: tasks)
  | none, message :: writes =>
      onMessageReceived isCore side.other message
        (connection.withTasks (Task.toggle ⟨side, none, writes⟩ :: tasks))
  | none, [] =>
      (connection.modifyOutgoing side fun outgoing =>
        { outgoing with writeQueue := [] }).withTasks tasks

/-- The calls of `toggle_queue(false)`, innermost first. -/
def toggles (connection : LocalConnection M) : List (Toggle M) :=
  connection.tasks.filterMap fun task =>
    match task with
    | Task.handlers => none
    | Task.toggle toggle => some toggle

/-- The innermost call of `toggle_queue(false)` on a side. -/
def current (connection : LocalConnection M) (side : Side) : Option (Toggle M) :=
  connection.toggles.find? fun toggle => toggle.side = side

/-- The messages that a side still has to send while its queue is switched off. -/
def unwritten (connection : LocalConnection M) (side : Side) :
    Option (List (LocalMessage M)) :=
  (connection.current side).map Toggle.unwritten

/-- The messages that a side still has to replay while its queue is switched off. -/
def unread (connection : LocalConnection M) (side : Side) : Option (List (LocalMessage M)) :=
  (connection.current side).bind Toggle.unread

/-- Whether the program is free to choose what it does next. -/
def InControl (connection : LocalConnection M) : Bool :=
  match connection.tasks with
  | [] => true
  | Task.handlers :: _ => true
  | Task.toggle _ :: _ => false

/-- One step of the program. -/
def step (connection : LocalConnection M) : LocalAction M → Option (LocalConnection M)
  | LocalAction.send side type body =>
      if connection.InControl then some (sendMessage isCore side type body connection) else none
  | LocalAction.toggleQueue side enabled =>
      if connection.InControl then some (toggleQueue side enabled connection) else none
  | LocalAction.proceed =>
      match connection.tasks with
      | [] => none
      | Task.handlers :: tasks => some (connection.withTasks tasks)
      | Task.toggle toggle :: tasks =>
          some (proceedToggle isCore toggle.side tasks connection toggle.unread toggle.unwritten)

/-! ## Queues as byte strings -/

section Bytes

variable (encode : LocalMessage M → Bytes × MtrId)

/-- The byte string of a queue that holds the given messages. -/
def queueBytes (messages : List (LocalMessage M)) : Bytes :=
  messages.foldl (fun queue message =>
    MessageHandler.enqueue queue (encode message).1 (encode message).2) []

@[simp]
theorem queueBytes_concat (messages : List (LocalMessage M)) (message : LocalMessage M) :
    queueBytes encode (messages ++ [message]) =
      MessageHandler.enqueue (queueBytes encode messages) (encode message).1
        (encode message).2 := by
  rw [queueBytes, List.foldl_append, List.foldl_cons, List.foldl_nil, queueBytes]

/-- The byte string is taken apart into the messages that were put into it. -/
theorem queuedMessages_queueBytes {messages : List (LocalMessage M)}
    (short : ∀ message ∈ messages, (encode message).1.length + 2 < 2 ^ 64) :
    MessageHandler.queuedMessages (queueBytes encode messages) =
      some (messages.map fun message =>
        (encode message).1 ++ MessageHandler.idBytes (encode message).2) := by
  induction messages using List.reverseRecOn with
  | nil => rfl
  | append_singleton messages message ih =>
      have earlier := ih fun other mem => short other (List.mem_append_left _ mem)
      have last := short message (List.mem_append_right _ (List.mem_singleton_self message))
      rw [queueBytes_concat, MessageHandler.queuedMessages_enqueue earlier last, List.map_append,
        List.map_singleton]

end Bytes

/-- Announcements that consist of the number of the type, and messages that are bytes already. -/
def plainBytes : LocalMessage Bytes → Bytes × MtrId
  | .syncMtr type => (MessageHandler.idBytes type, 0)
  | .message type body => (body, type)

theorem queuedMessages_queueBytes_plain :
    MessageHandler.queuedMessages
        (queueBytes plainBytes [.syncMtr 9, .message 9 [1, 2], .message 9 []]) =
      some [[9, 0, 0, 0], [1, 2, 9, 0], [9, 0]] := by
  rw [queuedMessages_queueBytes]
  · decide
  · decide

end LocalConnection

end VoxelEngine.ClientServer
