import VoxelEngine.ClientServer.SocketSession
import VoxelEngine.Serialize.Integer
import VoxelEngine.Transition.Run
import Mathlib.Data.List.Perm.Subperm

/-!
# Handshakes on a server

Every event of a session is added to the queue of the session and then to the queue of its
server, by the threads that serve the sockets.  The main thread drains the queue of the
server, removes the sessions that were closed and drains the queues of the sessions, one
after the other, while the other threads go on.  A session gets its handlers when the server
dispatches its start event: first one for the message with the remote's id, and with that
message the handler for all later ones.
-/

namespace VoxelEngine.ClientServer

open VoxelEngine.Serialize
open VoxelEngine.Transition

/-- `session_id` -/
abbrev SessionId := UInt32

/-- The messages among the events of a queue. -/
def messagesOf (events : List SessionEvent) : List Bytes :=
  events.filterMap fun event =>
    match event with
    | SessionEvent.messageReceived message => some message
    | _ => none

/-- What handles a message that is dispatched on a session. -/
inductive MessageConsumer where
  /-- The handler that is removed after the first message. -/
  | handshake
  | remoteMessageHandler
  deriving DecidableEq

/-- The remote's id in its first message, `make_message_unignored` and `from_bytes`. -/
def remoteIdOf (message : Bytes) : Option InstanceId :=
  if message.length < 2 then none
  else
    (popInteger 16 (message.take (message.length - 2))).map fun result =>
      ⟨BitVec.ofNat 128 result.1⟩

/-- A session, with the messages that were received on it and those that were dispatched on
it. -/
structure Session where
  socketOpen : Bool
  isClosed : Bool
  /-- The session is in the `sessions` of its server, or is that of its client. -/
  inServer : Bool
  started : Bool
  queue : List SessionEvent
  /-- Events that are not yet in the queue of the server. -/
  unpublished : List SessionEvent
  /-- There is a handler for the message with the remote's id. -/
  handshake : Bool
  /-- The remote to remove when the session ends. -/
  endHandler : Option InstanceId
  received : List Bytes
  dispatched : List (Bytes × List MessageConsumer)

namespace Session

/-- A session that was not accepted. -/
def absent : Session :=
  ⟨false, true, false, false, [], [], false, none, [], []⟩

/-- A session that was accepted. -/
def fresh : Session :=
  ⟨true, false, true, false, [], [], false, none, [], []⟩

/-- A session can raise the event now.  Reading begins after the start event was added to
both queues, and goes on after the previous message was; a socket is closed once. -/
def canRaise (session : Session) : SessionEvent → Bool
  | SessionEvent.sessionStart => session.socketOpen && !session.started
  | SessionEvent.sessionEnd => session.socketOpen
  | SessionEvent.sessionError => true
  | SessionEvent.messageReceived _ =>
      session.started &&
        session.unpublished.all fun event =>
          event ≠ SessionEvent.sessionStart && (messagesOf [event]).isEmpty

/-- The session after it raised an event. -/
def raised (event : SessionEvent) (session : Session) : Session :=
  { session with
    socketOpen := session.socketOpen && event ≠ SessionEvent.sessionEnd
    started := session.started || event = SessionEvent.sessionStart
    queue := session.queue ++ [event]
    unpublished := session.unpublished ++ [event]
    received := session.received ++ messagesOf [event] }

end Session

/-- What the main thread is doing. -/
inductive UpdatePhase where
  | idle
  /-- The queue of the server was drained. -/
  | dispatched
  /-- Closed sessions are being removed; all sessions will be updated afterwards. -/
  | sweeping (sessions remaining : List SessionId)
  | updating (remaining : List SessionId)
  deriving DecidableEq

/-- The sessions that will be updated before the main thread is idle again. -/
def UpdatePhase.due : UpdatePhase → List SessionId
  | sweeping sessions _ => sessions
  | updating remaining => remaining
  | _ => []

/-- What ends the program. -/
inductive HandshakeFailure where
  /-- `sessions.at` threw in the handler of a start event. -/
  | sessionNotFound
  /-- The first message is too short to hold an id. -/
  | malformedId
  deriving DecidableEq

/-- A server that was set up by `host_server`: its sessions, the events in its own queue, and
the sessions of the remotes that are connected. -/
structure SocketServer where
  accepted : List SessionId
  session : SessionId → Session
  parent : List (SessionId × SessionEvent)
  clientConnections : List (InstanceId × SessionId)
  phase : UpdatePhase
  failure : Option HandshakeFailure

namespace SocketServer

/-- No session was accepted. -/
def start : SocketServer :=
  ⟨[], fun _ => Session.absent, [], [], UpdatePhase.idle, none⟩

/-- Change one session. -/
def modify (server : SocketServer) (id : SessionId) (change : Session → Session) :
    SocketServer :=
  { server with session := Function.update server.session id (change (server.session id)) }

/-- The remote message handler of the session exists. -/
def connected (server : SocketServer) (id : SessionId) : Bool :=
  server.clientConnections.any fun connection => connection.2 = id

/-- `socket_session::stop` on the main thread. -/
def stop (server : SocketServer) (id : SessionId) : SocketServer :=
  if (server.session id).socketOpen then
    { server.modify id fun session =>
        { session with
          socketOpen := false
          isClosed := true
          queue := session.queue ++ [SessionEvent.sessionEnd] } with
      parent := server.parent ++ [(id, SessionEvent.sessionEnd)] }
  else server.modify id fun session => { session with isClosed := true }

/-- `server::remove_client_connection`; without its message handler a session is stopped. -/
def removeClientConnection (server : SocketServer) (remote : InstanceId) : SocketServer :=
  match server.clientConnections.find? fun connection => connection.1 = remote with
  | none => server
  | some connection =>
      { server with
        clientConnections :=
          server.clientConnections.filter fun other => other.1 ≠ remote }.stop connection.2

/-- `server::add_client_connection`; a second message handler for a remote is not kept. -/
def addClientConnection (server : SocketServer) (remote : InstanceId) (id : SessionId) :
    SocketServer :=
  if server.clientConnections.any fun connection => connection.1 = remote then server.stop id
  else { server with clientConnections := (remote, id) :: server.clientConnections }

/-- Dispatch a message on a session. -/
def invokeMessage (id : SessionId) (server : SocketServer) (message : Bytes) : SocketServer :=
  let consumers :=
    (if (server.session id).handshake then [MessageConsumer.handshake] else []) ++
      if server.connected id then [MessageConsumer.remoteMessageHandler] else []
  let logged := server.modify id fun session =>
    { session with dispatched := session.dispatched ++ [(message, consumers)] }
  if (server.session id).handshake then
    match remoteIdOf message with
    | none => { logged with failure := some HandshakeFailure.malformedId }
    | some remote =>
        (logged.modify id fun session =>
          { session with handshake := false, endHandler := some remote }).addClientConnection
            remote id
  else logged

/-- Dispatch the end of a session. -/
def invokeEnd (id : SessionId) (server : SocketServer) : SocketServer :=
  match (server.session id).endHandler with
  | none => server
  | some remote => server.removeClientConnection remote

/-- Dispatch the events in the queue of a session if it has ended. -/
def dispatchEnds (id : SessionId) (server : SocketServer) : SocketServer :=
  if SessionEvent.sessionEnd ∈ (server.session id).queue then
    invokeEnd id (server.modify id fun session =>
      { session with queue := session.queue.filter fun event => event ≠ SessionEvent.sessionEnd })
  else server

/-- Dispatch the messages in the queue of a session. -/
def dispatchMessages (id : SessionId) (server : SocketServer) : SocketServer :=
  (messagesOf (server.session id).queue).foldl (invokeMessage id)
    (server.modify id fun session =>
      { session with queue := session.queue.filter fun event => event = SessionEvent.sessionEnd })

/-- `socket_session::update`.  Which of the types of events is dispatched first is not
specified; there are handlers for the end and for messages only. -/
def updateSession (endFirst : Bool) (id : SessionId) (server : SocketServer) : SocketServer :=
  let first := if endFirst then dispatchEnds id server else server
  (dispatchEnds id (dispatchMessages id first)).modify id fun session =>
    { session with queue := [] }

/-- Dispatch an event on the server.  Its only handler is for session starts. -/
def invokeParent (server : SocketServer) (event : SessionId × SessionEvent) : SocketServer :=
  match event.2 with
  | SessionEvent.sessionStart =>
      if (server.session event.1).inServer then
        server.modify event.1 fun session => { session with handshake := true }
      else { server with failure := some HandshakeFailure.sessionNotFound }
  | _ => server

/-- The steps of the main thread and of the threads that serve the sockets. -/
inductive Action where
  /-- `dispatcher_t::dispatch_events` of the server. -/
  | dispatchParent
  /-- The main thread has the sessions to itself, in the order in which they are stored. -/
  | lock (sessions : List SessionId)
  /-- Remove the next session if it is closed. -/
  | sweep
  /-- Update the next session. -/
  | update (endFirst : Bool)
  | unlock
  /-- `on_connection_accepted`, up to the start of the session. -/
  | accept (id : SessionId)
  /-- The first half of `socket_session::dispatch_event`. -/
  | raise (id : SessionId) (event : SessionEvent)
  /-- Its second half. -/
  | publish (id : SessionId) (event : SessionEvent)
  /-- The end of `socket_session::stop`. -/
  | markClosed (id : SessionId)

/-- The sessions that the main thread has still to update. -/
def due (server : SocketServer) : List SessionId :=
  server.phase.due

/-- One step.  The lock of the sessions keeps new ones from being accepted. -/
def step (server : SocketServer) (action : Action) : Option SocketServer :=
  if server.failure.isSome then none
  else
    match action with
    | Action.dispatchParent =>
        if server.phase = UpdatePhase.idle then
          some { server.parent.foldl invokeParent { server with parent := [] } with
            phase := UpdatePhase.dispatched }
        else none
    | Action.lock sessions =>
        if server.phase = UpdatePhase.dispatched ∧
            sessions.Perm (server.accepted.filter fun id => (server.session id).inServer) then
          some { server with phase := UpdatePhase.sweeping sessions sessions }
        else none
    | Action.sweep =>
        match server.phase with
        | UpdatePhase.sweeping sessions (id :: remaining) =>
            some { server.modify id fun session =>
                { session with inServer := session.inServer && !session.isClosed } with
              phase := UpdatePhase.sweeping sessions remaining }
        | UpdatePhase.sweeping sessions [] =>
            some { server with phase := UpdatePhase.updating sessions }
        | _ => none
    | Action.update endFirst =>
        match server.phase with
        | UpdatePhase.updating (id :: remaining) =>
            some { updateSession endFirst id server with phase := UpdatePhase.updating remaining }
        | _ => none
    | Action.unlock =>
        if server.phase = UpdatePhase.updating [] then
          some { server with phase := UpdatePhase.idle }
        else none
    | Action.accept id =>
        if (server.phase = UpdatePhase.idle ∨ server.phase = UpdatePhase.dispatched) ∧
            id ∉ server.accepted then
          some { server.modify id fun _ => Session.fresh with
            accepted := id :: server.accepted }
        else none
    | Action.raise id event =>
        if id ∈ server.accepted ∧ (server.session id).canRaise event then
          some (server.modify id (Session.raised event))
        else none
    | Action.publish id event =>
        if event ∈ (server.session id).unpublished then
          some { server.modify id fun session =>
              { session with unpublished := session.unpublished.erase event } with
            parent := server.parent ++ [(id, event)] }
        else none
    | Action.markClosed id =>
        if id ∈ server.accepted ∧ (server.session id).socketOpen = false then
          some (server.modify id fun session => { session with isClosed := true })
        else none

/-! ## Sessions as the invariant sees them -/

end SocketServer

/-- The first message is handled as the remote's id and the others are passed on. -/
def Consumed : List (Bytes × List MessageConsumer) → Prop
  | [] => True
  | first :: later =>
      first.2 = [MessageConsumer.handshake] ∧
        ∀ entry ∈ later, entry.2 = [MessageConsumer.remoteMessageHandler]

/-- What matters of a session and its events. -/
structure SessionView where
  waiting : List Bytes
  received : List Bytes
  dispatched : List (Bytes × List MessageConsumer)
  handshake : Bool
  inServer : Bool
  started : Bool
  /-- How many start events the server has still to dispatch. -/
  starts : Nat
  accepted : Prop
  due : Prop
  socketOpen : Bool
  isClosed : Bool
  connected : Bool

/-- A session gets its messages in order, with the handlers they are for. -/
structure SessionView.Sound (view : SessionView) : Prop where
  inOrder : view.dispatched.map Prod.fst ++ view.waiting = view.received
  consumed : Consumed view.dispatched
  handshake : view.handshake = true → view.dispatched = []
  connected : view.connected = true → view.dispatched ≠ []
  starts : view.starts ≤ if view.started then 1 else 0
  starting : 0 < view.starts →
    view.dispatched = [] ∧ view.handshake = false ∧ view.inServer = true
  unstarted : view.started = false → view.received = [] ∧ view.handshake = false
  unaccepted : ¬ view.accepted → view.started = false ∧ view.socketOpen = false
  stillOpen : view.socketOpen = true → view.inServer = true ∧ view.isClosed = false
  removed : view.inServer = false → view.waiting = [] ∨ view.due

/-- A session was stopped or lost its message handler, if anything. -/
def SessionView.Lapses (before after : SessionView) : Prop :=
  ∃ socketOpen isClosed connected,
    after = { before with socketOpen, isClosed, connected } ∧
      (socketOpen = true → before.socketOpen = true ∧ isClosed = before.isClosed) ∧
      (connected = true → before.connected = true)

namespace SessionView

theorem Lapses.refl (view : SessionView) : view.Lapses view :=
  ⟨_, _, _, rfl, fun isOpen => ⟨isOpen, rfl⟩, id⟩

theorem Lapses.trans {first second third : SessionView} (earlier : first.Lapses second)
    (later : second.Lapses third) : first.Lapses third := by
  rcases earlier with ⟨_, _, _, rfl, firstOpen, firstConnected⟩
  rcases later with ⟨_, _, _, rfl, secondOpen, secondConnected⟩
  refine ⟨_, _, _, rfl, ?_, fun connected => firstConnected (secondConnected connected)⟩
  intro isOpen
  rcases secondOpen isOpen with ⟨stillOpen, same⟩
  exact ⟨(firstOpen stillOpen).1, same.trans (firstOpen stillOpen).2⟩

theorem Sound.of_lapses {before after : SessionView} (sound : before.Sound)
    (lapses : before.Lapses after) : after.Sound := by
  rcases lapses with ⟨socketOpen, isClosed, connected, rfl, isOpen, still⟩
  refine { sound with
    connected := fun now => sound.connected (still now), unaccepted := ?_, stillOpen := ?_ }
  · intro unaccepted
    rcases sound.unaccepted unaccepted with ⟨unstarted, closed⟩
    refine ⟨unstarted, ?_⟩
    cases now : socketOpen with
    | false => rfl
    | true => exact absurd (isOpen now).1 (by rw [closed]; exact Bool.false_ne_true)
  · intro now
    rcases isOpen now with ⟨before_open, same⟩
    exact ⟨(sound.stillOpen before_open).1, same.trans (sound.stillOpen before_open).2⟩

end SessionView

@[simp]
theorem messagesOf_append (first second : List SessionEvent) :
    messagesOf (first ++ second) = messagesOf first ++ messagesOf second :=
  List.filterMap_append

@[simp]
theorem messagesOf_nil : messagesOf [] = [] :=
  rfl

@[simp]
theorem messagesOf_sessionEnd : messagesOf [SessionEvent.sessionEnd] = [] :=
  rfl

@[simp]
theorem messagesOf_filter_ne (events : List SessionEvent) :
    messagesOf (events.filter fun event => event ≠ SessionEvent.sessionEnd) =
      messagesOf events := by
  induction events with
  | nil => rfl
  | cons event rest ih =>
      cases event <;> simp_all [messagesOf]

@[simp]
theorem messagesOf_filter_eq (events : List SessionEvent) :
    messagesOf (events.filter fun event => event = SessionEvent.sessionEnd) = [] := by
  induction events with
  | nil => rfl
  | cons event rest ih =>
      cases event <;> simp_all [messagesOf]

namespace SocketServer

variable {server next : SocketServer} {id other : SessionId}

section Modify

variable (change : Session → Session)

@[simp]
theorem modify_session_self : (server.modify id change).session id =
    change (server.session id) := by
  simp [modify]

theorem modify_session_of_ne (ne : other ≠ id) :
    (server.modify id change).session other = server.session other := by
  simp [modify, ne]

@[simp]
theorem modify_parent : (server.modify id change).parent = server.parent :=
  rfl

@[simp]
theorem modify_clientConnections :
    (server.modify id change).clientConnections = server.clientConnections :=
  rfl

@[simp]
theorem modify_connected : (server.modify id change).connected other = server.connected other :=
  rfl

@[simp]
theorem modify_phase : (server.modify id change).phase = server.phase :=
  rfl

@[simp]
theorem modify_accepted : (server.modify id change).accepted = server.accepted :=
  rfl

@[simp]
theorem modify_failure : (server.modify id change).failure = server.failure :=
  rfl

@[simp]
theorem modify_modify (second : Session → Session) :
    (server.modify id change).modify id second =
      server.modify id fun session => second (change session) := by
  simp [modify]

end Modify

/-- A session as the invariant sees it. -/
def view (server : SocketServer) (id : SessionId) : SessionView where
  waiting := messagesOf (server.session id).queue
  received := (server.session id).received
  dispatched := (server.session id).dispatched
  handshake := (server.session id).handshake
  inServer := (server.session id).inServer
  started := (server.session id).started
  starts := (server.session id).unpublished.count SessionEvent.sessionStart +
    server.parent.count (id, SessionEvent.sessionStart)
  accepted := id ∈ server.accepted
  due := id ∈ server.due
  socketOpen := (server.session id).socketOpen
  isClosed := (server.session id).isClosed
  connected := server.connected id

theorem view_modify_of_ne (ne : other ≠ id) (change : Session → Session) :
    (server.modify id change).view other = server.view other := by
  simp [view, due, modify_session_of_ne change ne]

/-- The invariant sees the start events in the queue of the server and no others. -/
@[simp]
theorem view_publishEnd :
    ({ server with parent := server.parent ++ [(id, SessionEvent.sessionEnd)] } :
      SocketServer).view other = server.view other := by
  simp [view, due, connected, List.count_append]

/-! ## What the steps do to a session -/

/-- Stopping a session raises an end at most. -/
theorem lapses_stop : (server.view other).Lapses ((server.stop id).view other) := by
  by_cases same : other = id
  · subst same
    refine ⟨false, true, server.connected other, ?_, by simp, fun now => now⟩
    cases isOpen : (server.session other).socketOpen <;>
      simp [view, stop, isOpen, connected, due, List.count_append]
  · have same_view : (server.stop id).view other = server.view other := by
      unfold stop
      split
      · exact view_publishEnd.trans (view_modify_of_ne same _)
      · exact view_modify_of_ne same _
    rw [same_view]
    exact SessionView.Lapses.refl _

theorem lapses_removeClientConnection (remote : InstanceId) :
    (server.view other).Lapses ((server.removeClientConnection remote).view other) := by
  unfold removeClientConnection
  split
  · exact SessionView.Lapses.refl _
  · apply SessionView.Lapses.trans _ lapses_stop
    refine ⟨_, _, _, rfl, fun isOpen => ⟨isOpen, rfl⟩, ?_⟩
    intro connected
    rcases List.any_eq_true.mp connected with ⟨connection, mem, held⟩
    exact List.any_eq_true.mpr ⟨connection, (List.mem_filter.mp mem).1, held⟩

theorem lapses_dispatchEnds (server : SocketServer) (id other : SessionId) :
    (server.view other).Lapses ((dispatchEnds id server).view other) := by
  unfold dispatchEnds
  split
  · have same_view : (server.modify id fun session => { session with
        queue := session.queue.filter fun event => event ≠ SessionEvent.sessionEnd }).view other =
          server.view other := by
      by_cases same : other = id
      · subst same
        simp only [view, modify_session_self, messagesOf_filter_ne, modify_parent,
          modify_accepted, modify_connected, due, modify_phase]
      · exact view_modify_of_ne same _
    rw [← same_view]
    unfold invokeEnd
    split
    · exact SessionView.Lapses.refl _
    · exact lapses_removeClientConnection _
  · exact SessionView.Lapses.refl _

@[simp]
theorem stop_phase : (server.stop id).phase = server.phase := by
  unfold stop
  split <;> rfl

@[simp]
theorem stop_failure : (server.stop id).failure = server.failure := by
  unfold stop
  split <;> rfl

@[simp]
theorem removeClientConnection_failure (remote : InstanceId) :
    (server.removeClientConnection remote).failure = server.failure := by
  unfold removeClientConnection
  split
  · rfl
  · simp

@[simp]
theorem dispatchEnds_failure : (dispatchEnds id server).failure = server.failure := by
  unfold dispatchEnds invokeEnd
  split
  · split <;> simp
  · rfl

/-- A session that ends without a handler for it loses nothing else. -/
theorem dispatchEnds_connected (unhandled : (server.session id).endHandler = none) :
    (dispatchEnds id server).connected = server.connected ∧
      (dispatchEnds id server).clientConnections = server.clientConnections := by
  unfold dispatchEnds
  split
  · simp only [invokeEnd, modify_session_self, unhandled]
    exact ⟨rfl, rfl⟩
  · exact ⟨rfl, rfl⟩

/-- A connected session passes its messages on. -/
theorem foldl_invokeMessage (connected : server.connected id = true)
    (established : (server.session id).handshake = false) (messages : List Bytes) :
    messages.foldl (invokeMessage id) server =
      server.modify id fun session =>
        { session with
          dispatched := session.dispatched ++
            messages.map fun message => (message, [MessageConsumer.remoteMessageHandler]) } := by
  induction messages generalizing server with
  | nil => simp [modify]
  | cons message rest ih =>
      have first : invokeMessage id server message =
          server.modify id fun session =>
            { session with
              dispatched := session.dispatched ++
                [(message, [MessageConsumer.remoteMessageHandler])] } := by
        simp [invokeMessage, established, connected]
      rw [List.foldl_cons, first, ih (by simpa using connected) (by simpa using established),
        modify_modify]
      simp

/-- The first message connects the session. -/
theorem invokeMessage_handshake {message : Bytes} {remote : InstanceId}
    (handshake : (server.session id).handshake = true) (unconnected : server.connected id = false)
    (identified : remoteIdOf message = some remote)
    (unknown : ∀ connection ∈ server.clientConnections, connection.1 ≠ remote) :
    invokeMessage id server message =
      { server.modify id fun session =>
          { session with
            dispatched := session.dispatched ++ [(message, [MessageConsumer.handshake])]
            handshake := false
            endHandler := some remote } with
        clientConnections := (remote, id) :: server.clientConnections } := by
  have fresh : (server.clientConnections.any fun connection => connection.1 = remote) = false := by
    rw [List.any_eq_false]
    intro connection mem
    simpa using unknown connection mem
  simp only [invokeMessage, handshake, if_true, unconnected, identified, addClientConnection,
    modify_clientConnections, fresh, modify_modify]
  simp

/-- The handlers for the messages of a session are there when it is updated: the remote
message handler, or the handler for the first message, if that holds the id of a remote that
is not connected. -/
def isReady (server : SocketServer) (id : SessionId) : Bool :=
  match messagesOf (server.session id).queue with
  | [] => true
  | first :: _ =>
      if (server.session id).handshake then
        match remoteIdOf first with
        | none => false
        | some remote => server.clientConnections.all fun connection => connection.1 ≠ remote
      else server.connected id

end SocketServer

theorem Consumed.append_passed {dispatched : List (Bytes × List MessageConsumer)}
    (consumed : Consumed dispatched) (established : dispatched ≠ []) (messages : List Bytes) :
    Consumed (dispatched ++
      messages.map fun message => (message, [MessageConsumer.remoteMessageHandler])) := by
  cases dispatched with
  | nil => exact absurd rfl established
  | cons first later =>
      refine ⟨consumed.1, ?_⟩
      intro entry mem
      rcases List.mem_append.mp mem with old | new
      · exact consumed.2 entry old
      · rcases List.mem_map.mp new with ⟨message, _, rfl⟩
        rfl

/-- Passing on what is waiting keeps a session sound once its handlers are there. -/
theorem SessionView.Sound.dispatch {view : SessionView} (sound : view.Sound)
    (passed : List (Bytes × List MessageConsumer)) (handshake connected : Bool)
    (same : passed.map Prod.fst = view.waiting) (consumed : Consumed (view.dispatched ++ passed))
    (unhandled : handshake = true → view.handshake = true ∧ passed = [])
    (established : connected = true → view.dispatched ++ passed ≠ [])
    (quiet : 0 < view.starts → passed = []) :
    ({ view with
      waiting := [], dispatched := view.dispatched ++ passed, handshake, connected } :
        SessionView).Sound := by
  refine { sound with
    inOrder := ?_, consumed := consumed, handshake := ?_, connected := established, starting := ?_,
    unstarted := ?_, removed := fun _ => Or.inl rfl }
  · rw [← sound.inOrder, List.map_append, same, List.append_nil]
  · intro now
    rcases unhandled now with ⟨before, nothing⟩
    rw [nothing, List.append_nil]
    exact sound.handshake before
  · intro starting
    rcases sound.starting starting with ⟨fresh, unset, inServer⟩
    refine ⟨by rw [quiet starting, List.append_nil]; exact fresh, ?_, inServer⟩
    cases now : handshake with
    | false => rfl
    | true => rw [(unhandled now).1] at unset; exact unset
  · intro unstarted
    rcases sound.unstarted unstarted with ⟨nothing, unset⟩
    refine ⟨nothing, ?_⟩
    cases now : handshake with
    | false => rfl
    | true => rw [(unhandled now).1] at unset; exact unset

namespace SocketServer

variable {server next : SocketServer} {id other : SessionId}

/-- The message handlers that the messages are passed on to. -/
def passedOn (messages : List Bytes) : List (Bytes × List MessageConsumer) :=
  messages.map fun message => (message, [MessageConsumer.remoteMessageHandler])

theorem passedOn_fst (messages : List Bytes) : (passedOn messages).map Prod.fst = messages := by
  simp [passedOn, Function.comp_def]

/-- The messages of a connected session are passed on. -/
theorem dispatchMessages_connected
    (connected : messagesOf (server.session id).queue ≠ [] → server.connected id = true)
    (established : messagesOf (server.session id).queue ≠ [] →
      (server.session id).handshake = false) :
    dispatchMessages id server =
      server.modify id fun session =>
        { session with
          queue := session.queue.filter fun event => event = SessionEvent.sessionEnd
          dispatched := session.dispatched ++ passedOn (messagesOf (server.session id).queue) } := by
  unfold dispatchMessages
  cases messages : messagesOf (server.session id).queue with
  | nil => simp [passedOn]
  | cons first rest =>
      have some_message : messagesOf (server.session id).queue ≠ [] := by
        rw [messages]
        exact List.cons_ne_nil _ _
      rw [foldl_invokeMessage (by simpa using connected some_message)
        (by simpa using established some_message), modify_modify]
      rfl

/-- The first message of a session connects it, and the others are passed on. -/
theorem dispatchMessages_handshake {first : Bytes} {rest : List Bytes} {remote : InstanceId}
    (messages : messagesOf (server.session id).queue = first :: rest)
    (handshake : (server.session id).handshake = true) (unconnected : server.connected id = false)
    (identified : remoteIdOf first = some remote)
    (unknown : ∀ connection ∈ server.clientConnections, connection.1 ≠ remote) :
    dispatchMessages id server =
      { server.modify id fun session =>
          { session with
            queue := session.queue.filter fun event => event = SessionEvent.sessionEnd
            dispatched :=
              session.dispatched ++ (first, [MessageConsumer.handshake]) :: passedOn rest
            handshake := false
            endHandler := some remote } with
        clientConnections := (remote, id) :: server.clientConnections } := by
  unfold dispatchMessages
  rw [messages, List.foldl_cons, invokeMessage_handshake (by simpa using handshake)
    (by simpa using unconnected) identified (by simpa using unknown)]
  rw [foldl_invokeMessage (by simp [connected]) (by simp)]
  simp [modify, passedOn]

/-- Dispatching the messages of a session whose handlers are there. -/
theorem sound_dispatchMessages (sound : (server.view id).Sound) (ready : server.isReady id = true) :
    (dispatchMessages id server).failure = server.failure ∧
      (∀ other, other ≠ id → (dispatchMessages id server).view other = server.view other) ∧
      ((dispatchMessages id server).view id).Sound ∧
      ((dispatchMessages id server).view id).waiting = [] := by
  unfold isReady at ready
  have unconnected_of : (server.session id).handshake = true → server.connected id = false := by
    intro handshake
    cases connected : server.connected id with
    | false => rfl
    | true => exact absurd (sound.handshake handshake) (sound.connected connected)
  cases messages : messagesOf (server.session id).queue with
  | nil =>
      have quiet : ¬ messagesOf (server.session id).queue ≠ [] := not_not.mpr messages
      rw [dispatchMessages_connected (absurd · quiet) (absurd · quiet)]
      refine ⟨rfl, fun other ne => view_modify_of_ne ne _, ?_, ?_⟩
      · have passed := sound.dispatch [] (server.session id).handshake (server.connected id)
          messages.symm (by simpa using sound.consumed)
          (fun now => ⟨now, rfl⟩) (by rw [List.append_nil]; exact sound.connected) (fun _ => rfl)
        simpa [view, due, messages, passedOn, messagesOf_filter_eq] using passed
      · simp only [view, modify_session_self, messagesOf_filter_eq]
  | cons first rest =>
      rw [messages] at ready
      cases handshake : (server.session id).handshake with
      | true =>
          simp only [handshake, if_true] at ready
          cases identified : remoteIdOf first with
          | none => simp [identified] at ready
          | some remote =>
              simp only [identified, List.all_eq_true, decide_eq_true_eq] at ready
              have fresh : (server.session id).dispatched = [] := sound.handshake handshake
              rw [dispatchMessages_handshake messages handshake (unconnected_of handshake)
                identified ready]
              refine ⟨rfl, ?_, ?_, ?_⟩
              · intro other ne
                have still : (decide (id = other)) = false := decide_eq_false ne.symm
                simp [view, due, connected, still, modify_session_of_ne _ ne]
              · have passed := sound.dispatch
                  ((first, [MessageConsumer.handshake]) :: passedOn rest) false true
                  (by rw [List.map_cons, passedOn_fst]; exact messages.symm)
                  (by
                    change Consumed ((server.session id).dispatched ++ _)
                    rw [fresh]
                    simp [Consumed, passedOn])
                  (fun now => by cases now) (fun _ => by simp)
                  (fun starting => by
                    have unset : (server.session id).handshake = false :=
                      (sound.starting starting).2.1
                    rw [handshake] at unset
                    cases unset)
                simpa [view, due, connected, messagesOf_filter_eq] using passed
              · simp only [view, modify_session_self, messagesOf_filter_eq]
      | false =>
          simp only [handshake, Bool.false_eq_true, if_false] at ready
          have established : (server.session id).dispatched ≠ [] := sound.connected ready
          rw [dispatchMessages_connected (fun _ => ready) (fun _ => handshake)]
          refine ⟨rfl, fun other ne => view_modify_of_ne ne _, ?_, ?_⟩
          · have passed := sound.dispatch (passedOn (first :: rest)) false true
              (by rw [passedOn_fst]; exact messages.symm)
              (sound.consumed.append_passed established _)
              (fun now => by cases now) (fun _ => by simp [passedOn])
              (fun starting => absurd (sound.starting starting).1 established)
            simpa [view, due, messages, handshake, ready, messagesOf_filter_eq] using passed
          · simp only [view, modify_session_self, messagesOf_filter_eq]

/-- The end of a session does not come between its messages and their handler. -/
def endsLast (server : SocketServer) (id : SessionId) : Bool :=
  SessionEvent.sessionEnd ∉ (server.session id).queue ||
    (server.session id).endHandler.isNone || (messagesOf (server.session id).queue).isEmpty

theorem isReady_dispatchEnds (ready : server.isReady id = true) (last : server.endsLast id = true) :
    (dispatchEnds id server).isReady id = true := by
  have same_waiting : messagesOf ((dispatchEnds id server).session id).queue =
      messagesOf (server.session id).queue := by
    rcases lapses_dispatchEnds server id id with
      ⟨_, _, _, same, _⟩
    exact congrArg SessionView.waiting same
  simp only [endsLast, Bool.or_eq_true, decide_eq_true_eq, Option.isNone_iff_eq_none,
    List.isEmpty_iff] at last
  rcases last with (absent | unhandled) | quiet
  · rw [dispatchEnds, if_neg absent]
    exact ready
  · have same_handshake : ((dispatchEnds id server).session id).handshake =
        (server.session id).handshake := by
      rcases lapses_dispatchEnds server id id with
        ⟨_, _, _, same, _⟩
      exact congrArg SessionView.handshake same
    rcases dispatchEnds_connected unhandled with ⟨same_connected, same_connections⟩
    unfold isReady at ready ⊢
    rw [same_waiting, same_handshake, same_connected, same_connections]
    exact ready
  · unfold isReady
    rw [same_waiting, quiet]

/-- Updating a session whose handlers are there. -/
theorem sound_updateSession (sound : ∀ other, (server.view other).Sound)
    (ready : server.isReady id = true) {endFirst : Bool}
    (last : endFirst = true → server.endsLast id = true) :
    (updateSession endFirst id server).failure = server.failure ∧
      (∀ other, other ≠ id →
        (server.view other).Lapses ((updateSession endFirst id server).view other)) ∧
      ((updateSession endFirst id server).view id).Sound ∧
      ((updateSession endFirst id server).view id).waiting = [] := by
  unfold updateSession
  generalize firstEq : (if endFirst then dispatchEnds id server else server) = first
  have first_spec : (∀ other, (server.view other).Lapses (first.view other)) ∧
      first.isReady id = true ∧ first.failure = server.failure := by
    rw [← firstEq]
    cases endFirst with
    | false => exact ⟨fun _ => SessionView.Lapses.refl _, ready, rfl⟩
    | true =>
        exact ⟨fun _ => lapses_dispatchEnds _ _ _, isReady_dispatchEnds ready (last rfl),
          dispatchEnds_failure⟩
  rcases first_spec with ⟨lapses, firstReady, firstFailure⟩
  rcases sound_dispatchMessages ((sound id).of_lapses (lapses id)) firstReady with
    ⟨secondFailure, secondOthers, secondSound, secondQuiet⟩
  have emptied : ((dispatchEnds id (dispatchMessages id first)).modify id fun session =>
      { session with queue := [] }).view id =
        (dispatchEnds id (dispatchMessages id first)).view id := by
    have quiet : ((dispatchEnds id (dispatchMessages id first)).view id).waiting = [] := by
      rcases lapses_dispatchEnds (dispatchMessages id first) id id with
        ⟨_, _, _, same, _⟩
      rw [same]
      exact secondQuiet
    have waiting : messagesOf ((dispatchEnds id (dispatchMessages id first)).session id).queue =
        [] := quiet
    simp [view, due, waiting]
  refine ⟨?_, ?_, ?_, ?_⟩
  · simp [secondFailure, firstFailure]
  · intro other ne
    rw [view_modify_of_ne ne]
    have second := lapses_dispatchEnds (dispatchMessages id first) id other
    rw [secondOthers other ne] at second
    exact (lapses other).trans second
  · rw [emptied]
    exact secondSound.of_lapses (lapses_dispatchEnds _ _ _)
  · simp [view]

/-! ## Runs -/

/-- The step comes in time: handlers are there before the messages are dispatched, sessions
are not removed before their start events were dispatched, and messages are received while
the session will be updated again. -/
def timely (server : SocketServer) : Action → Bool
  | Action.update endFirst =>
      match server.phase with
      | UpdatePhase.updating (id :: _) => server.isReady id && (!endFirst || server.endsLast id)
      | _ => true
  | Action.sweep =>
      match server.phase with
      | UpdatePhase.sweeping _ (id :: _) =>
          !(server.session id).isClosed ||
            (SessionEvent.sessionStart ∉ (server.session id).unpublished &&
              (id, SessionEvent.sessionStart) ∉ server.parent)
      | _ => true
  | Action.raise id (SessionEvent.messageReceived _) =>
      (server.session id).inServer || id ∈ server.due
  | _ => true

/-- The invariant of runs whose steps come in time. -/
structure Inv (server : SocketServer) : Prop where
  running : server.failure = none
  sound : ∀ id, (server.view id).Sound
  remaining : ∀ sessions remaining,
    server.phase = UpdatePhase.sweeping sessions remaining → remaining ⊆ sessions

theorem inv_start : Inv start := by
  constructor
  · rfl
  · intro id
    constructor <;> simp [view, start, Session.absent, connected, Consumed]
  · intro sessions remaining phase
    cases phase

theorem view_phase (phase : UpdatePhase) :
    ({ server with phase } : SocketServer).view id =
      { server.view id with due := id ∈ phase.due } :=
  rfl

end SocketServer

namespace SessionView.Sound

variable {view : SessionView}

theorem of_due (sound : view.Sound) {due : Prop}
    (still : view.inServer = false → view.due → view.waiting = [] ∨ due) :
    ({ view with due } : SessionView).Sound := by
  refine { sound with removed := ?_ }
  intro removed
  rcases sound.removed removed with quiet | due
  · exact Or.inl quiet
  · exact still removed due

/-- The server dispatches the start event of a session. -/
theorem startDispatched (sound : view.Sound) {starts : Nat} (one : view.starts = starts + 1) :
    ({ view with handshake := true, starts } : SessionView).Sound := by
  rcases sound.starting (by omega) with ⟨fresh, _, inServer⟩
  have started : view.started = true := by
    by_contra unstarted
    have none_left := sound.starts
    rw [one, if_neg unstarted] at none_left
    omega
  have last : starts = 0 := by
    have bound := sound.starts
    rw [one, if_pos started] at bound
    omega
  refine { sound with handshake := fun _ => fresh, starts := ?_, starting := ?_, unstarted := ?_ }
  · simp [last]
  · intro more
    simp only at more
    omega
  · intro unstarted
    simp only at unstarted
    rw [started] at unstarted
    cases unstarted

theorem dispatched_of_unstarted (sound : view.Sound) (unstarted : view.started = false) :
    view.dispatched = [] := by
  have inOrder := sound.inOrder
  rw [(sound.unstarted unstarted).1, List.append_eq_nil_iff] at inOrder
  exact List.map_eq_nil_iff.mp inOrder.1

/-- A session raises its start event. -/
theorem startRaised (sound : view.Sound) (unstarted : view.started = false)
    (isOpen : view.socketOpen = true) :
    ({ view with started := true, starts := view.starts + 1 } : SessionView).Sound := by
  have none_before : view.starts = 0 := by
    have bound := sound.starts
    rw [unstarted] at bound
    simpa using bound
  have fresh := sound.dispatched_of_unstarted unstarted
  have unset := (sound.unstarted unstarted).2
  refine { sound with
    starts := ?_, starting := fun _ => ⟨fresh, unset, (sound.stillOpen isOpen).1⟩, unstarted := ?_,
    unaccepted := ?_ }
  · simp [none_before]
  · intro now
    cases now
  · intro unaccepted
    have closed := (sound.unaccepted unaccepted).2
    rw [isOpen] at closed
    cases closed

/-- A session receives a message. -/
theorem messageRaised (sound : view.Sound) (started : view.started = true)
    (updated : view.inServer = true ∨ view.due) (message : Bytes) :
    ({ view with
      waiting := view.waiting ++ [message], received := view.received ++ [message] } :
        SessionView).Sound := by
  refine { sound with inOrder := ?_, unstarted := ?_, removed := ?_ }
  · rw [← sound.inOrder, List.append_assoc]
  · intro unstarted
    simp only at unstarted
    rw [started] at unstarted
    cases unstarted
  · intro removed
    rcases updated with inServer | due
    · simp only at removed
      rw [inServer] at removed
      cases removed
    · exact Or.inr due

/-- A closed session whose start event was dispatched is removed. -/
theorem swept (sound : view.Sound) (due : view.due)
    (timely : view.isClosed = true → view.starts = 0) :
    ({ view with inServer := view.inServer && !view.isClosed } : SessionView).Sound := by
  refine { sound with starting := ?_, stillOpen := ?_, removed := fun _ => Or.inr due }
  · intro starting
    rcases sound.starting starting with ⟨fresh, unset, inServer⟩
    cases closed : view.isClosed with
    | false => exact ⟨fresh, unset, by simp [inServer]⟩
    | true =>
        simp only at starting
        have none_left := timely closed
        omega
  · intro isOpen
    rcases sound.stillOpen isOpen with ⟨inServer, notClosed⟩
    exact ⟨by simp [inServer, notClosed], notClosed⟩

end SessionView.Sound

namespace SocketServer

variable {server next : SocketServer} {id other : SessionId}

/-- Dispatching the events of the server. -/
theorem sound_foldl_invokeParent {events : List (SessionId × SessionEvent)}
    (drained : server.parent = []) (running : server.failure = none)
    (sound : ∀ id, (({ server with parent := events } : SocketServer).view id).Sound) :
    (events.foldl invokeParent server).failure = none ∧
      ∀ id, ((events.foldl invokeParent server).view id).Sound := by
  induction events generalizing server with
  | nil =>
      refine ⟨running, fun id => ?_⟩
      have same : ({ server with parent := [] } : SocketServer) = server := by
        rw [← drained]
      rw [← same]
      exact sound id
  | cons event rest ih =>
      rcases event with ⟨id, event⟩
      rw [List.foldl_cons]
      cases event with
      | sessionStart =>
          have one : (({ server with parent := (id, SessionEvent.sessionStart) :: rest } :
              SocketServer).view id).starts =
                (({ server with parent := rest } : SocketServer).view id).starts + 1 := by
            simp [view, Nat.add_assoc]
          have inServer : (server.session id).inServer = true :=
            ((sound id).starting (by omega)).2.2
          have invoked : invokeParent server (id, SessionEvent.sessionStart) =
              server.modify id fun session => { session with handshake := true } := by
            simp [invokeParent, inServer]
          have handled : ∀ other, (({ server.modify id fun session =>
              { session with handshake := true } with parent := rest } :
                SocketServer).view other).Sound := by
            intro other
            by_cases same : other = id
            · subst same
              have dispatched := (sound other).startDispatched one
              simpa [view, due, connected, modify] using dispatched
            · have unchanged := sound other
              have ne : (id, SessionEvent.sessionStart) ≠ (other, SessionEvent.sessionStart) := by
                simpa using fun eq : id = other => same eq.symm
              simpa [view, due, connected, modify, same, List.count_cons, ne] using unchanged
          rw [invoked]
          exact ih drained running handled
      | sessionEnd =>
          apply ih drained running
          intro other
          simpa [view, due, connected, List.count_cons] using sound other
      | sessionError =>
          apply ih drained running
          intro other
          simpa [view, due, connected, List.count_cons] using sound other
      | messageReceived message =>
          apply ih drained running
          intro other
          simpa [view, due, connected, List.count_cons] using sound other

theorem sound_raised (sound : ∀ id, (server.view id).Sound) {event : SessionEvent}
    (able : (server.session id).canRaise event = true)
    (inTime : server.timely (Action.raise id event) = true) (other : SessionId) :
    ((server.modify id (Session.raised event)).view other).Sound := by
  by_cases same : other = id
  · subst same
    cases event with
    | sessionStart =>
        simp only [Session.canRaise, Bool.and_eq_true, Bool.not_eq_true'] at able
        have started := (sound other).startRaised able.2 able.1
        simpa [view, due, Session.raised, messagesOf, Nat.add_right_comm] using started
    | sessionEnd =>
        apply (sound other).of_lapses
        refine ⟨false, (server.session other).isClosed, server.connected other, ?_, by simp,
          fun now => now⟩
        simp [view, due, Session.raised, messagesOf]
    | sessionError =>
        have unchanged := sound other
        simpa [view, due, Session.raised, messagesOf] using unchanged
    | messageReceived message =>
        simp only [Session.canRaise, Bool.and_eq_true] at able
        simp only [timely, Bool.or_eq_true, decide_eq_true_eq] at inTime
        have received := (sound other).messageRaised able.1 inTime message
        simpa [view, due, Session.raised, messagesOf, able.1] using received
  · rw [view_modify_of_ne same]
    exact sound other

theorem view_publish {event : SessionEvent} (waiting : event ∈ (server.session id).unpublished) :
    ({ server.modify id fun session =>
        { session with unpublished := session.unpublished.erase event } with
      parent := server.parent ++ [(id, event)] } : SocketServer).view other =
        server.view other := by
  by_cases same : other = id
  · subst same
    simp only [view, modify_session_self, connected, due, List.count_append,
      modify_clientConnections, modify_accepted, modify_phase]
    by_cases start : event = SessionEvent.sessionStart
    · subst start
      have some_start := List.count_pos_iff.mpr waiting
      simp only [List.count_erase_self, List.count_singleton_self]
      congr 1
      omega
    · have no_start : (other, event) ≠ (other, SessionEvent.sessionStart) := by
        simpa using start
      rw [List.count_erase_of_ne (Ne.symm start), List.count_singleton,
        if_neg (by simpa using no_start), Nat.add_zero]
  · have no_start : ((id, event) == (other, SessionEvent.sessionStart)) = false := by
      simpa using fun eq : id = other => absurd eq.symm same
    simp [view, due, connected, modify_session_of_ne _ same, List.count_append, List.count_cons,
      no_start]

@[simp]
theorem foldl_invokeParent_phase (events : List (SessionId × SessionEvent)) :
    (events.foldl invokeParent server).phase = server.phase := by
  induction events generalizing server with
  | nil => rfl
  | cons event rest ih =>
      have same : (invokeParent server event).phase = server.phase := by
        unfold invokeParent
        split
        · split <;> rfl
        · rfl
      rw [List.foldl_cons, ih, same]

theorem Inv.dispatchParent (inv : server.Inv) (idle : server.phase = UpdatePhase.idle) :
    ({ server.parent.foldl invokeParent { server with parent := [] } with
      phase := UpdatePhase.dispatched } : SocketServer).Inv := by
  generalize emptiedEq : ({ server with parent := [] } : SocketServer) = emptied
  have sound : ∀ id, (({ emptied with parent := server.parent } : SocketServer).view id).Sound := by
    rw [← emptiedEq]
    exact inv.sound
  have drained : emptied.parent = [] ∧ emptied.failure = none ∧ emptied.phase = UpdatePhase.idle := by
    rw [← emptiedEq]
    exact ⟨rfl, inv.running, idle⟩
  rcases sound_foldl_invokeParent drained.1 drained.2.1 sound with ⟨running, dispatched⟩
  constructor
  · exact running
  · intro id
    rw [view_phase]
    apply (dispatched id).of_due
    intro _ due
    change id ∈ (server.parent.foldl invokeParent emptied).phase.due at due
    rw [foldl_invokeParent_phase, drained.2.2] at due
    cases due
  · intro sessions remaining phase
    cases phase

theorem Inv.lock (inv : server.Inv) (dispatched : server.phase = UpdatePhase.dispatched)
    (sessions : List SessionId) :
    ({ server with phase := UpdatePhase.sweeping sessions sessions } : SocketServer).Inv := by
  constructor
  · exact inv.running
  · intro id
    rw [view_phase]
    apply (inv.sound id).of_due
    intro _ due
    change id ∈ server.phase.due at due
    rw [dispatched] at due
    cases due
  · intro stored remaining phase
    cases phase
    exact List.Subset.refl _

theorem Inv.sweep (inv : server.Inv) {sessions remaining : List SessionId}
    (phase : server.phase = UpdatePhase.sweeping sessions (id :: remaining))
    (inTime : server.timely Action.sweep = true) :
    ({ server.modify id fun session =>
        { session with inServer := session.inServer && !session.isClosed } with
      phase := UpdatePhase.sweeping sessions remaining } : SocketServer).Inv := by
  have subset := inv.remaining _ _ phase
  constructor
  · exact inv.running
  · intro other
    rw [view_phase]
    have same_due : other ∈ (UpdatePhase.sweeping sessions remaining).due ↔
        other ∈ server.phase.due := by
      rw [phase]
      rfl
    rw [same_due]
    by_cases same : other = id
    · subst same
      have due : (server.view other).due := by
        change other ∈ server.phase.due
        rw [phase]
        exact subset List.mem_cons_self
      have none_left : (server.view other).isClosed = true → (server.view other).starts = 0 := by
        intro closed
        simp only [timely, phase, Bool.or_eq_true, Bool.not_eq_true', Bool.and_eq_true,
          decide_eq_true_eq] at inTime
        rcases inTime with notClosed | ⟨unraised, unpublished⟩
        · rw [show (server.session other).isClosed = true from closed] at notClosed
          cases notClosed
        · simp [view, List.count_eq_zero.mpr unraised, List.count_eq_zero.mpr unpublished]
      have swept := (inv.sound other).swept due none_left
      simpa [view, SocketServer.due] using swept
    · rw [view_modify_of_ne same]
      exact inv.sound other
  · intro stored rest phaseEq
    cases phaseEq
    exact fun _ mem => subset (List.mem_cons_of_mem _ mem)

theorem Inv.update (inv : server.Inv) {remaining : List SessionId}
    (phase : server.phase = UpdatePhase.updating (id :: remaining)) {endFirst : Bool}
    (inTime : server.timely (Action.update endFirst) = true) :
    ({ updateSession endFirst id server with
      phase := UpdatePhase.updating remaining } : SocketServer).Inv := by
  simp only [timely, phase, Bool.and_eq_true, Bool.or_eq_true, Bool.not_eq_true'] at inTime
  have last : endFirst = true → server.endsLast id = true := by
    intro now
    rcases inTime.2 with no | yes
    · rw [now] at no
      cases no
    · exact yes
  rcases sound_updateSession inv.sound inTime.1 last with ⟨failure, others, sound, quiet⟩
  constructor
  · exact failure.trans inv.running
  · intro other
    rw [view_phase]
    by_cases same : other = id
    · subst same
      exact sound.of_due fun _ _ => Or.inl quiet
    · apply ((inv.sound other).of_lapses (others other same)).of_due
      intro _ due
      rcases others other same with ⟨_, _, _, viewEq, _⟩
      rw [viewEq] at due
      change other ∈ server.phase.due at due
      rw [phase] at due
      rcases List.mem_cons.mp due with here | later
      · exact absurd here same
      · exact Or.inr later
  · intro sessions rest phaseEq
    cases phaseEq

theorem Inv.accept (inv : server.Inv) (unaccepted : id ∉ server.accepted) :
    ({ server.modify id fun _ => Session.fresh with
      accepted := id :: server.accepted } : SocketServer).Inv := by
  constructor
  · exact inv.running
  · intro other
    by_cases same : other = id
    · subst same
      have sound := inv.sound other
      have unstarted := (sound.unaccepted unaccepted).1
      have fresh := sound.dispatched_of_unstarted unstarted
      have none_raised : server.parent.count (other, SessionEvent.sessionStart) = 0 := by
        have bound := sound.starts
        rw [unstarted, if_neg Bool.false_ne_true] at bound
        simp only [view] at bound
        omega
      have unconnected : server.connected other = false := by
        cases connected : server.connected other with
        | false => rfl
        | true => exact absurd fresh (sound.connected connected)
      constructor <;> simp [view, Session.fresh, none_raised, Consumed]
      exact unconnected
    · have unchanged := inv.sound other
      simpa [view, due, connected, modify_session_of_ne _ same, same] using unchanged
  · exact inv.remaining

/-- A step that comes in time keeps the invariant. -/
theorem Inv.step (inv : server.Inv) {action : Action} (inTime : server.timely action = true)
    (stepEq : server.step action = some next) : next.Inv := by
  have running : server.failure.isSome = false := by
    rw [inv.running]
    rfl
  unfold SocketServer.step at stepEq
  rw [running, if_neg Bool.false_ne_true] at stepEq
  cases action with
  | dispatchParent =>
      simp only [Option.ite_none_right_eq_some, Option.some.injEq] at stepEq
      rcases stepEq with ⟨idle, rfl⟩
      exact inv.dispatchParent idle
  | lock sessions =>
      simp only [Option.ite_none_right_eq_some, Option.some.injEq] at stepEq
      rcases stepEq with ⟨⟨dispatched, _⟩, rfl⟩
      exact inv.lock dispatched sessions
  | sweep =>
      simp only at stepEq
      split at stepEq
      · rename_i phase
        cases stepEq
        exact inv.sweep phase inTime
      · rename_i phase
        cases stepEq
        constructor
        · exact inv.running
        · intro id
          have same := inv.sound id
          simpa [view, due, phase, UpdatePhase.due, connected] using same
        · intro sessions remaining phaseEq
          cases phaseEq
      · cases stepEq
  | update endFirst =>
      simp only at stepEq
      split at stepEq
      · rename_i phase
        cases stepEq
        exact inv.update phase inTime
      · cases stepEq
  | unlock =>
      simp only [Option.ite_none_right_eq_some, Option.some.injEq] at stepEq
      rcases stepEq with ⟨phase, rfl⟩
      constructor
      · exact inv.running
      · intro id
        have same := inv.sound id
        simpa [view, due, phase, UpdatePhase.due, connected] using same
      · intro sessions remaining phaseEq
        cases phaseEq
  | accept id =>
      simp only [Option.ite_none_right_eq_some, Option.some.injEq] at stepEq
      rcases stepEq with ⟨⟨_, unaccepted⟩, rfl⟩
      exact inv.accept unaccepted
  | raise id event =>
      simp only [Option.ite_none_right_eq_some, Option.some.injEq] at stepEq
      rcases stepEq with ⟨⟨_, able⟩, rfl⟩
      exact ⟨inv.running, sound_raised inv.sound able inTime, inv.remaining⟩
  | publish id event =>
      simp only [Option.ite_none_right_eq_some, Option.some.injEq] at stepEq
      rcases stepEq with ⟨waiting, rfl⟩
      refine ⟨inv.running, fun other => ?_, inv.remaining⟩
      rw [view_publish waiting]
      exact inv.sound other
  | markClosed id =>
      simp only [Option.ite_none_right_eq_some, Option.some.injEq] at stepEq
      rcases stepEq with ⟨⟨_, closed⟩, rfl⟩
      refine ⟨inv.running, fun other => ?_, inv.remaining⟩
      apply (inv.sound other).of_lapses
      by_cases same : other = id
      · subst same
        refine ⟨false, true, server.connected other, ?_, by simp, fun now => now⟩
        simp [view, due, closed]
      · rw [view_modify_of_ne same]
        exact SessionView.Lapses.refl _

/-- Every message received on a session is dispatched once and in order, the first one to the
handler for the remote's id and the others to the remote message handler; none is left behind
when the session is removed, and every start event finds its session. -/
structure HandsOver (server : SocketServer) : Prop where
  running : server.failure = none
  inOrder : ∀ id, (server.session id).dispatched.map Prod.fst ++
    messagesOf (server.session id).queue = (server.session id).received
  consumed : ∀ id, Consumed (server.session id).dispatched
  removed : ∀ id, server.phase = UpdatePhase.idle → (server.session id).inServer = false →
    messagesOf (server.session id).queue = []

theorem Inv.handsOver (inv : server.Inv) : server.HandsOver := by
  constructor
  · exact inv.running
  · exact fun id => (inv.sound id).inOrder
  · exact fun id => (inv.sound id).consumed
  · intro id idle removed
    rcases (inv.sound id).removed removed with quiet | due
    · exact quiet
    · change id ∈ server.phase.due at due
      rw [idle] at due
      cases due

end SocketServer

end VoxelEngine.ClientServer
