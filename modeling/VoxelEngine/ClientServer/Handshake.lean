import Mathlib.Data.List.Infix
import VoxelEngine.ClientServer.ServerHandshake

/-!
# Handshakes on both sides of a connection

A client waits for the remote's id on its own queue, which it drains before that of its
session; the handler for the messages of the session is added with it.  Messages that arrive
between the two, or before a server has dispatched the start of a session, find no handler.
Where that does not happen both sides hand over every message to the handler it is for.
-/

namespace VoxelEngine.ClientServer

open VoxelEngine.Transition

/-- A client that was set up by `connect_remote`: its session, the events in its own queue,
its handler for the message with the remote's id, the messages this has handled, and whether
the remote message handler exists. -/
structure SocketClient where
  session : Session
  parent : List SessionEvent
  handshake : Bool
  identified : List Bytes
  connected : Bool
  /-- The queue of the client was drained, and that of its session was not yet. -/
  updating : Bool
  failure : Option HandshakeFailure

namespace SocketClient

/-- The client has connected, and its session was not started. -/
def start : SocketClient :=
  ⟨Session.fresh, [], true, [], false, false, none⟩

/-- Dispatch an event on the client.  Its only handler is for the first message. -/
def invokeParent (client : SocketClient) (event : SessionEvent) : SocketClient :=
  match client.handshake, event with
  | true, SessionEvent.messageReceived message =>
      match remoteIdOf message with
      | none => { client with failure := some HandshakeFailure.malformedId }
      | some _ =>
          { client with
            handshake := false
            identified := client.identified ++ [message]
            connected := true }
  | _, _ => client

/-- `socket_session::update`; the session of a client has handlers for messages only. -/
def updateSession (client : SocketClient) : SocketClient :=
  let consumers := if client.connected then [MessageConsumer.remoteMessageHandler] else []
  { client with
    session :=
      { client.session with
        queue := []
        dispatched := client.session.dispatched ++
          (messagesOf client.session.queue).map fun message => (message, consumers) } }

/-- The steps of the main thread and of the threads that serve the socket. -/
inductive Action where
  /-- `dispatcher_t::dispatch_events` of the client. -/
  | dispatchParent
  | update
  /-- The first half of `socket_session::dispatch_event`. -/
  | raise (event : SessionEvent)
  /-- Its second half. -/
  | publish (event : SessionEvent)
  /-- The end of `socket_session::stop`. -/
  | markClosed

/-- One step. -/
def step (client : SocketClient) (action : Action) : Option SocketClient :=
  if client.failure.isSome then none
  else
    match action with
    | Action.dispatchParent =>
        if client.updating then none
        else
          some { client.parent.foldl invokeParent { client with parent := [] } with
            updating := true }
    | Action.update =>
        if client.updating then some { client.updateSession with updating := false } else none
    | Action.raise event =>
        if client.session.canRaise event then
          some { client with session := client.session.raised event }
        else none
    | Action.publish event =>
        if event ∈ client.session.unpublished then
          some { client with
            session :=
              { client.session with unpublished := client.session.unpublished.erase event }
            parent := client.parent ++ [event] }
        else none
    | Action.markClosed =>
        if client.session.socketOpen = false then
          some { client with session := { client.session with isClosed := true } }
        else none

/-- The step comes in time: the first message is long enough to hold an id, and messages
after it are dispatched on the session when the client has dispatched the first. -/
def timely (client : SocketClient) : Action → Bool
  | Action.dispatchParent =>
      match client.handshake, messagesOf client.parent with
      | true, first :: _ => (remoteIdOf first).isSome
      | _, _ => true
  | Action.update =>
      client.connected ||
        client.session.dispatched.length + (messagesOf client.session.queue).length ≤ 1
  | _ => true

/-- Every message received on the session is dispatched once and in order; the first one is
handled as the remote's id, and all others by the remote message handler. -/
structure HandsOver (client : SocketClient) : Prop where
  running : client.failure = none
  inOrder : client.session.dispatched.map Prod.fst ++ messagesOf client.session.queue =
    client.session.received
  identified : client.identified <+: client.session.received.take 1
  passed : ∀ entry ∈ client.session.dispatched.tail,
    entry.2 = [MessageConsumer.remoteMessageHandler]

/-- The invariant of runs whose steps come in time.  Until the client has handled the first
message it has dispatched none, and the others follow one by one. -/
structure Inv (client : SocketClient) : Prop where
  handsOver : client.HandsOver
  waiting : client.handshake = true →
    client.identified = [] ∧
      messagesOf client.parent ++ messagesOf client.session.unpublished =
        client.session.received
  connected : client.handshake = false → client.connected = true
  single : (messagesOf client.session.unpublished).length ≤ 1

variable {client next : SocketClient}

theorem inv_start : Inv start := by
  constructor
  · constructor
    · rfl
    · rfl
    · exact List.nil_prefix
    · intro entry mem
      cases mem
  · intro _
    exact ⟨rfl, rfl⟩
  · intro handled
    cases handled
  · exact Nat.zero_le 1

theorem foldl_invokeParent_handled (handled : client.handshake = false)
    (events : List SessionEvent) : events.foldl invokeParent client = client := by
  induction events with
  | nil => rfl
  | cons event rest ih =>
      have same : invokeParent client event = client := by
        unfold invokeParent
        rw [handled]
      rw [List.foldl_cons, same, ih]

theorem invokeParent_other {event : SessionEvent} (other : messagesOf [event] = []) :
    invokeParent client event = client := by
  cases event with
  | messageReceived message => cases other
  | _ =>
      unfold invokeParent
      cases client.handshake <;> rfl

theorem foldl_invokeParent_quiet {events : List SessionEvent} (quiet : messagesOf events = []) :
    events.foldl invokeParent client = client := by
  induction events with
  | nil => rfl
  | cons event rest ih =>
      rw [← List.singleton_append, messagesOf_append, List.append_eq_nil_iff] at quiet
      rw [List.foldl_cons, invokeParent_other quiet.1, ih quiet.2]

/-- The client handles the first message and no others. -/
theorem foldl_invokeParent_first {events : List SessionEvent} {first : Bytes} {rest : List Bytes}
    {remote : InstanceId} (messages : messagesOf events = first :: rest)
    (handshake : client.handshake = true) (identified : remoteIdOf first = some remote) :
    events.foldl invokeParent client =
      { client with
        handshake := false
        identified := client.identified ++ [first]
        connected := true } := by
  induction events with
  | nil => cases messages
  | cons event events ih =>
      rw [List.foldl_cons]
      cases event with
      | messageReceived message =>
          have same : message = first := (List.cons.inj messages).1
          have handled : invokeParent client (SessionEvent.messageReceived message) =
              { client with
                handshake := false
                identified := client.identified ++ [first]
                connected := true } := by
            rw [same]
            simp [invokeParent, handshake, identified]
          rw [handled]
          exact foldl_invokeParent_handled rfl events
      | sessionStart =>
          rw [invokeParent_other rfl]
          exact ih messages
      | sessionEnd =>
          rw [invokeParent_other rfl]
          exact ih messages
      | sessionError =>
          rw [invokeParent_other rfl]
          exact ih messages

/-- A step that drains the queue of the client. -/
theorem Inv.dispatchParent (inv : client.Inv)
    (inTime : client.timely Action.dispatchParent = true) :
    ({ client.parent.foldl invokeParent { client with parent := [] } with
      updating := true } : SocketClient).Inv := by
  generalize emptiedEq : ({ client with parent := [] } : SocketClient) = emptied
  have emptied_inv : emptied.handshake = client.handshake ∧ emptied.HandsOver ∧
      (emptied.handshake = false → emptied.connected = true) ∧
      emptied.parent = [] ∧ emptied.session = client.session ∧
      emptied.identified = client.identified := by
    rw [← emptiedEq]
    exact ⟨rfl, ⟨inv.handsOver.running, inv.handsOver.inOrder, inv.handsOver.identified,
      inv.handsOver.passed⟩, inv.connected, rfl, rfl, rfl⟩
  rcases emptied_inv with ⟨same, handsOver, connected, drained, session, identifiedEq⟩
  cases handshake : client.handshake with
  | false =>
      rw [handshake] at same
      rw [foldl_invokeParent_handled same]
      refine ⟨?_, fun now => ?_, connected, ?_⟩
      · exact ⟨handsOver.running, handsOver.inOrder, handsOver.identified, handsOver.passed⟩
      · simp only [same] at now
        cases now
      · simp only [session]
        exact inv.single
  | true =>
      rw [handshake] at same
      rcases inv.waiting handshake with ⟨unidentified, waiting⟩
      cases messages : messagesOf client.parent with
      | nil =>
          rw [foldl_invokeParent_quiet messages]
          rw [messages] at waiting
          refine ⟨?_, fun _ => ⟨identifiedEq.trans unidentified, ?_⟩, connected, ?_⟩
          · exact ⟨handsOver.running, handsOver.inOrder, handsOver.identified, handsOver.passed⟩
          · simp only [drained, session]
            exact waiting
          · simp only [session]
            exact inv.single
      | cons first rest =>
          simp only [timely, handshake, messages, Option.isSome_iff_exists] at inTime
          rcases inTime with ⟨remote, identified⟩
          rw [foldl_invokeParent_first messages same identified]
          have received : client.session.received =
              first :: (rest ++ messagesOf client.session.unpublished) := by
            rw [← waiting, messages]
            rfl
          refine ⟨?_, fun now => (Bool.false_ne_true now).elim, fun _ => rfl, ?_⟩
          · refine ⟨handsOver.running, handsOver.inOrder, ?_, handsOver.passed⟩
            simp [session, received, identifiedEq, unidentified]
          · simp only [session]
            exact inv.single

/-- A step that drains the queue of the session. -/
theorem Inv.update (inv : client.Inv) (inTime : client.timely Action.update = true) :
    ({ client.updateSession with updating := false } : SocketClient).Inv := by
  refine ⟨?_, inv.waiting, inv.connected, inv.single⟩
  constructor
  · exact inv.handsOver.running
  · have fst_eq : ∀ consumers : List MessageConsumer,
        ((messagesOf client.session.queue).map fun message => (message, consumers)).map Prod.fst =
          messagesOf client.session.queue := by
      intro consumers
      simp [Function.comp_def]
    have inOrder := inv.handsOver.inOrder
    simp only [updateSession, List.map_append, fst_eq, messagesOf_nil, List.append_nil]
    exact inOrder
  · exact inv.handsOver.identified
  · intro entry mem
    simp only [timely, Bool.or_eq_true, decide_eq_true_eq] at inTime
    simp only [updateSession] at mem
    rcases inTime with connected | short
    · rw [if_pos connected] at mem
      cases dispatched : client.session.dispatched with
      | nil =>
          rw [dispatched, List.nil_append] at mem
          rcases List.mem_map.mp (List.mem_of_mem_tail mem) with ⟨message, _, rfl⟩
          rfl
      | cons head later =>
          rw [dispatched, List.cons_append, List.tail_cons] at mem
          rcases List.mem_append.mp mem with old | new
          · apply inv.handsOver.passed
            rw [dispatched]
            exact old
          · rcases List.mem_map.mp new with ⟨message, _, rfl⟩
            rfl
    · have empty := List.length_pos_of_mem mem
      simp only [List.length_tail, List.length_append, List.length_map] at empty
      omega

end SocketClient

/-- Erasing an event erases its message, if there is no other. -/
theorem messagesOf_erase {events : List SessionEvent} {event : SessionEvent}
    (mem : event ∈ events) (single : (messagesOf events).length ≤ 1) :
    messagesOf [event] ++ messagesOf (events.erase event) = messagesOf events := by
  have perm : (messagesOf events).Perm (messagesOf [event] ++ messagesOf (events.erase event)) := by
    rw [← messagesOf_append]
    exact (List.perm_cons_erase mem).filterMap _
  cases messages : messagesOf events with
  | nil =>
      rw [messages] at perm
      exact perm.nil_eq.symm
  | cons message rest =>
      rw [messages, List.length_cons] at single
      have last : rest = [] := List.eq_nil_of_length_eq_zero (by omega)
      rw [messages, last] at perm
      rw [last]
      exact (List.singleton_perm.mp perm).symm

/-- A session that can raise an event has published its last message. -/
theorem single_of_canRaise {session : Session} {event : SessionEvent}
    (single : (messagesOf session.unpublished).length ≤ 1)
    (able : session.canRaise event = true) :
    (messagesOf session.unpublished).length + (messagesOf [event]).length ≤ 1 := by
  cases event with
  | messageReceived message =>
      simp only [Session.canRaise, Bool.and_eq_true, List.all_eq_true] at able
      have published : messagesOf session.unpublished = [] := by
        apply List.filterMap_eq_nil_iff.mpr
        intro event mem
        have quiet := (able.2 event mem).2
        cases event with
        | messageReceived message => cases quiet
        | _ => rfl
      rw [published]
      exact Nat.le_refl 1
  | _ => exact single

namespace SocketClient

variable {client next : SocketClient}

/-- A step that comes in time keeps the invariant. -/
theorem Inv.step (inv : client.Inv) {action : Action} (inTime : client.timely action = true)
    (stepEq : client.step action = some next) : next.Inv := by
  have running : client.failure.isSome = false := by
    rw [inv.handsOver.running]
    rfl
  unfold SocketClient.step at stepEq
  rw [running, if_neg Bool.false_ne_true] at stepEq
  cases action with
  | dispatchParent =>
      simp only [Option.ite_none_left_eq_some, Option.some.injEq] at stepEq
      rcases stepEq with ⟨_, rfl⟩
      exact inv.dispatchParent inTime
  | update =>
      simp only [Option.ite_none_right_eq_some, Option.some.injEq] at stepEq
      rcases stepEq with ⟨_, rfl⟩
      exact inv.update inTime
  | raise event =>
      simp only [Option.ite_none_right_eq_some, Option.some.injEq] at stepEq
      rcases stepEq with ⟨able, rfl⟩
      have inOrder := inv.handsOver.inOrder
      refine ⟨?_, fun handshake => ⟨(inv.waiting handshake).1, ?_⟩, inv.connected, ?_⟩
      · constructor
        · exact inv.handsOver.running
        · simp only [Session.raised, messagesOf_append]
          rw [← List.append_assoc, inOrder]
        · apply inv.handsOver.identified.trans
          exact List.IsPrefix.take (List.prefix_append _ _) 1
        · exact inv.handsOver.passed
      · simp only [Session.raised, messagesOf_append]
        rw [← List.append_assoc, (inv.waiting handshake).2]
      · simp only [Session.raised, messagesOf_append, List.length_append]
        exact single_of_canRaise inv.single able
  | publish event =>
      simp only [Option.ite_none_right_eq_some, Option.some.injEq] at stepEq
      rcases stepEq with ⟨waiting, rfl⟩
      have erased := messagesOf_erase waiting inv.single
      refine ⟨?_, fun handshake => ⟨(inv.waiting handshake).1, ?_⟩, inv.connected, ?_⟩
      · exact ⟨inv.handsOver.running, inv.handsOver.inOrder, inv.handsOver.identified,
          inv.handsOver.passed⟩
      · simp only [messagesOf_append]
        rw [List.append_assoc, erased]
        exact (inv.waiting handshake).2
      · have single := inv.single
        rw [← erased, List.length_append] at single
        simp only
        omega
  | markClosed =>
      simp only [Option.ite_none_right_eq_some, Option.some.injEq] at stepEq
      rcases stepEq with ⟨_, rfl⟩
      exact ⟨⟨inv.handsOver.running, inv.handsOver.inOrder, inv.handsOver.identified,
        inv.handsOver.passed⟩, inv.waiting, inv.connected, inv.single⟩

end SocketClient

/-- In runs whose steps come in time, servers and clients take the remote's id from the first
message of a session and pass all later messages on, once and in order. -/
theorem handsOver_of_timely (served : List SocketServer.Action)
    (connected : List SocketClient.Action) :
    (∀ final,
      Guarded SocketServer.step (fun server action => server.timely action = true)
        SocketServer.start served →
      run SocketServer.step SocketServer.start served = some final → final.HandsOver) ∧
    ∀ final,
      Guarded SocketClient.step (fun client action => client.timely action = true)
        SocketClient.start connected →
      run SocketClient.step SocketClient.start connected = some final → final.HandsOver := by
  constructor
  · intro final inTime runEq
    have inv : final.Inv :=
      run_invariant (fun _ _ _ inv here stepEq => inv.step here stepEq) SocketServer.inv_start
        inTime runEq
    exact inv.handsOver
  · intro final inTime runEq
    have inv : final.Inv :=
      run_invariant (fun _ _ _ inv here stepEq => inv.step here stepEq) SocketClient.inv_start
        inTime runEq
    exact inv.handsOver

section Example

/-- The message with the id of an instance, after `make_message_ignored`. -/
def idMessage : Bytes :=
  List.replicate 16 7 ++ [1, 0]

/-- A session is accepted and started, and its first message received. -/
def opened (id : SessionId) : List SocketServer.Action :=
  [SocketServer.Action.accept id,
    SocketServer.Action.raise id SessionEvent.sessionStart,
    SocketServer.Action.publish id SessionEvent.sessionStart,
    SocketServer.Action.raise id (SessionEvent.messageReceived idMessage),
    SocketServer.Action.publish id (SessionEvent.messageReceived idMessage)]

/-- The main thread drains the queue of the server, then that of the only session. -/
def updated (between : List SocketServer.Action) : List SocketServer.Action :=
  SocketServer.Action.dispatchParent :: between ++
    [SocketServer.Action.lock [1], SocketServer.Action.sweep, SocketServer.Action.sweep,
      SocketServer.Action.update false, SocketServer.Action.unlock]

/-- The session is closed before it is locked. -/
def closed : List SocketServer.Action :=
  opened 1 ++ [SocketServer.Action.raise 1 SessionEvent.sessionEnd,
    SocketServer.Action.markClosed 1]

/-- The client receives two messages. -/
def answered : List SocketClient.Action :=
  [SocketClient.Action.raise SessionEvent.sessionStart,
    SocketClient.Action.publish SessionEvent.sessionStart,
    SocketClient.Action.raise (SessionEvent.messageReceived idMessage),
    SocketClient.Action.publish (SessionEvent.messageReceived idMessage),
    SocketClient.Action.raise (SessionEvent.messageReceived [9, 2, 0])]

/-- A session that is accepted while the server is being updated loses its first message, and
one that is closed as well is not found by its start event; a client that receives two
messages while it is being updated loses the second. -/
theorem handover_fails :
    (∃ final, run SocketServer.step SocketServer.start (updated (opened 1)) = some final ∧
      (final.session 1).dispatched = [(idMessage, [])] ∧ ¬ final.HandsOver) ∧
    (∃ final, run SocketServer.step SocketServer.start
        (updated closed ++ [SocketServer.Action.dispatchParent]) = some final ∧
      final.failure = some HandshakeFailure.sessionNotFound ∧ ¬ final.HandsOver) ∧
    ∃ final, run SocketClient.step SocketClient.start
        (SocketClient.Action.dispatchParent :: answered ++ [SocketClient.Action.update]) =
          some final ∧
      final.session.dispatched = [(idMessage, []), ([9, 2, 0], [])] ∧ ¬ final.HandsOver := by
  have unheard : (run SocketServer.step SocketServer.start (updated (opened 1))).map
      (fun final => (final.session 1).dispatched) = some [(idMessage, [])] := by
    decide +kernel
  have missing : (run SocketServer.step SocketServer.start
      (updated closed ++ [SocketServer.Action.dispatchParent])).map SocketServer.failure =
        some (some HandshakeFailure.sessionNotFound) := by
    decide +kernel
  have lost : (run SocketClient.step SocketClient.start
      (SocketClient.Action.dispatchParent :: answered ++ [SocketClient.Action.update])).map
        (fun final => final.session.dispatched) = some [(idMessage, []), ([9, 2, 0], [])] := by
    decide +kernel
  refine ⟨?_, ?_, ?_⟩
  · rcases Option.map_eq_some_iff.mp unheard with ⟨final, runEq, dispatched⟩
    refine ⟨final, runEq, dispatched, fun handsOver => ?_⟩
    have consumed := handsOver.consumed 1
    rw [dispatched] at consumed
    cases consumed.1
  · rcases Option.map_eq_some_iff.mp missing with ⟨final, runEq, failed⟩
    refine ⟨final, runEq, failed, fun handsOver => ?_⟩
    rw [handsOver.running] at failed
    cases failed
  · rcases Option.map_eq_some_iff.mp lost with ⟨final, runEq, dispatched⟩
    refine ⟨final, runEq, dispatched, fun handsOver => ?_⟩
    have passed := handsOver.passed ([9, 2, 0], [])
    rw [dispatched] at passed
    cases passed (List.mem_cons_self)

/-- A message follows the first one. -/
def followed : List SocketServer.Action :=
  [SocketServer.Action.raise 1 (SessionEvent.messageReceived [9, 2, 0]),
    SocketServer.Action.publish 1 (SessionEvent.messageReceived [9, 2, 0])]

/-- A server whose session has started before it is updated, and a client that has received
its first message before. -/
theorem handsOver_opened :
    (∃ final, run SocketServer.step SocketServer.start
        (opened 1 ++ updated [] ++ followed ++ updated []) = some final ∧
      (final.session 1).dispatched =
        [(idMessage, [MessageConsumer.handshake]),
          ([9, 2, 0], [MessageConsumer.remoteMessageHandler])] ∧ final.HandsOver) ∧
    ∃ final, run SocketClient.step SocketClient.start
        (answered ++ [SocketClient.Action.dispatchParent, SocketClient.Action.update]) =
          some final ∧ final.HandsOver := by
  have served : (run SocketServer.step SocketServer.start
      (opened 1 ++ updated [] ++ followed ++ updated [])).map
        (fun final => (final.session 1).dispatched) =
          some [(idMessage, [MessageConsumer.handshake]),
            ([9, 2, 0], [MessageConsumer.remoteMessageHandler])] := by
    decide +kernel
  have connected : (run SocketClient.step SocketClient.start
      (answered ++ [SocketClient.Action.dispatchParent, SocketClient.Action.update])).map
        SocketClient.connected = some true := by
    decide +kernel
  rcases Option.map_eq_some_iff.mp served with ⟨server, serverRun, dispatched⟩
  rcases Option.map_eq_some_iff.mp connected with ⟨client, clientRun, _⟩
  constructor
  · exact ⟨server, serverRun, dispatched,
      (handsOver_of_timely _ []).1 _ (by decide +kernel) serverRun⟩
  · exact ⟨client, clientRun, (handsOver_of_timely [] _).2 _ (by decide +kernel) clientRun⟩

end Example

end VoxelEngine.ClientServer
