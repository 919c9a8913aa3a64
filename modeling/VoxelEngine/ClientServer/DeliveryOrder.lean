import VoxelEngine.ClientServer.LocalConnection
import VoxelEngine.Transition.Run

/-!
# Order of delivery on local connections

What one side sent is what the other side handled, followed by what still waits: in the
other side's read queue or its replay, and then in the own write queue or its remainder.
Messages keep their order and get through as long as none is sent or received past others
that wait, none is put into a queue that is about to be emptied, and no queue is switched
off again while that is being done.
-/

namespace VoxelEngine.ClientServer

open VoxelEngine.Transition

variable {M : Type} {isCore : MtrId → Bool}

/-! ## One direction -/

/-- Messages of types that are not core types come after the announcement of their type. -/
def Announced (isCore : MtrId → Bool) (messages : List (LocalMessage M)) : Prop :=
  ∀ before type body after, messages = before ++ LocalMessage.message type body :: after →
    isCore type = true ∨ LocalMessage.syncMtr type ∈ before

/-- The messages in one direction, some of which may be on their way: `front` are about to be
handled, and `back` are about to arrive.  The remainders of the queues replace the queues
while they are being emptied. -/
structure Flow (isCore : MtrId → Bool) (outgoing : Outgoing M) (sending : Bool)
    (unwritten : Option (List (LocalMessage M))) (incoming : Incoming M) (receiving : Bool)
    (unread : Option (List (LocalMessage M))) (front back : List (LocalMessage M)) : Prop where
  stream : outgoing.sent = incoming.delivered ++ front ++ unread.getD incoming.readQueue ++
    back ++ unwritten.getD outgoing.writeQueue
  writeIdle : sending = false → unwritten = none → outgoing.writeQueue = []
  readIdle : receiving = false → unread = none → incoming.readQueue = []
  announced : Announced isCore outgoing.sent
  published : ∀ type ∈ outgoing.publishedTypes, LocalMessage.syncMtr type ∈ outgoing.sent
  registered : ∀ type, LocalMessage.syncMtr type ∈ incoming.delivered →
    type ∈ incoming.remoteTypes
  ignored : incoming.ignored = []

theorem Announced.concat {messages : List (LocalMessage M)} (announced : Announced isCore messages)
    {message : LocalMessage M}
    (known : ∀ type body, message = LocalMessage.message type body →
      isCore type = true ∨ LocalMessage.syncMtr type ∈ messages) :
    Announced isCore (messages ++ [message]) := by
  intro before type body after eq
  rcases List.eq_nil_or_concat after with rfl | ⟨front, last, rfl⟩
  · rcases List.append_inj' eq rfl with ⟨rfl, same⟩
    exact known type body (List.singleton_inj.mp same)
  · have shifted : messages ++ [message] =
        (before ++ LocalMessage.message type body :: front) ++ [last] := by
      rw [eq]
      simp
    exact announced before type body front (List.append_inj' shifted rfl).1

namespace Flow

variable {outgoing : Outgoing M} {incoming : Incoming M} {sending receiving : Bool}
variable {unwritten unread : Option (List (LocalMessage M))}
variable {front back : List (LocalMessage M)} {message : LocalMessage M}

/-- A sender that is queueing keeps the message for later. -/
theorem queueWrite (flow : Flow isCore outgoing true none incoming receiving unread [] [])
    (known : ∀ type body, message = LocalMessage.message type body →
      isCore type = true ∨ LocalMessage.syncMtr type ∈ outgoing.sent) :
    Flow isCore
      { outgoing with
        writeQueue := outgoing.writeQueue ++ [message]
        sent := outgoing.sent ++ [message] }
      true none incoming receiving unread [] [] := by
  refine { flow with
    stream := ?_, writeIdle := ?_, announced := flow.announced.concat known, published := ?_ }
  · have stream := flow.stream
    simp only [Option.getD_none] at stream ⊢
    rw [stream]
    simp
  · intro off
    cases off
  · intro type mem
    exact List.mem_append_left _ (flow.published type mem)

/-- A message that is sent at once comes after everything that waits on the other side. -/
theorem transmit (flow : Flow isCore outgoing false unwritten incoming receiving unread [] [])
    (flushed : unwritten.getD [] = [])
    (known : ∀ type body, message = LocalMessage.message type body →
      isCore type = true ∨ LocalMessage.syncMtr type ∈ outgoing.sent) :
    Flow isCore { outgoing with sent := outgoing.sent ++ [message] } false unwritten incoming
      receiving unread [] [message] := by
  have waiting : unwritten.getD outgoing.writeQueue = [] := by
    cases unwritten with
    | none => exact flow.writeIdle rfl rfl
    | some writes => exact flushed
  refine { flow with stream := ?_, announced := flow.announced.concat known, published := ?_ }
  · have stream := flow.stream
    rw [waiting] at stream ⊢
    rw [stream]
    simp
  · intro type mem
    exact List.mem_append_left _ (flow.published type mem)

/-- A receiver that is queueing keeps the message for later. -/
theorem queueRead (flow : Flow isCore outgoing sending unwritten incoming true none [] [message]) :
    Flow isCore outgoing sending unwritten
      { incoming with readQueue := incoming.readQueue ++ [message] } true none [] [] := by
  refine { flow with stream := ?_, readIdle := ?_ }
  · have stream := flow.stream
    simp only [Option.getD_none] at stream ⊢
    rw [stream]
    simp
  · intro off
    cases off

/-- A message that arrives when nothing else waits is the next one. -/
theorem arrive (flow : Flow isCore outgoing sending unwritten incoming false unread [] [message])
    (replayed : unread.getD [] = []) :
    Flow isCore outgoing sending unwritten incoming false unread [message] [] := by
  have waiting : unread.getD incoming.readQueue = [] := by
    cases unread with
    | none => exact flow.readIdle rfl rfl
    | some reads => exact replayed
  refine { flow with stream := ?_ }
  have stream := flow.stream
  rw [waiting] at stream ⊢
  rw [stream]
  simp

/-- The type of the next message is known. -/
theorem isKnown (flow : Flow isCore outgoing sending unwritten incoming receiving unread
      [message] back) : LocalConnection.isKnown isCore incoming message = true := by
  cases message with
  | syncMtr type => rfl
  | message type body =>
      have split : outgoing.sent = incoming.delivered ++ LocalMessage.message type body ::
          (unread.getD incoming.readQueue ++ back ++ unwritten.getD outgoing.writeQueue) := by
        rw [flow.stream]
        simp
      rw [LocalConnection.isKnown, Bool.or_eq_true, decide_eq_true_eq]
      rcases flow.announced _ _ _ _ split with core | announced
      · exact Or.inl core
      · exact Or.inr (flow.registered type announced)

/-- The next message is handled. -/
theorem deliver (flow : Flow isCore outgoing sending unwritten incoming receiving unread
      [message] []) :
    Flow isCore outgoing sending unwritten (LocalConnection.deliver message incoming) receiving
      unread [] [] := by
  have delivered : (LocalConnection.deliver message incoming).delivered =
      incoming.delivered ++ [message] := by
    cases message <;> rfl
  have readQueue : (LocalConnection.deliver message incoming).readQueue =
      incoming.readQueue := by
    cases message <;> rfl
  refine { flow with stream := ?_, readIdle := ?_, registered := ?_, ignored := ?_ }
  · rw [delivered, readQueue, flow.stream]
    simp
  · rw [readQueue]
    exact flow.readIdle
  · intro type mem
    rw [delivered] at mem
    rcases List.mem_append.mp mem with old | new
    · cases message with
      | syncMtr other => exact List.mem_append_left _ (flow.registered type old)
      | message other body => exact flow.registered type old
    · rw [List.mem_singleton] at new
      subst new
      exact List.mem_append_right _ (List.mem_singleton_self type)
  · cases message <;> exact flow.ignored

/-- A type counts as published once its announcement was sent. -/
theorem publish (flow : Flow isCore outgoing sending unwritten incoming receiving unread
      front back) {type : MtrId} (sent : LocalMessage.syncMtr type ∈ outgoing.sent) :
    Flow isCore { outgoing with publishedTypes := outgoing.publishedTypes ++ [type] } sending
      unwritten incoming receiving unread front back := by
  refine { flow with published := ?_ }
  intro other mem
  rcases List.mem_append.mp mem with old | new
  · exact flow.published other old
  · rw [List.mem_singleton.mp new]
    exact sent

/-- Switching a queue on changes nothing that waits. -/
theorem enableSending (flow : Flow isCore outgoing sending unwritten incoming receiving unread
      front back) :
    Flow isCore outgoing true unwritten incoming receiving unread front back := by
  refine { flow with writeIdle := ?_ }
  intro off
  cases off

theorem enableReceiving (flow : Flow isCore outgoing sending unwritten incoming receiving unread
      front back) :
    Flow isCore outgoing sending unwritten incoming true unread front back := by
  refine { flow with readIdle := ?_ }
  intro off
  cases off

/-- Switching a queue off starts to send what it holds. -/
theorem beginWrite (flow : Flow isCore outgoing sending none incoming receiving unread
      front back) :
    Flow isCore outgoing false (some outgoing.writeQueue) incoming receiving unread front back := by
  refine { flow with stream := flow.stream, writeIdle := ?_ }
  intro _ idle
  cases idle

/-- Switching a queue off starts to replay what it holds. -/
theorem beginRead (flow : Flow isCore outgoing sending unwritten incoming receiving none
      front back) :
    Flow isCore outgoing sending unwritten incoming false (some incoming.readQueue) front
      back := by
  refine { flow with stream := flow.stream, readIdle := ?_ }
  intro _ idle
  cases idle

theorem takeRead {reads : List (LocalMessage M)}
    (flow : Flow isCore outgoing sending unwritten incoming receiving (some (message :: reads))
      [] []) :
    Flow isCore outgoing sending unwritten incoming receiving (some reads) [message] [] := by
  refine { flow with stream := ?_, readIdle := ?_ }
  · rw [flow.stream]
    simp
  · intro _ idle
    cases idle

theorem takeWrite {writes : List (LocalMessage M)}
    (flow : Flow isCore outgoing sending (some (message :: writes)) incoming receiving unread
      [] []) :
    Flow isCore outgoing sending (some writes) incoming receiving unread [] [message] := by
  refine { flow with stream := ?_, writeIdle := ?_ }
  · rw [flow.stream]
    simp
  · intro _ idle
    cases idle

/-- Everything was replayed. -/
theorem clearRead (flow : Flow isCore outgoing sending unwritten incoming receiving (some [])
      [] []) :
    Flow isCore outgoing sending unwritten { incoming with readQueue := [] } receiving none
      [] [] := by
  refine { flow with stream := flow.stream, readIdle := ?_ }
  exact fun _ _ => rfl

/-- Everything was sent. -/
theorem clearWrite (flow : Flow isCore outgoing sending (some []) incoming receiving unread
      [] []) :
    Flow isCore { outgoing with writeQueue := [] } sending none incoming receiving unread
      [] [] := by
  refine { flow with stream := flow.stream, writeIdle := ?_ }
  exact fun _ _ => rfl

end Flow

/-! ## Both directions -/

namespace LocalConnection

variable {connection : LocalConnection M} {side : Side} {message : LocalMessage M}

/-- Everything that waits on the receiving side has been replayed, or the message joins it. -/
def Receivable (connection : LocalConnection M) (side : Side) : Prop :=
  if (connection.handler side).useQueue then connection.unread side = none
  else (connection.unread side).getD [] = []

/-- The message can be kept, or nothing is left of what was written before. -/
def Sendable (connection : LocalConnection M) (side : Side) : Prop :=
  if (connection.handler side).useQueue then connection.unwritten side = none
  else (connection.unwritten side).getD [] = [] ∧ connection.Receivable side.other

/-- The messages from one side to the other. -/
def Direction (isCore : MtrId → Bool) (connection : LocalConnection M) (side : Side)
    (front back : List (LocalMessage M)) : Prop :=
  Flow isCore (connection.handler side).outgoing (connection.handler side).useQueue
    (connection.unwritten side) (connection.handler side.other).incoming
    (connection.handler side.other).useQueue (connection.unread side.other) front back

theorem current_of_toggles {first second : LocalConnection M}
    (toggles : first.toggles = second.toggles) (side : Side) :
    first.current side = second.current side := by
  rw [current, current, toggles]

/-- Invoking handlers does not end a call of `toggle_queue`. -/
theorem toggles_of_handlers {first second : LocalConnection M}
    (tasks : first.tasks = Task.handlers :: second.tasks) : first.toggles = second.toggles := by
  rw [toggles, toggles, tasks, List.filterMap_cons_none rfl]

theorem toggles_of_toggle {toggle : Toggle M} {tasks : List (Task M)}
    (tasksEq : connection.tasks = Task.toggle toggle :: tasks) :
    connection.toggles = toggle :: (connection.withTasks tasks).toggles := by
  rw [toggles, toggles, tasksEq]
  rfl

theorem current_of_toggle {toggle : Toggle M} {tasks : List (Task M)}
    (tasksEq : connection.tasks = Task.toggle toggle :: tasks) :
    connection.current toggle.side = some toggle := by
  rw [current, toggles_of_toggle tasksEq, List.find?_cons_of_pos (by simp)]

/-- A call of `toggle_queue` on one side is nothing to the other side. -/
theorem current_of_toggle_of_ne {toggle : Toggle M} {tasks : List (Task M)}
    (tasksEq : connection.tasks = Task.toggle toggle :: tasks) (ne : toggle.side ≠ side) :
    connection.current side = (connection.withTasks tasks).current side := by
  rw [current, toggles_of_toggle tasksEq, List.find?_cons_of_neg (by simp [ne]), current]

theorem current_eq_none_iff :
    connection.current side = none ↔ side ∉ connection.toggles.map Toggle.side := by
  simp [current, List.find?_eq_none]

section Toggling

variable {toggle : Toggle M} {tasks : List (Task M)}

theorem unwritten_of_toggle (tasksEq : connection.tasks = Task.toggle toggle :: tasks) :
    connection.unwritten toggle.side = some toggle.unwritten := by
  rw [unwritten, current_of_toggle tasksEq, Option.map_some]

theorem unread_of_toggle (tasksEq : connection.tasks = Task.toggle toggle :: tasks) :
    connection.unread toggle.side = toggle.unread := by
  rw [unread, current_of_toggle tasksEq, Option.bind_some]

theorem unwritten_of_toggle_of_ne (tasksEq : connection.tasks = Task.toggle toggle :: tasks)
    (ne : toggle.side ≠ side) :
    connection.unwritten side = (connection.withTasks tasks).unwritten side := by
  rw [unwritten, unwritten, current_of_toggle_of_ne tasksEq ne]

theorem unread_of_toggle_of_ne (tasksEq : connection.tasks = Task.toggle toggle :: tasks)
    (ne : toggle.side ≠ side) :
    connection.unread side = (connection.withTasks tasks).unread side := by
  rw [unread, unread, current_of_toggle_of_ne tasksEq ne]

variable {unread : Option (List (LocalMessage M))} {writes : List (LocalMessage M)}

/-- The messages from a side that is switching its queue off. -/
theorem direction_toggle_iff
    (tasksEq : connection.tasks = Task.toggle ⟨side, unread, writes⟩ :: tasks)
    {front back : List (LocalMessage M)} :
    Direction isCore connection side front back ↔
      Flow isCore (connection.handler side).outgoing (connection.handler side).useQueue
        (some writes) (connection.handler side.other).incoming
        (connection.handler side.other).useQueue
        ((connection.withTasks tasks).unread side.other) front back := by
  rw [Direction, unwritten_of_toggle tasksEq, unread_of_toggle_of_ne tasksEq side.other_ne.symm]

/-- The messages to a side that is switching its queue off. -/
theorem direction_toggle_other_iff
    (tasksEq : connection.tasks = Task.toggle ⟨side, unread, writes⟩ :: tasks)
    {front back : List (LocalMessage M)} :
    Direction isCore connection side.other front back ↔
      Flow isCore (connection.handler side.other).outgoing
        (connection.handler side.other).useQueue
        ((connection.withTasks tasks).unwritten side.other)
        (connection.handler side).incoming (connection.handler side).useQueue unread front
        back := by
  rw [Direction, Side.other_other, unread_of_toggle tasksEq,
    unwritten_of_toggle_of_ne tasksEq side.other_ne.symm]

/-- Going on with the same call leaves the sides that are switching their queues off. -/
theorem toggles_side_of_toggle
    (tasksEq : connection.tasks = Task.toggle toggle :: tasks) (next : Toggle M)
    (same : next.side = toggle.side) (other : LocalConnection M)
    (nextEq : other.tasks = Task.toggle next :: tasks) :
    other.toggles.map Toggle.side = connection.toggles.map Toggle.side := by
  rw [toggles_of_toggle tasksEq, toggles_of_toggle nextEq, List.map_cons, List.map_cons, same]
  rfl

end Toggling

/-! ### What receiving a message leaves alone -/

@[simp]
theorem onMessageReceived_toggles (connection : LocalConnection M) (side : Side)
    (message : LocalMessage M) :
    (onMessageReceived isCore side message connection).toggles = connection.toggles := by
  unfold onMessageReceived handleMessage
  split
  · rfl
  · split
    · cases message with
      | syncMtr type => rfl
      | message type body => exact toggles_of_handlers rfl
    · rfl

@[simp]
theorem onMessageReceived_current (other : Side) :
    (onMessageReceived isCore side message connection).current other =
      connection.current other :=
  current_of_toggles (onMessageReceived_toggles connection side message) other

@[simp]
theorem onMessageReceived_outgoing (other : Side) :
    ((onMessageReceived isCore side message connection).handler other).outgoing =
      (connection.handler other).outgoing := by
  unfold onMessageReceived handleMessage
  split
  · simp
  · split <;> simp

@[simp]
theorem onMessageReceived_useQueue (other : Side) :
    ((onMessageReceived isCore side message connection).handler other).useQueue =
      (connection.handler other).useQueue := by
  unfold onMessageReceived handleMessage
  split
  · simp
  · split <;> simp

theorem onMessageReceived_incoming_of_ne {other : Side} (ne : other ≠ side) :
    ((onMessageReceived isCore side message connection).handler other).incoming =
      (connection.handler other).incoming := by
  unfold onMessageReceived handleMessage
  split
  · simp [ne]
  · split <;> simp [ne]

/-- The other direction does not notice that a message is received. -/
theorem Direction.receive_other {front back : List (LocalMessage M)}
    (flow : Direction isCore connection side front back) (message : LocalMessage M) :
    Direction isCore (onMessageReceived isCore side message connection) side front back := by
  unfold Direction unwritten unread
  rw [onMessageReceived_current, onMessageReceived_current, onMessageReceived_outgoing,
    onMessageReceived_useQueue, onMessageReceived_useQueue,
      onMessageReceived_incoming_of_ne side.other_ne]
  exact flow

/-- The next message is handled, since its type is known. -/
theorem Direction.handle (flow : Direction isCore connection side [message] [])
    (off : (connection.handler side.other).useQueue = false) :
    Direction isCore (onMessageReceived isCore side.other message connection) side [] [] := by
  have handled : ((onMessageReceived isCore side.other message connection).handler
      side.other).incoming = deliver message (connection.handler side.other).incoming := by
    rw [onMessageReceived, if_neg (by rw [off]; decide), handleMessage, if_pos flow.isKnown]
    simp
  unfold Direction unwritten unread
  rw [onMessageReceived_current, onMessageReceived_current, onMessageReceived_outgoing,
    onMessageReceived_useQueue, onMessageReceived_useQueue, handled]
  exact flow.deliver

/-- A message that arrives in order is kept or handled. -/
theorem Direction.receive (flow : Direction isCore connection side [] [message])
    (receivable : connection.Receivable side.other) :
    Direction isCore (onMessageReceived isCore side.other message connection) side [] [] := by
  cases queueing : (connection.handler side.other).useQueue with
  | false =>
      rw [Receivable, queueing, if_neg Bool.false_ne_true] at receivable
      apply Direction.handle _ queueing
      unfold Direction at flow ⊢
      rw [queueing] at flow ⊢
      exact flow.arrive receivable
  | true =>
      rw [Receivable, queueing, if_pos rfl] at receivable
      have kept : ((onMessageReceived isCore side.other message connection).handler
          side.other).incoming = { (connection.handler side.other).incoming with
            readQueue := (connection.handler side.other).incoming.readQueue ++ [message] } := by
        rw [onMessageReceived, if_pos queueing]
        simp
      unfold Direction at flow ⊢
      unfold unwritten unread at *
      rw [onMessageReceived_current, onMessageReceived_current, onMessageReceived_outgoing,
        onMessageReceived_useQueue, onMessageReceived_useQueue, kept]
      rw [receivable, queueing] at flow ⊢
      exact flow.queueRead

/-! ### Sending -/

@[simp]
theorem emit_toggles (connection : LocalConnection M) (side : Side) (message : LocalMessage M) :
    (emit isCore side message connection).toggles = connection.toggles := by
  unfold emit
  split
  · rfl
  · exact onMessageReceived_toggles _ _ _

@[simp]
theorem emit_current (other : Side) :
    (emit isCore side message connection).current other = connection.current other :=
  current_of_toggles (emit_toggles connection side message) other

@[simp]
theorem emit_useQueue (other : Side) :
    ((emit isCore side message connection).handler other).useQueue =
      (connection.handler other).useQueue := by
  unfold emit
  split
  · simp
  · rw [onMessageReceived_useQueue]
    simp

theorem emit_outgoing_of_ne {other : Side} (ne : other ≠ side) :
    ((emit isCore side message connection).handler other).outgoing =
      (connection.handler other).outgoing := by
  unfold emit
  split
  · simp [ne]
  · rw [onMessageReceived_outgoing]
    simp [ne]

theorem emit_incoming_of_ne {other : Side} (ne : other ≠ side.other) :
    ((emit isCore side message connection).handler other).incoming =
      (connection.handler other).incoming := by
  unfold emit
  split
  · simp
  · rw [onMessageReceived_incoming_of_ne ne]
    simp

theorem emit_sent :
    ((emit isCore side message connection).handler side).outgoing.sent =
      (connection.handler side).outgoing.sent ++ [message] := by
  unfold emit
  split
  · simp
  · rw [onMessageReceived_outgoing]
    simp

theorem Sendable.emit (isCore : MtrId → Bool) (sendable : connection.Sendable side)
    (message : LocalMessage M) :
    (emit isCore side message connection).Sendable side := by
  unfold Sendable Receivable unwritten unread at *
  rw [emit_current, emit_current, emit_useQueue, emit_useQueue]
  exact sendable

/-- The other direction does not notice that a message is sent. -/
theorem Direction.emit_other {front back : List (LocalMessage M)}
    (flow : Direction isCore connection side.other front back) (message : LocalMessage M) :
    Direction isCore (emit isCore side message connection) side.other front back := by
  unfold Direction unwritten unread
  rw [emit_current, emit_current, emit_outgoing_of_ne side.other_ne, emit_useQueue, emit_useQueue,
    emit_incoming_of_ne side.other.other_ne]
  exact flow

/-- A message that is sent in order is kept, or arrives on the other side. -/
theorem Direction.emit (flow : Direction isCore connection side [] [])
    (sendable : connection.Sendable side)
    (known : ∀ type body, message = LocalMessage.message type body →
      isCore type = true ∨
        LocalMessage.syncMtr type ∈ (connection.handler side).outgoing.sent) :
    Direction isCore (emit isCore side message connection) side [] [] := by
  cases queueing : (connection.handler side).useQueue with
  | true =>
      rw [Sendable, queueing, if_pos rfl] at sendable
      rw [LocalConnection.emit, if_pos queueing]
      unfold Direction at flow ⊢
      rw [sendable, queueing] at flow
      simp only [modifyOutgoing_self, modifyOutgoing_useQueue, modifyOutgoing_incoming, queueing]
      exact sendable ▸ flow.queueWrite known
  | false =>
      rw [Sendable, queueing, if_neg Bool.false_ne_true] at sendable
      rw [LocalConnection.emit, if_neg (by rw [queueing]; decide)]
      apply Direction.receive
      · unfold Direction at flow ⊢
        rw [queueing] at flow
        simp only [modifyOutgoing_self, modifyOutgoing_useQueue, modifyOutgoing_incoming, queueing]
        exact flow.transmit sendable.1 known
      · have receivable := sendable.2
        unfold Receivable unread at receivable ⊢
        rw [modifyOutgoing_useQueue]
        exact receivable

/-! ### Whole runs -/

/-- The invariant: on each side there is one call of `toggle_queue(false)` at most, and
both directions are in order. -/
structure Ordered (isCore : MtrId → Bool) (connection : LocalConnection M) : Prop where
  single : (connection.toggles.map Toggle.side).Nodup
  flow : ∀ side, Direction isCore connection side [] []

/-- A message that is taken from a queue is handled at once, or arrives in order. -/
def NextInOrder (connection : LocalConnection M) : List (Task M) → Prop
  | Task.toggle ⟨side, some (_ :: _), _⟩ :: _ => (connection.handler side).useQueue = false
  | Task.toggle ⟨side, none, _ :: _⟩ :: _ => connection.Receivable side.other
  | _ => True

/-- No message passes others that wait or gets into a queue that is about to be emptied, and
no queue is switched off while it is being emptied. -/
def InOrder (connection : LocalConnection M) : LocalAction M → Prop
  | LocalAction.send side _ _ => connection.Sendable side
  | LocalAction.toggleQueue side enabled => enabled = false → connection.current side = none
  | LocalAction.proceed => connection.NextInOrder connection.tasks

instance (connection : LocalConnection M) (side : Side) : Decidable (connection.Receivable side) :=
  inferInstanceAs (Decidable (if (connection.handler side).useQueue then
    connection.unread side = none else (connection.unread side).getD [] = []))

instance (connection : LocalConnection M) (side : Side) : Decidable (connection.Sendable side) :=
  inferInstanceAs (Decidable (if (connection.handler side).useQueue then
    connection.unwritten side = none
    else (connection.unwritten side).getD [] = [] ∧ connection.Receivable side.other))

instance (connection : LocalConnection M) :
    (tasks : List (Task M)) → Decidable (connection.NextInOrder tasks)
  | Task.toggle ⟨side, some (_ :: _), _⟩ :: _ =>
      inferInstanceAs (Decidable ((connection.handler side).useQueue = false))
  | Task.toggle ⟨side, none, _ :: _⟩ :: _ =>
      inferInstanceAs (Decidable (connection.Receivable side.other))
  | Task.toggle ⟨_, none, []⟩ :: _ => inferInstanceAs (Decidable True)
  | Task.toggle ⟨_, some [], _⟩ :: _ => inferInstanceAs (Decidable True)
  | Task.handlers :: _ => inferInstanceAs (Decidable True)
  | [] => inferInstanceAs (Decidable True)

instance (connection : LocalConnection M) :
    (action : LocalAction M) → Decidable (connection.InOrder action)
  | LocalAction.send side _ _ => inferInstanceAs (Decidable (connection.Sendable side))
  | LocalAction.toggleQueue side enabled =>
      inferInstanceAs (Decidable (enabled = false → connection.current side = none))
  | LocalAction.proceed => inferInstanceAs (Decidable (connection.NextInOrder connection.tasks))

theorem ordered_start : Ordered isCore (start : LocalConnection M) := by
  constructor
  · exact List.nodup_nil
  · intro side
    constructor
    · rfl
    · exact fun _ _ => rfl
    · exact fun _ _ => rfl
    · intro before type body after eq
      exact absurd eq (by simp [start])
    · intro type mem
      cases mem
    · intro type mem
      cases mem
    · rfl

/-- Sending a message leaves the connection in order. -/
theorem Ordered.emit (ordered : Ordered isCore connection) (sendable : connection.Sendable side)
    (known : ∀ type body, message = LocalMessage.message type body →
      isCore type = true ∨
        LocalMessage.syncMtr type ∈ (connection.handler side).outgoing.sent) :
    Ordered isCore (emit isCore side message connection) := by
  constructor
  · rw [emit_toggles]
    exact ordered.single
  · intro other
    rcases other.eq_or_eq_other side with rfl | rfl
    · exact (ordered.flow _).emit sendable known
    · exact (ordered.flow _).emit_other message

/-- A type counts as published once its announcement was sent. -/
theorem Ordered.publish (ordered : Ordered isCore connection) {type : MtrId}
    (sent : LocalMessage.syncMtr type ∈ (connection.handler side).outgoing.sent) :
    Ordered isCore (connection.modifyOutgoing side fun outgoing =>
      { outgoing with publishedTypes := outgoing.publishedTypes ++ [type] }) := by
  constructor
  · exact ordered.single
  · intro other
    have flow := ordered.flow other
    unfold Direction at flow ⊢
    rw [modifyOutgoing_useQueue, modifyOutgoing_useQueue, modifyOutgoing_incoming]
    rcases other.eq_or_eq_other side with rfl | rfl
    · rw [modifyOutgoing_self]
      exact flow.publish sent
    · rw [modifyOutgoing_of_ne _ side.other_ne]
      exact flow

/-- A type is known to be announced before a message of it is sent. -/
theorem Ordered.registerMessageTypeRemote (ordered : Ordered isCore connection)
    (sendable : connection.Sendable side) (type : MtrId) :
    Ordered isCore (registerMessageTypeRemote isCore side type connection) ∧
      (registerMessageTypeRemote isCore side type connection).Sendable side ∧
      (isCore type = true ∨ LocalMessage.syncMtr type ∈
        ((registerMessageTypeRemote isCore side type connection).handler side).outgoing.sent) := by
  unfold LocalConnection.registerMessageTypeRemote
  split
  · rename_i known
    rw [Bool.or_eq_true, decide_eq_true_eq] at known
    exact ⟨ordered, sendable, known.imp_right ((ordered.flow side).published type)⟩
  · have announced : Ordered isCore
        (LocalConnection.emit isCore side (LocalMessage.syncMtr type) connection) :=
      ordered.emit sendable (by intro _ _ same; cases same)
    have sent : LocalMessage.syncMtr type ∈ ((LocalConnection.emit isCore side
        (LocalMessage.syncMtr type) connection).handler side).outgoing.sent := by
      rw [emit_sent]
      exact List.mem_append_right _ (List.mem_singleton_self _)
    refine ⟨announced.publish sent, ?_, ?_⟩
    · have later := sendable.emit isCore (LocalMessage.syncMtr type)
      unfold Sendable Receivable unwritten unread at later ⊢
      rw [modifyOutgoing_useQueue, modifyOutgoing_useQueue]
      exact later
    · rw [modifyOutgoing_self]
      exact Or.inr sent

/-- Sending a message, after its type was announced, leaves the connection in order. -/
theorem Ordered.sendMessage (ordered : Ordered isCore connection)
    (sendable : connection.Sendable side) (type : MtrId) (body : M) :
    Ordered isCore (sendMessage isCore side type body connection) := by
  rcases ordered.registerMessageTypeRemote sendable type with ⟨announced, still, known⟩
  apply announced.emit still
  intro other otherBody same
  cases same
  exact known

/-- Switching a queue on, or off while it is not being emptied, keeps the order. -/
theorem Ordered.toggleQueue (ordered : Ordered isCore connection) {enabled : Bool}
    (idle : enabled = false → connection.current side = none) :
    Ordered isCore (toggleQueue side enabled connection) := by
  cases enabled with
  | true =>
      rw [LocalConnection.toggleQueue, if_pos rfl]
      constructor
      · exact ordered.single
      · intro other
        have flow := ordered.flow other
        unfold Direction at flow ⊢
        rw [setQueue_outgoing, setQueue_incoming]
        rcases other.eq_or_eq_other side with rfl | rfl
        · rw [setQueue_self, setQueue_of_ne _ other.other_ne]
          exact flow.enableSending
        · rw [setQueue_of_ne _ side.other_ne, Side.other_other, setQueue_self]
          rw [Side.other_other] at flow
          exact flow.enableReceiving
  | false =>
      have idle := idle rfl
      have tasksEq : (LocalConnection.toggleQueue side false connection).tasks =
          Task.toggle ⟨side, some (connection.handler side).incoming.readQueue,
            (connection.handler side).outgoing.writeQueue⟩ :: connection.tasks := rfl
      constructor
      · rw [toggles_of_toggle tasksEq, List.map_cons, List.nodup_cons]
        exact ⟨current_eq_none_iff.mp idle, ordered.single⟩
      · intro other
        have flow := ordered.flow other
        unfold Direction at flow ⊢
        rcases other.eq_or_eq_other side with rfl | rfl
        · rw [unwritten_of_toggle tasksEq, unread_of_toggle_of_ne tasksEq other.other_ne.symm]
          simp only [LocalConnection.toggleQueue, Bool.false_eq_true, if_false, withTasks_handler,
            setQueue_outgoing, setQueue_self, setQueue_of_ne _ other.other_ne]
          rw [unwritten, idle] at flow
          exact flow.beginWrite
        · rw [Side.other_other] at flow ⊢
          rw [unread_of_toggle tasksEq, unwritten_of_toggle_of_ne tasksEq side.other_ne.symm]
          simp only [LocalConnection.toggleQueue, Bool.false_eq_true, if_false, withTasks_handler,
            setQueue_incoming, setQueue_self, setQueue_of_ne _ side.other_ne]
          rw [unread, idle] at flow
          exact flow.beginRead

section Proceeding

variable {reads writes : List (LocalMessage M)} {tasks : List (Task M)}

/-- The next message from the read queue is replayed. -/
theorem Ordered.replay (ordered : Ordered isCore connection)
    (tasksEq : connection.tasks = Task.toggle ⟨side, some (message :: reads), writes⟩ :: tasks)
    (off : (connection.handler side).useQueue = false) :
    Ordered isCore (onMessageReceived isCore side message
      (connection.withTasks (Task.toggle ⟨side, some reads, writes⟩ :: tasks))) := by
  have sides := toggles_side_of_toggle tasksEq ⟨side, some reads, writes⟩ rfl
    (connection.withTasks (Task.toggle ⟨side, some reads, writes⟩ :: tasks)) rfl
  constructor
  · rw [onMessageReceived_toggles, sides]
    exact ordered.single
  · intro other
    rcases other.eq_or_eq_other side with rfl | rfl
    · apply Direction.receive_other
      exact (direction_toggle_iff (withTasks_tasks _ _)).mpr
        ((direction_toggle_iff tasksEq).mp (ordered.flow other))
    · have taken : Direction isCore
          (connection.withTasks (Task.toggle ⟨side, some reads, writes⟩ :: tasks)) side.other
          [message] [] :=
        (direction_toggle_other_iff (withTasks_tasks _ _)).mpr
          ((direction_toggle_other_iff tasksEq).mp (ordered.flow side.other)).takeRead
      have handled := taken.handle (by rw [Side.other_other]; exact off)
      rw [Side.other_other] at handled
      exact handled

/-- The next message from the write queue is sent. -/
theorem Ordered.flush (ordered : Ordered isCore connection)
    (tasksEq : connection.tasks = Task.toggle ⟨side, none, message :: writes⟩ :: tasks)
    (receivable : connection.Receivable side.other) :
    Ordered isCore (onMessageReceived isCore side.other message
      (connection.withTasks (Task.toggle ⟨side, none, writes⟩ :: tasks))) := by
  have sides := toggles_side_of_toggle tasksEq ⟨side, none, writes⟩ rfl
    (connection.withTasks (Task.toggle ⟨side, none, writes⟩ :: tasks)) rfl
  constructor
  · rw [onMessageReceived_toggles, sides]
    exact ordered.single
  · intro other
    rcases other.eq_or_eq_other side with rfl | rfl
    · apply Direction.receive
      · exact (direction_toggle_iff (withTasks_tasks _ _)).mpr
          ((direction_toggle_iff tasksEq).mp (ordered.flow other)).takeWrite
      · unfold Receivable at receivable ⊢
        rw [unread_of_toggle_of_ne rfl other.other_ne.symm]
        rw [unread_of_toggle_of_ne tasksEq other.other_ne.symm] at receivable
        exact receivable
    · apply Direction.receive_other
      exact (direction_toggle_other_iff (withTasks_tasks _ _)).mpr
        ((direction_toggle_other_iff tasksEq).mp (ordered.flow side.other))

/-- The read queue is emptied. -/
theorem Ordered.clearRead (ordered : Ordered isCore connection)
    (tasksEq : connection.tasks = Task.toggle ⟨side, some [], writes⟩ :: tasks) :
    Ordered isCore
      ((connection.modifyIncoming side fun incoming => { incoming with readQueue := [] }).withTasks
        (Task.toggle ⟨side, none, writes⟩ :: tasks)) := by
  constructor
  · rw [toggles_side_of_toggle tasksEq ⟨side, none, writes⟩ rfl _ rfl]
    exact ordered.single
  · intro other
    rcases other.eq_or_eq_other side with rfl | rfl
    · have flow := (direction_toggle_iff tasksEq).mp (ordered.flow other)
      apply (direction_toggle_iff (withTasks_tasks _ _)).mpr
      simp only [withTasks_handler, modifyIncoming_outgoing, modifyIncoming_useQueue,
        modifyIncoming_of_ne _ other.other_ne]
      exact flow
    · have flow := (direction_toggle_other_iff tasksEq).mp (ordered.flow side.other)
      apply (direction_toggle_other_iff (withTasks_tasks _ _)).mpr
      simp only [withTasks_handler, modifyIncoming_outgoing, modifyIncoming_useQueue,
        modifyIncoming_self]
      exact flow.clearRead

/-- The write queue is emptied, and the call returns. -/
theorem Ordered.clearWrite (ordered : Ordered isCore connection)
    (tasksEq : connection.tasks = Task.toggle ⟨side, none, []⟩ :: tasks) :
    Ordered isCore
      ((connection.modifyOutgoing side fun outgoing =>
        { outgoing with writeQueue := [] }).withTasks tasks) := by
  have single := ordered.single
  rw [toggles_of_toggle tasksEq, List.map_cons, List.nodup_cons] at single
  have returned : (connection.withTasks tasks).current side = none :=
    current_eq_none_iff.mpr single.1
  constructor
  · exact single.2
  · intro other
    rcases other.eq_or_eq_other side with rfl | rfl
    · have flow := (direction_toggle_iff tasksEq).mp (ordered.flow other)
      have nothing : LocalConnection.unwritten ((connection.modifyOutgoing other fun outgoing =>
          { outgoing with writeQueue := [] }).withTasks tasks) other = none :=
        Option.map_eq_none_iff.mpr returned
      unfold Direction
      rw [nothing]
      simp only [withTasks_handler, modifyOutgoing_self, modifyOutgoing_useQueue,
        modifyOutgoing_incoming]
      exact flow.clearWrite
    · have flow := (direction_toggle_other_iff tasksEq).mp (ordered.flow side.other)
      have nothing : LocalConnection.unread ((connection.modifyOutgoing side fun outgoing =>
          { outgoing with writeQueue := [] }).withTasks tasks) side = none :=
        Option.bind_eq_none_iff.mpr fun toggle found =>
          absurd (found.symm.trans returned) (Option.some_ne_none toggle)
      unfold Direction
      rw [Side.other_other, nothing]
      simp only [withTasks_handler, modifyOutgoing_of_ne _ side.other_ne, modifyOutgoing_useQueue,
        modifyOutgoing_incoming]
      exact flow

end Proceeding

/-- Handlers that return leave the connection in order. -/
theorem Ordered.of_toggles (ordered : Ordered isCore connection) {next : LocalConnection M}
    (handler : next.handler = connection.handler) (toggles : next.toggles = connection.toggles) :
    Ordered isCore next := by
  constructor
  · rw [toggles]
    exact ordered.single
  · intro side
    unfold Direction LocalConnection.unwritten LocalConnection.unread
    rw [handler, current_of_toggles toggles, current_of_toggles toggles]
    exact ordered.flow side

/-- Every step in which no message passes others keeps the invariant. -/
theorem Ordered.step (ordered : Ordered isCore connection) {action : LocalAction M}
    (inOrder : connection.InOrder action) {next : LocalConnection M}
    (stepEq : connection.step isCore action = some next) : Ordered isCore next := by
  cases action with
  | send side type body =>
      simp only [LocalConnection.step, Option.ite_none_right_eq_some] at stepEq
      rcases stepEq with ⟨_, stepEq⟩
      cases stepEq
      exact ordered.sendMessage inOrder type body
  | toggleQueue side enabled =>
      simp only [LocalConnection.step, Option.ite_none_right_eq_some] at stepEq
      rcases stepEq with ⟨_, stepEq⟩
      cases stepEq
      exact ordered.toggleQueue inOrder
  | proceed =>
      cases tasksEq : connection.tasks with
      | nil =>
          simp only [LocalConnection.step, tasksEq, reduceCtorEq] at stepEq
      | cons task tasks =>
          simp only [LocalConnection.step, tasksEq] at stepEq
          rw [InOrder, tasksEq] at inOrder
          cases task with
          | handlers =>
              cases stepEq
              exact ordered.of_toggles rfl (toggles_of_handlers tasksEq).symm
          | toggle toggle =>
              rcases toggle with ⟨side, _ | _ | ⟨message, reads⟩, writes⟩
              · cases writes with
                | nil =>
                    cases stepEq
                    exact ordered.clearWrite tasksEq
                | cons message writes =>
                    cases stepEq
                    exact ordered.flush tasksEq inOrder
              · cases stepEq
                exact ordered.clearRead tasksEq
              · cases stepEq
                exact ordered.replay tasksEq inOrder

/-- What was handled comes first in what was sent; nothing is ignored, and nothing is missing
when both queues are switched off. -/
theorem Ordered.delivered (ordered : Ordered isCore connection) (side : Side) :
    (connection.handler side.other).incoming.delivered <+:
        (connection.handler side).outgoing.sent ∧
      (connection.handler side.other).incoming.ignored = [] ∧
      (connection.tasks = [] → (connection.handler side).useQueue = false →
        (connection.handler side.other).useQueue = false →
          (connection.handler side.other).incoming.delivered =
            (connection.handler side).outgoing.sent) := by
  have flow := ordered.flow side
  refine ⟨?_, flow.ignored, ?_⟩
  · rw [flow.stream, List.append_nil, List.append_assoc, List.append_assoc]
    exact List.prefix_append _ _
  · intro done sending receiving
    have idle : ∀ other, connection.current other = none := by
      intro other
      rw [current, toggles, done]
      rfl
    have unread : connection.unread side.other = none := by
      rw [LocalConnection.unread, idle, Option.bind_none]
    have unwritten : connection.unwritten side = none := by
      rw [LocalConnection.unwritten, idle, Option.map_none]
    have stream := flow.stream
    rw [unread, unwritten, Option.getD_none, Option.getD_none, flow.readIdle receiving unread,
      flow.writeIdle sending unwritten] at stream
    rw [stream]
    simp

/-- In a run in which no message passes others, every message gets through once and in the
order in which it was sent. -/
theorem delivered_of_inOrder {actions : List (LocalAction M)} {final : LocalConnection M}
    (inOrder : Guarded (step isCore) InOrder start actions)
    (runEq : run (step isCore) start actions = some final) (side : Side) :
    (final.handler side.other).incoming.delivered <+: (final.handler side).outgoing.sent ∧
      (final.handler side.other).incoming.ignored = [] ∧
      (final.tasks = [] → (final.handler side).useQueue = false →
        (final.handler side.other).useQueue = false →
          (final.handler side.other).incoming.delivered =
            (final.handler side).outgoing.sent) := by
  have ordered : Ordered isCore final :=
    run_invariant (fun _ _ _ ordered here stepEq => ordered.step here stepEq)
      ordered_start inOrder runEq
  exact ordered.delivered side

section Example

/-- The first nine types are core types. -/
def firstNine (type : MtrId) : Bool :=
  decide (type.toNat < 9)

/-- While the client replays a message, its handler sends another one. -/
def replyDuringReplay : List (LocalAction Nat) :=
  [LocalAction.toggleQueue Side.client true, LocalAction.send Side.client 9 1,
    LocalAction.send Side.server 9 5, LocalAction.toggleQueue Side.client false,
    LocalAction.proceed, LocalAction.proceed, LocalAction.send Side.client 9 2]

theorem reply_ignored :
    ¬ ∀ (M : Type) (isCore : MtrId → Bool) (actions : List (LocalAction M))
        (final : LocalConnection M) (side : Side),
      run (step isCore) start actions = some final →
        (final.handler side.other).incoming.delivered <+: (final.handler side).outgoing.sent ∧
          (final.handler side.other).incoming.ignored = [] ∧
          (final.tasks = [] → (final.handler side).useQueue = false →
            (final.handler side.other).useQueue = false →
              (final.handler side.other).incoming.delivered =
                (final.handler side).outgoing.sent) := by
  intro claimed
  have result : (run (step firstNine) start replyDuringReplay).map
      (fun final => (final.handler Side.server).incoming.ignored) =
        some [LocalMessage.message 9 2] := by
    decide +kernel
  rcases Option.map_eq_some_iff.mp result with ⟨final, runEq, ignored⟩
  have nothing := (claimed Nat firstNine replyDuringReplay final Side.client runEq).2.1
  exact absurd (ignored.symm.trans nothing) (by decide)

/-- Both sides queue while they are connected, as in `connect_local`, and a handler answers
once the queues are empty. -/
def connectLocal : List (LocalAction Nat) :=
  [LocalAction.toggleQueue Side.client true, LocalAction.toggleQueue Side.server true,
    LocalAction.send Side.client 9 1, LocalAction.send Side.server 10 2,
    LocalAction.toggleQueue Side.client false, LocalAction.proceed, LocalAction.proceed,
    LocalAction.proceed, LocalAction.proceed, LocalAction.toggleQueue Side.server false,
    LocalAction.proceed, LocalAction.proceed, LocalAction.proceed, LocalAction.proceed,
    LocalAction.proceed, LocalAction.proceed, LocalAction.send Side.client 9 3,
    LocalAction.proceed, LocalAction.proceed, LocalAction.proceed]

theorem delivered_connectLocal :
    ∃ final : LocalConnection Nat, run (step firstNine) start connectLocal = some final ∧
      (final.handler Side.server).incoming.delivered =
        [LocalMessage.syncMtr 9, LocalMessage.message 9 1, LocalMessage.message 9 3] ∧
      (final.handler Side.server).incoming.delivered <+:
        (final.handler Side.client).outgoing.sent := by
  have result : (run (step firstNine) start connectLocal).map
      (fun final => (final.handler Side.server).incoming.delivered) =
        some [LocalMessage.syncMtr 9, LocalMessage.message 9 1, LocalMessage.message 9 3] := by
    decide +kernel
  rcases Option.map_eq_some_iff.mp result with ⟨final, runEq, delivered⟩
  exact ⟨final, runEq, delivered,
    (delivered_of_inOrder (by decide +kernel) runEq Side.client).1⟩

end Example

end LocalConnection

end VoxelEngine.ClientServer
