import VoxelEngine.ClientServer.SessionTeardown
import VoxelEngine.ClientServer.SizeLimit

/-!
# Messages that are lost without an error

Calls of `write` hand their code to the strand of the session, which runs it call by call.
A write that fails raises an error and stops the session, but leaves the session writing: what
is written later only joins the queue.  A message can be lost this way although no error is
raised after it was written.
-/

namespace VoxelEngine.ClientServer

open VoxelEngine.Transition

/-- What `do_async_write` does. -/
theorem SocketSender.doAsyncWrite_cases (sender : SocketSender) :
    ((sender.writer.isWriting = true ∨ sender.writer.writeQueue = []) ∧
      sender.doAsyncWrite = sender) ∨
    (∃ front rest, sender.writer.isWriting = false ∧
      sender.writer.writeQueue = front :: rest ∧ sender.doAsyncWrite =
        { sender with
          writer := ⟨front :: rest, true, sender.writer.written ++ frame front⟩
          isOutstanding := true }) ∨
    (sender.writer.isWriting = false ∧ sender.doAsyncWrite =
      { sender with events := sender.events ++ [SessionEvent.sessionError] }) := by
  rcases sender with ⟨⟨queue, isWriting, written⟩, isOutstanding, isOpen, events⟩
  cases isWriting with
  | true => exact Or.inl ⟨Or.inl rfl, rfl⟩
  | false =>
      cases queue with
      | nil => exact Or.inl ⟨Or.inr rfl, rfl⟩
      | cons front rest =>
          cases isOpen with
          | true => exact Or.inr (Or.inl ⟨front, rest, rfl, rfl, rfl⟩)
          | false => exact Or.inr (Or.inr ⟨rfl, rfl⟩)

/-- A started session, the calls of `write` whose code did not run yet, and the compressed
messages whose writes have completed. -/
structure WritingSession where
  sender : SocketSender
  socketOpen : Bool
  reading : Bool
  posted : List Bytes
  transmitted : List Bytes

/-- What happens to a session.  The code of `stop` runs in two parts, between which other
threads may run; the completion of a write holds the strand until it has stopped the
session. -/
inductive WritingAction where
  | write (message : Bytes)
  /-- The strand runs the code of the oldest call. -/
  | runWrite
  | writeCompleted
  | writeFailed (shutdownFails : Bool)
  | readCompleted (message : Bytes)
  /-- The error of a read is raised; it stops the session next. -/
  | readFailed
  | closeSocket (shutdownFails : Bool)
  | markClosed
  deriving DecidableEq

/-- The message that an action writes. -/
def WritingAction.message : WritingAction → Option Bytes
  | write message => some message
  | _ => none

namespace WritingSession

/-- A session that was just started. -/
def start : WritingSession where
  sender := { SocketSender.start with events := [SessionEvent.sessionStart] }
  socketOpen := true
  reading := true
  posted := []
  transmitted := []

/-- `dispatch_event` -/
def dispatchEvents (session : WritingSession) (events : List SessionEvent) : WritingSession :=
  { session with sender := { session.sender with events := session.sender.events ++ events } }

/-- The part of `stop` that closes the socket. -/
def closeSocket (session : WritingSession) (shutdownFails : Bool) : WritingSession :=
  if session.socketOpen then
    dispatchEvents { session with socketOpen := false } (SessionLife.stopEvents shutdownFails)
  else session

/-- The end of `stop`. -/
def markClosed (session : WritingSession) : WritingSession :=
  { session with sender := { session.sender with isOpen := false } }

/-- `do_async_write` -/
def doAsyncWrite (session : WritingSession) : WritingSession :=
  { session with sender := session.sender.doAsyncWrite }

/-- The code of `write`, up to `do_async_write`. -/
def pushWrite (session : WritingSession) (compressed : Bytes) : WritingSession :=
  { session with sender := session.sender.pushWrite compressed }

/-- The code of `on_async_write_complete` without an error, up to `do_async_write`. -/
def popWrite (session : WritingSession) : WritingSession :=
  { session with
    sender := session.sender.popWrite
    transmitted := session.transmitted ++ session.sender.writer.writeQueue.head?.toList }

/-- `on_async_write_complete` with an error. -/
def failWrite (session : WritingSession) (shutdownFails : Bool) : WritingSession :=
  ((dispatchEvents { session with sender := { session.sender with isOutstanding := false } }
    [SessionEvent.sessionError]).closeSocket shutdownFails).markClosed

/-- One step of a session. -/
def step (compression : Compression) (session : WritingSession) :
    WritingAction → Option WritingSession
  | .write message => some { session with posted := session.posted ++ [message] }
  | .runWrite =>
      match session.posted with
      | [] => none
      | message :: rest =>
          some (({ session with posted := rest }.pushWrite
            (compression.compress message)).doAsyncWrite)
  | .writeCompleted =>
      if session.sender.isOutstanding then some session.popWrite.doAsyncWrite else none
  | .writeFailed shutdownFails =>
      if session.sender.isOutstanding then some (session.failWrite shutdownFails) else none
  | .readCompleted message =>
      if session.reading then
        some (dispatchEvents { session with reading := session.sender.isOpen }
          [SessionEvent.messageReceived message])
      else none
  | .readFailed =>
      if session.reading then
        some (dispatchEvents { session with reading := false } [SessionEvent.sessionError])
      else none
  | .closeSocket shutdownFails => some (session.closeSocket shutdownFails)
  | .markClosed => if session.socketOpen then none else some session.markClosed

/-- How many errors were raised. -/
def errors (session : WritingSession) : Nat :=
  session.sender.events.count SessionEvent.sessionError

/-- The session is writing, but no write is outstanding. -/
def Stuck (session : WritingSession) : Prop :=
  session.sender.writer.isWriting = true ∧ session.sender.isOutstanding = false

/-- No call and no write is pending. -/
structure Settled (session : WritingSession) : Prop where
  posted : session.posted = []
  outstanding : session.sender.isOutstanding = false

/-- Every message that was written is one of those whose write has completed, at its place
among the calls, or an error was raised after it was written. -/
def Accounted (compression : Compression) (actions : List WritingAction)
    (final : WritingSession) : Prop :=
  ∀ before message after middle, actions = before ++ .write message :: after →
    run (step compression) start before = some middle →
      final.transmitted[(before.filterMap WritingAction.message).length]? =
        some (compression.compress message) ∨ middle.errors < final.errors

/-- A write after one that failed is followed by the failure of a read. -/
def LateWritesHeard (actions : List WritingAction) : Prop :=
  ∀ before message after, actions = before ++ .write message :: after →
    (∃ shutdownFails, .writeFailed shutdownFails ∈ before) → .readFailed ∈ after

/-- Where the messages are, and what was handed to the transport. -/
structure Ordered (compression : Compression) (messages : List Bytes)
    (session : WritingSession) : Prop where
  order : session.transmitted ++ session.sender.writer.writeQueue ++
    session.posted.map compression.compress = messages.map compression.compress
  stream : session.sender.writer.written =
    (session.transmitted ++ if session.sender.writer.isWriting then
      session.sender.writer.writeQueue.head?.toList else []).flatMap frame
  busy : session.sender.writer.isWriting = true → session.sender.writer.writeQueue ≠ []
  outstanding : session.sender.isOutstanding = true → session.sender.writer.isWriting = true
  stuck : session.Stuck → session.socketOpen = false

variable {compression : Compression} {messages : List Bytes} {session next : WritingSession}

/-- What the steps do, and where they are possible. -/
inductive Takes (compression : Compression) (session : WritingSession) :
    WritingAction → WritingSession → Prop where
  | write (message : Bytes) :
      Takes compression session (.write message)
        { session with posted := session.posted ++ [message] }
  | runWrite {message : Bytes} {rest : List Bytes} (posted : session.posted = message :: rest) :
      Takes compression session .runWrite
        (({ session with posted := rest }.pushWrite (compression.compress message)).doAsyncWrite)
  | writeCompleted (outstanding : session.sender.isOutstanding = true) :
      Takes compression session .writeCompleted session.popWrite.doAsyncWrite
  | writeFailed (shutdownFails : Bool) (outstanding : session.sender.isOutstanding = true) :
      Takes compression session (.writeFailed shutdownFails) (session.failWrite shutdownFails)
  | readCompleted (message : Bytes) :
      Takes compression session (.readCompleted message)
        (dispatchEvents { session with reading := session.sender.isOpen }
          [SessionEvent.messageReceived message])
  | readFailed :
      Takes compression session .readFailed
        (dispatchEvents { session with reading := false } [SessionEvent.sessionError])
  | closeSocket (shutdownFails : Bool) :
      Takes compression session (.closeSocket shutdownFails) (session.closeSocket shutdownFails)
  | markClosed : Takes compression session .markClosed session.markClosed

theorem takes_of_step {action : WritingAction}
    (stepEq : session.step compression action = some next) :
    Takes compression session action next := by
  cases action with
  | write message =>
      cases stepEq
      exact .write message
  | runWrite =>
      rw [step] at stepEq
      split at stepEq
      · cases stepEq
      · rename_i message rest posted
        cases stepEq
        exact .runWrite posted
  | writeCompleted =>
      rw [step, Option.ite_none_right_eq_some] at stepEq
      rcases stepEq with ⟨outstanding, ⟨⟩⟩
      exact .writeCompleted outstanding
  | writeFailed shutdownFails =>
      rw [step, Option.ite_none_right_eq_some] at stepEq
      rcases stepEq with ⟨outstanding, ⟨⟩⟩
      exact .writeFailed shutdownFails outstanding
  | readCompleted message =>
      rw [step, Option.ite_none_right_eq_some] at stepEq
      rcases stepEq with ⟨_, ⟨⟩⟩
      exact .readCompleted message
  | readFailed =>
      rw [step, Option.ite_none_right_eq_some] at stepEq
      rcases stepEq with ⟨_, ⟨⟩⟩
      exact .readFailed
  | closeSocket shutdownFails =>
      cases stepEq
      exact .closeSocket shutdownFails
  | markClosed =>
      rw [step, Option.ite_none_left_eq_some] at stepEq
      rcases stepEq with ⟨_, ⟨⟩⟩
      exact .markClosed

/-! ## Errors -/

theorem errors_dispatchEvents (session : WritingSession) (events : List SessionEvent) :
    (session.dispatchEvents events).errors =
      session.errors + events.count SessionEvent.sessionError :=
  List.count_append

theorem errors_closeSocket (session : WritingSession) (shutdownFails : Bool) :
    session.errors ≤ (session.closeSocket shutdownFails).errors := by
  unfold closeSocket
  split
  · rw [errors_dispatchEvents]
    exact Nat.le_add_right _ _
  · exact Nat.le_refl _

theorem errors_failWrite (session : WritingSession) (shutdownFails : Bool) :
    session.errors < (session.failWrite shutdownFails).errors := by
  apply Nat.lt_of_lt_of_le _ (errors_closeSocket _ shutdownFails)
  rw [errors_dispatchEvents]
  exact Nat.lt_succ_self _

theorem errors_doAsyncWrite (session : WritingSession) :
    session.errors ≤ session.doAsyncWrite.errors := by
  rw [errors, errors, doAsyncWrite]
  rcases session.sender.doAsyncWrite_cases with ⟨_, same⟩ | ⟨_, _, _, _, started⟩ | ⟨_, failed⟩
  · rw [same]
  · rw [started]
  · rw [failed, List.count_append]
    exact Nat.le_add_right _ _

/-- Errors are not taken back. -/
theorem errors_step {action : WritingAction}
    (stepEq : session.step compression action = some next) : session.errors ≤ next.errors := by
  cases takes_of_step stepEq with
  | write message => exact Nat.le_refl _
  | @runWrite message rest posted =>
      exact errors_doAsyncWrite (pushWrite { session with posted := rest } _)
  | writeCompleted outstanding => exact errors_doAsyncWrite session.popWrite
  | writeFailed shutdownFails outstanding => exact (errors_failWrite session shutdownFails).le
  | readCompleted message =>
      rw [errors_dispatchEvents]
      exact Nat.le_add_right _ _
  | readFailed =>
      rw [errors_dispatchEvents]
      exact Nat.le_add_right _ _
  | closeSocket shutdownFails => exact errors_closeSocket session shutdownFails
  | markClosed => exact Nat.le_refl _

/-- An action that raises an error whatever the state of the session. -/
def IsFailure (action : WritingAction) : Prop :=
  action = .readFailed ∨ ∃ shutdownFails, action = .writeFailed shutdownFails

theorem errors_step_of_isFailure {action : WritingAction} (isFailure : IsFailure action)
    (stepEq : session.step compression action = some next) : session.errors < next.errors := by
  rcases isFailure with rfl | ⟨shutdownFails, rfl⟩
  · cases takes_of_step stepEq
    rw [errors_dispatchEvents]
    exact Nat.lt_succ_self _
  · cases takes_of_step stepEq
    exact errors_failWrite session shutdownFails

theorem errors_run {actions : List WritingAction}
    (runEq : run (step compression) session actions = some next) :
    session.errors ≤ next.errors ∧
      ((∃ action ∈ actions, IsFailure action) → session.errors < next.errors) := by
  induction actions generalizing session with
  | nil =>
      cases runEq
      refine ⟨Nat.le_refl _, ?_⟩
      rintro ⟨_, mem, _⟩
      cases mem
  | cons action actions ih =>
      rcases (run_cons_eq_some_iff _ _ _ _ _).mp runEq with ⟨middle, stepEq, rest⟩
      have first := errors_step stepEq
      rcases ih rest with ⟨later, laterLt⟩
      refine ⟨first.trans later, ?_⟩
      rintro ⟨failure, mem, isFailure⟩
      rcases List.mem_cons.mp mem with rfl | mem
      · exact (errors_step_of_isFailure isFailure stepEq).trans_le later
      · exact first.trans_lt (laterLt ⟨failure, mem, isFailure⟩)

/-! ## The order of the messages -/

@[simp]
theorem socketOpen_closeSocket (session : WritingSession) (shutdownFails : Bool) :
    (session.closeSocket shutdownFails).socketOpen = false := by
  unfold closeSocket
  split
  · rfl
  · rename_i closed
    exact Bool.eq_false_of_not_eq_true closed

@[simp]
theorem writer_closeSocket (session : WritingSession) (shutdownFails : Bool) :
    (session.closeSocket shutdownFails).sender.writer = session.sender.writer := by
  unfold closeSocket
  split <;> rfl

@[simp]
theorem isOutstanding_closeSocket (session : WritingSession) (shutdownFails : Bool) :
    (session.closeSocket shutdownFails).sender.isOutstanding =
      session.sender.isOutstanding := by
  unfold closeSocket
  split <;> rfl

@[simp]
theorem posted_closeSocket (session : WritingSession) (shutdownFails : Bool) :
    (session.closeSocket shutdownFails).posted = session.posted := by
  unfold closeSocket
  split <;> rfl

@[simp]
theorem transmitted_closeSocket (session : WritingSession) (shutdownFails : Bool) :
    (session.closeSocket shutdownFails).transmitted = session.transmitted := by
  unfold closeSocket
  split <;> rfl

theorem ordered_start (compression : Compression) : Ordered compression [] start where
  order := rfl
  stream := rfl
  busy := by
    intro isWriting
    cases isWriting
  outstanding := by
    intro isOutstanding
    cases isOutstanding
  stuck := by
    rintro ⟨isWriting, _⟩
    cases isWriting

/-- Only the writer, the messages, an outstanding write and the socket matter. -/
theorem Ordered.congr (ordered : Ordered compression messages session)
    (writer : next.sender.writer = session.sender.writer)
    (posted : next.posted = session.posted)
    (transmitted : next.transmitted = session.transmitted)
    (isOutstanding : next.sender.isOutstanding = session.sender.isOutstanding)
    (socketOpen : session.socketOpen = false → next.socketOpen = false) :
    Ordered compression messages next := by
  constructor
  · rw [writer, posted, transmitted]
    exact ordered.order
  · rw [writer, transmitted]
    exact ordered.stream
  · rw [writer]
    exact ordered.busy
  · rw [writer, isOutstanding]
    exact ordered.outstanding
  · rw [Stuck, writer, isOutstanding]
    exact fun stuck => socketOpen (ordered.stuck stuck)

/-- Starting the next write keeps the messages in order. -/
theorem Ordered.doAsyncWrite (ordered : Ordered compression messages session) :
    Ordered compression messages session.doAsyncWrite := by
  have order := ordered.order
  have stream := ordered.stream
  rcases session.sender.doAsyncWrite_cases with ⟨_, same⟩ |
    ⟨front, rest, idle, queued, started⟩ | ⟨idle, failed⟩
  · have unchanged : session.doAsyncWrite = session := by
      rw [WritingSession.doAsyncWrite, same]
    rw [unchanged]
    exact ordered
  · constructor
    · rw [WritingSession.doAsyncWrite, started, ← queued]
      exact order
    · rw [WritingSession.doAsyncWrite, started]
      rw [idle, if_neg Bool.false_ne_true, List.append_nil] at stream
      simp only [stream, if_true, List.head?_cons, Option.toList_some, List.flatMap_append,
        List.flatMap_singleton]
    · intro _
      rw [WritingSession.doAsyncWrite, started]
      exact List.cons_ne_nil front rest
    · intro _
      rw [WritingSession.doAsyncWrite, started]
    · rintro ⟨_, resting⟩
      rw [WritingSession.doAsyncWrite, started] at resting
      cases resting
  · have senderEq : session.doAsyncWrite.sender = session.sender.doAsyncWrite := rfl
    rw [failed] at senderEq
    apply ordered.congr
    · rw [senderEq]
    · rfl
    · rfl
    · rw [senderEq]
    · exact fun closed => closed

/-- The strand runs the code of the oldest call. -/
theorem Ordered.pushWrite {message : Bytes} {rest : List Bytes}
    (ordered : Ordered compression messages session)
    (posted : session.posted = message :: rest) :
    Ordered compression messages
      (({ session with posted := rest }).pushWrite (compression.compress message)) := by
  refine { ordered with order := ?_, stream := ?_, busy := ?_ }
  · rw [← ordered.order, posted]
    simp [WritingSession.pushWrite, SocketSender.pushWrite]
  · have stream := ordered.stream
    have busy := ordered.busy
    simp only [WritingSession.pushWrite, SocketSender.pushWrite, stream]
    cases isWriting : session.sender.writer.isWriting with
    | false => rfl
    | true => rw [List.head?_append_of_ne_nil _ (busy isWriting)]
  · intro _
    simp [WritingSession.pushWrite, SocketSender.pushWrite]

/-- A write that completes has transmitted the front of the queue. -/
theorem Ordered.popWrite (ordered : Ordered compression messages session)
    (outstanding : session.sender.isOutstanding = true) :
    Ordered compression messages session.popWrite := by
  have isWriting := ordered.outstanding outstanding
  have queued := ordered.busy isWriting
  rcases List.exists_cons_of_ne_nil queued with ⟨front, rest, queue⟩
  constructor
  · rw [← ordered.order]
    simp [WritingSession.popWrite, SocketSender.popWrite, queue]
  · have stream := ordered.stream
    rw [isWriting, if_pos rfl] at stream
    simp [WritingSession.popWrite, SocketSender.popWrite, stream]
  · intro busy
    cases busy
  · intro busy
    cases busy
  · rintro ⟨busy, _⟩
    cases busy

/-- A call puts its message behind all others. -/
theorem Ordered.write (ordered : Ordered compression messages session) (message : Bytes) :
    Ordered compression (messages ++ [message])
      { session with posted := session.posted ++ [message] } := by
  refine { ordered with order := ?_ }
  rw [List.map_append, List.map_append, ← List.append_assoc]
  exact congrArg (· ++ [compression.compress message]) ordered.order

/-- Every other step keeps the messages in order. -/
theorem Ordered.step_of_message_eq_none (ordered : Ordered compression messages session)
    {action : WritingAction} (quiet : action.message = none)
    (stepEq : session.step compression action = some next) :
    Ordered compression messages next := by
  cases takes_of_step stepEq with
  | write message => cases quiet
  | runWrite posted => exact (ordered.pushWrite posted).doAsyncWrite
  | writeCompleted outstanding => exact (ordered.popWrite outstanding).doAsyncWrite
  | writeFailed shutdownFails outstanding =>
      have isWriting := ordered.outstanding outstanding
      constructor
      · simpa [failWrite, markClosed, dispatchEvents] using ordered.order
      · simpa [failWrite, markClosed, dispatchEvents] using ordered.stream
      · simpa [failWrite, markClosed, dispatchEvents] using ordered.busy
      · simp [failWrite, markClosed, dispatchEvents]
      · intro _
        exact socketOpen_closeSocket _ shutdownFails
  | readCompleted message => exact ordered.congr rfl rfl rfl rfl fun closed => closed
  | readFailed => exact ordered.congr rfl rfl rfl rfl fun closed => closed
  | closeSocket shutdownFails =>
      apply ordered.congr
      · exact writer_closeSocket session shutdownFails
      · exact posted_closeSocket session shutdownFails
      · exact transmitted_closeSocket session shutdownFails
      · exact isOutstanding_closeSocket session shutdownFails
      · exact fun _ => socketOpen_closeSocket session shutdownFails
  | markClosed => exact ordered.congr rfl rfl rfl rfl fun closed => closed

theorem Ordered.step (ordered : Ordered compression messages session) {action : WritingAction}
    (stepEq : session.step compression action = some next) :
    Ordered compression (messages ++ action.message.toList) next := by
  cases quiet : action.message with
  | none =>
      rw [Option.toList_none, List.append_nil]
      exact ordered.step_of_message_eq_none quiet stepEq
  | some message =>
      cases action with
      | write written =>
          cases quiet
          cases stepEq
          exact ordered.write message
      | _ => cases quiet

theorem ordered_run (ordered : Ordered compression messages session)
    {actions : List WritingAction}
    (runEq : run (step compression) session actions = some next) :
    Ordered compression (messages ++ actions.filterMap WritingAction.message) next := by
  induction actions generalizing session messages with
  | nil =>
      cases runEq
      rw [List.filterMap_nil, List.append_nil]
      exact ordered
  | cons action actions ih =>
      rcases (run_cons_eq_some_iff _ _ _ _ _).mp runEq with ⟨middle, stepEq, rest⟩
      have later := ih (ordered.step stepEq) rest
      rw [List.append_assoc] at later
      rw [List.filterMap_cons]
      cases message : action.message with
      | none =>
          rw [message] at later
          exact later
      | some written =>
          rw [message] at later
          exact later

/-! ## Sessions that stay writing -/

@[simp]
theorem stuck_doAsyncWrite : session.doAsyncWrite.Stuck ↔ session.Stuck := by
  rw [Stuck, Stuck, WritingSession.doAsyncWrite]
  rcases session.sender.doAsyncWrite_cases with ⟨_, same⟩ |
    ⟨front, rest, idle, _, started⟩ | ⟨idle, failed⟩
  · rw [same]
  · rw [started, idle]
    simp
  · rw [failed]

/-- A session stays writing, without a write, exactly after a write that failed. -/
theorem stuck_step_iff {action : WritingAction}
    (stepEq : session.step compression action = some next) :
    next.Stuck ↔ session.Stuck ∨
      (∃ shutdownFails, action = .writeFailed shutdownFails) ∧
        session.sender.writer.isWriting = true := by
  cases takes_of_step stepEq with
  | write message => simp [Stuck]
  | runWrite posted =>
      rw [stuck_doAsyncWrite]
      simp [Stuck, pushWrite, SocketSender.pushWrite]
  | writeCompleted outstanding =>
      rw [stuck_doAsyncWrite]
      simp [Stuck, popWrite, SocketSender.popWrite, outstanding]
  | writeFailed shutdownFails outstanding =>
      simp [Stuck, failWrite, markClosed, dispatchEvents, outstanding]
  | readCompleted message => simp [Stuck, dispatchEvents]
  | readFailed => simp [Stuck, dispatchEvents]
  | closeSocket shutdownFails => simp [Stuck]
  | markClosed => simp [Stuck, markClosed]

theorem stuck_run_iff (ordered : Ordered compression messages session)
    {actions : List WritingAction}
    (runEq : run (step compression) session actions = some next) :
    next.Stuck ↔ session.Stuck ∨ ∃ shutdownFails, .writeFailed shutdownFails ∈ actions := by
  induction actions generalizing session messages with
  | nil =>
      cases runEq
      simp
  | cons action actions ih =>
      rcases (run_cons_eq_some_iff _ _ _ _ _).mp runEq with ⟨middle, stepEq, rest⟩
      rw [ih (ordered.step stepEq) rest, stuck_step_iff stepEq, or_assoc]
      have writing : (∃ shutdownFails, action = .writeFailed shutdownFails) →
          session.sender.writer.isWriting = true := by
        rintro ⟨shutdownFails, rfl⟩
        cases takes_of_step stepEq with
        | writeFailed _ outstanding => exact ordered.outstanding outstanding
      rw [and_iff_left_of_imp writing, ← exists_or]
      simp only [List.mem_cons, eq_comm]

/-- A session that stays writing transmits nothing, and raises only errors of reads. -/
theorem Stuck.step (stuck : session.Stuck) (ordered : Ordered compression messages session)
    {action : WritingAction} (stepEq : session.step compression action = some next) :
    next.transmitted = session.transmitted ∧
      (action ≠ .readFailed → next.errors = session.errors) := by
  have closed := ordered.stuck stuck
  rcases stuck with ⟨isWriting, resting⟩
  cases takes_of_step stepEq with
  | write message => exact ⟨rfl, fun _ => rfl⟩
  | @runWrite message rest posted =>
      have same : (session.sender.pushWrite (compression.compress message)).doAsyncWrite =
          session.sender.pushWrite (compression.compress message) := by
        rw [SocketSender.doAsyncWrite, if_pos]
        simp [SocketSender.pushWrite, isWriting]
      refine ⟨rfl, fun _ => ?_⟩
      simp only [WritingSession.doAsyncWrite, pushWrite, errors, same]
      rfl
  | writeCompleted outstanding =>
      rw [resting] at outstanding
      cases outstanding
  | writeFailed shutdownFails outstanding =>
      rw [resting] at outstanding
      cases outstanding
  | readCompleted message =>
      refine ⟨rfl, fun _ => ?_⟩
      rw [errors_dispatchEvents]
      rfl
  | readFailed => exact ⟨rfl, fun other => absurd rfl other⟩
  | closeSocket shutdownFails =>
      rw [WritingSession.closeSocket, if_neg (closed ▸ Bool.false_ne_true)]
      exact ⟨rfl, fun _ => rfl⟩
  | markClosed => exact ⟨rfl, fun _ => rfl⟩

theorem Stuck.run (stuck : session.Stuck) (ordered : Ordered compression messages session)
    {actions : List WritingAction}
    (runEq : Transition.run (WritingSession.step compression) session actions = some next) :
    next.transmitted = session.transmitted ∧
      (.readFailed ∉ actions → next.errors = session.errors) := by
  induction actions generalizing session messages with
  | nil =>
      cases runEq
      exact ⟨rfl, fun _ => rfl⟩
  | cons action actions ih =>
      rcases (run_cons_eq_some_iff _ _ _ _ _).mp runEq with ⟨middle, stepEq, rest⟩
      rcases stuck.step ordered stepEq with ⟨transmitted, errors⟩
      have still : middle.Stuck := (stuck_step_iff stepEq).mpr (Or.inl stuck)
      rcases ih still (ordered.step stepEq) rest with ⟨later, laterErrors⟩
      refine ⟨later.trans transmitted, ?_⟩
      intro heard
      rw [List.mem_cons, not_or] at heard
      exact (laterErrors heard.2).trans (errors (Ne.symm heard.1))

/-! ## Messages that are accounted for -/

/-- The message with this number was transmitted, still waits for its code to run, waits for a
write, or an error was raised since. -/
structure Awaited (number base : Nat) (session : WritingSession) : Prop where
  since : base ≤ session.errors
  place : number < session.transmitted.length ∨
    session.transmitted.length + session.sender.writer.writeQueue.length ≤ number ∨
      session.sender.writer.isWriting = true ∨ base < session.errors

/-- A message in the queue waits for a write, or an error is raised. -/
theorem awaited_doAsyncWrite {number base : Nat} (since : base ≤ session.errors) :
    Awaited number base session.doAsyncWrite := by
  refine ⟨since.trans (errors_doAsyncWrite session), ?_⟩
  rw [WritingSession.doAsyncWrite, errors]
  rcases session.sender.doAsyncWrite_cases with ⟨busy | empty, same⟩ |
    ⟨front, rest, _, _, started⟩ | ⟨_, failed⟩
  · rw [same]
    exact Or.inr (Or.inr (Or.inl busy))
  · rw [same, empty, List.length_nil, Nat.add_zero]
    rcases Nat.lt_or_ge number session.transmitted.length with before | after
    · exact Or.inl before
    · exact Or.inr (Or.inl after)
  · rw [started]
    exact Or.inr (Or.inr (Or.inl rfl))
  · rw [failed, List.count_append]
    exact Or.inr (Or.inr (Or.inr (Nat.lt_succ_of_le since)))

theorem Awaited.step {number base : Nat} (awaited : Awaited number base session)
    {action : WritingAction} (stepEq : session.step compression action = some next) :
    Awaited number base next := by
  have since := awaited.since.trans (errors_step stepEq)
  by_cases isFailure : IsFailure action
  · exact ⟨since, Or.inr (Or.inr (Or.inr
      (awaited.since.trans_lt (errors_step_of_isFailure isFailure stepEq))))⟩
  · -- only the strand moves messages, and it looks for the next write afterwards
    have unmoved : next.transmitted = session.transmitted →
        next.sender.writer = session.sender.writer → Awaited number base next := by
      intro transmitted writer
      refine ⟨since, ?_⟩
      rw [transmitted, writer]
      rcases awaited.place with sent | waiting | writing | raised
      · exact Or.inl sent
      · exact Or.inr (Or.inl waiting)
      · exact Or.inr (Or.inr (Or.inl writing))
      · exact Or.inr (Or.inr (Or.inr (raised.trans_le (errors_step stepEq))))
    cases takes_of_step stepEq with
    | write message => exact unmoved rfl rfl
    | runWrite posted => exact awaited_doAsyncWrite awaited.since
    | writeCompleted outstanding => exact awaited_doAsyncWrite awaited.since
    | writeFailed shutdownFails outstanding =>
        exact absurd (Or.inr ⟨shutdownFails, rfl⟩) isFailure
    | readCompleted message => exact unmoved rfl rfl
    | readFailed => exact absurd (Or.inl rfl) isFailure
    | closeSocket shutdownFails =>
        exact unmoved (transmitted_closeSocket session shutdownFails)
          (writer_closeSocket session shutdownFails)
    | markClosed => exact unmoved rfl rfl

theorem Awaited.run {number base : Nat} (awaited : Awaited number base session)
    {actions : List WritingAction}
    (runEq : Transition.run (WritingSession.step compression) session actions = some next) :
    Awaited number base next :=
  run_invariant (fun _ _ _ awaited _ stepEq => awaited.step stepEq) awaited
    (guarded_true _ _ _) runEq

/-- All messages of the calls are somewhere. -/
theorem Ordered.length_eq (ordered : Ordered compression messages session) :
    session.transmitted.length + session.sender.writer.writeQueue.length +
      session.posted.length = messages.length := by
  have lengths := congrArg List.length ordered.order
  rw [List.length_append, List.length_append, List.length_map, List.length_map] at lengths
  exact lengths

/-- The compressed messages whose writes have completed are the first ones, and their frames
were handed to the transport first. -/
theorem Ordered.transmitted_prefix (ordered : Ordered compression messages session) :
    session.transmitted <+: messages.map compression.compress ∧
      session.transmitted.flatMap frame <+: session.sender.writer.written := by
  constructor
  · rw [← ordered.order, List.append_assoc]
    exact List.prefix_append _ _
  · rw [ordered.stream, List.flatMap_append]
    exact List.prefix_append _ _

/-- A transmitted message is at its place among the calls. -/
theorem Ordered.getElem?_transmitted {before after : List Bytes} {message : Bytes}
    (ordered : Ordered compression (before ++ message :: after) session)
    (sent : before.length < session.transmitted.length) :
    session.transmitted[before.length]? = some (compression.compress message) := by
  rcases ordered.transmitted_prefix.1 with ⟨rest, whole⟩
  rw [← List.getElem?_append_left sent, whole, List.map_append, List.getElem?_append_right,
    List.length_map, Nat.sub_self, List.map_cons, List.getElem?_cons_zero]
  rw [List.length_map]

/-- A write after one that failed, when no read fails afterwards, is lost. -/
theorem not_accounted {before after : List WritingAction} {message : Bytes}
    {middle final : WritingSession} (ordered : Ordered compression messages middle)
    (stuck : middle.Stuck)
    (number : messages.length = (before.filterMap WritingAction.message).length)
    (laterRun : run (step compression) middle (.write message :: after) = some final)
    (unheard : .readFailed ∉ after) :
    ¬(final.transmitted[(before.filterMap WritingAction.message).length]? =
      some (compression.compress message) ∨ middle.errors < final.errors) := by
  rcases stuck.run ordered laterRun with ⟨transmitted, errors⟩
  have silent : WritingAction.readFailed ∉ WritingAction.write message :: after := by
    simpa using unheard
  rintro (sent | raised)
  · rw [transmitted, List.getElem?_eq_none] at sent
    · cases sent
    · rw [← number, ← ordered.length_eq, Nat.add_assoc]
      exact Nat.le_add_right _ _
  · rw [errors silent] at raised
    exact Nat.lt_irrefl _ raised

/-- In a session with nothing pending, the messages whose writes have completed are the first
ones in the order of the calls, and every message is transmitted or followed by an error
exactly if every write after one that failed is followed by the failure of a read. -/
theorem accounted_iff_lateWritesHeard {actions : List WritingAction} {final : WritingSession}
    (runEq : run (step compression) start actions = some final) (settled : final.Settled) :
    (final.transmitted <+:
        (actions.filterMap WritingAction.message).map compression.compress ∧
      final.transmitted.flatMap frame <+: final.sender.writer.written) ∧
    (Accounted compression actions final ↔ LateWritesHeard actions) := by
  have ordered := ordered_run (ordered_start compression) runEq
  rw [List.nil_append] at ordered
  refine ⟨ordered.transmitted_prefix, ?_⟩
  constructor
  · rintro accounted before message after rfl failed
    rcases (run_append_eq_some_iff _ _ _ _ _).mp runEq with ⟨middle, beforeRun, laterRun⟩
    have between := ordered_run (ordered_start compression) beforeRun
    rw [List.nil_append] at between
    have stuck := (stuck_run_iff (ordered_start compression) beforeRun).mpr (Or.inr failed)
    by_contra unheard
    apply not_accounted between stuck rfl laterRun unheard
    exact accounted before message after middle rfl beforeRun
  · rintro heard before message after middle rfl beforeRun
    rcases (run_append_eq_some_iff _ _ _ _ _).mp runEq with ⟨other, otherRun, laterRun⟩
    rw [← Option.some.inj (beforeRun.symm.trans otherRun)] at laterRun
    have between := ordered_run (ordered_start compression) beforeRun
    rw [List.nil_append] at between
    by_cases raised : middle.errors < final.errors
    · exact Or.inr raised
    · left
      have unraised : ∀ action ∈ WritingAction.write message :: after, ¬IsFailure action :=
        fun action mem isFailure => raised ((errors_run laterRun).2 ⟨action, mem, isFailure⟩)
      have flowing : ¬final.Stuck := by
        rw [stuck_run_iff between laterRun, stuck_run_iff (ordered_start compression) beforeRun]
        rintro ((stuck | failed) | ⟨shutdownFails, failed⟩)
        · cases stuck.1
        · have unheard := heard before message after rfl failed
          exact unraised _ (List.mem_cons_of_mem _ unheard) (Or.inl rfl)
        · exact unraised _ failed (Or.inr ⟨shutdownFails, rfl⟩)
      have awaited : Awaited (before.filterMap WritingAction.message).length middle.errors
          middle := by
        refine ⟨Nat.le_refl _, Or.inr (Or.inl ?_)⟩
        rw [← between.length_eq]
        exact Nat.le_add_right _ _
      rw [List.filterMap_append, List.filterMap_cons] at ordered
      rcases (awaited.run laterRun).place with sent | waiting | writing | failure
      · exact ordered.getElem?_transmitted sent
      · have lengths := ordered.length_eq
        rw [settled.posted, List.length_nil, List.length_append] at lengths
        have more : 0 < (message :: after.filterMap WritingAction.message).length :=
          Nat.succ_pos _
        exact absurd (lengths ▸ waiting) (Nat.not_le.mpr (Nat.lt_add_of_pos_right more))
      · exact absurd ⟨writing, settled.outstanding⟩ flowing
      · exact absurd failure raised

/-- A message whose write fails is followed by an error. -/
theorem accounted_iff_lateWritesHeard_failed :
    ∃ final, run (step tagging) start [.write [1], .runWrite, .writeFailed false] = some final ∧
      Accounted tagging [.write [1], .runWrite, .writeFailed false] final := by
  rcases Option.map_eq_some_iff.mp (by decide +kernel : (run (step tagging) start
      [.write [1], .runWrite, .writeFailed false]).map (fun final =>
        (final.posted, final.sender.isOutstanding)) = some ([], false)) with
    ⟨final, runEq, pending⟩
  rcases Prod.mk.inj pending with ⟨posted, outstanding⟩
  refine ⟨final, runEq, (accounted_iff_lateWritesHeard runEq ⟨posted, outstanding⟩).2.mpr ?_⟩
  rintro before message after split_eq ⟨shutdownFails, failed⟩
  cases before with
  | nil => cases failed
  | cons first rest =>
      rw [List.cons_append] at split_eq
      have later := (List.cons.inj split_eq).2
      have mem : WritingAction.write message ∈ [.runWrite, .writeFailed false] := by
        rw [later]
        exact List.mem_append_right rest List.mem_cons_self
      simp at mem

/-- A message that is written after a write and the read have failed is lost: nothing is
pending, and the session raises no error any more. -/
theorem write_lost :
    ∃ final, run (step tagging) start [.write [1], .runWrite, .writeFailed false, .readFailed,
        .write [2], .runWrite] = some final ∧ final.Settled ∧ final.reading = false ∧
      ¬Accounted tagging [.write [1], .runWrite, .writeFailed false, .readFailed, .write [2],
        .runWrite] final := by
  rcases Option.map_eq_some_iff.mp (by decide +kernel : (run (step tagging) start
      [.write [1], .runWrite, .writeFailed false, .readFailed]).map errors = some 2) with
    ⟨middle, beforeRun, before⟩
  rcases Option.map_eq_some_iff.mp (by decide +kernel : (run (step tagging) start
      [.write [1], .runWrite, .writeFailed false, .readFailed, .write [2], .runWrite]).map
        (fun final => (final.posted, final.sender.isOutstanding, final.reading,
          final.transmitted, final.errors)) = some ([], false, false, [], 2)) with
    ⟨final, runEq, found⟩
  simp only [Prod.mk.injEq] at found
  rcases found with ⟨posted, outstanding, reading, transmitted, after⟩
  refine ⟨final, runEq, ⟨posted, outstanding⟩, reading, ?_⟩
  intro accounted
  have outcome := accounted [.write [1], .runWrite, .writeFailed false, .readFailed] [2]
    [.runWrite] middle rfl beforeRun
  rw [transmitted, before, after] at outcome
  rcases outcome with sent | raised
  · cases sent
  · exact Nat.lt_irrefl 2 raised

end WritingSession

end VoxelEngine.ClientServer
