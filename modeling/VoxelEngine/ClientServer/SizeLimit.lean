import VoxelEngine.ClientServer.SocketFraming

/-!
# The size limit of messages

Only the reader of a session checks the size of a message.  A session that writes a message
whose compressed form is too large hands it to the transport like any other, and hears of it
when its peer has closed the connection.
-/

namespace VoxelEngine.ClientServer

open VoxelEngine.Serialize
open VoxelEngine.Transition

/-- `decompress` inverts `compress`. -/
def Compression.Lossless (compression : Compression) : Prop :=
  ∀ message, compression.decompress (compression.compress message) = some message

/-! ## The sending session -/

/-- A session that writes messages, and the events it raised. -/
structure SocketSender where
  writer : SocketWriter
  /-- The transport is busy with a write. -/
  isOutstanding : Bool
  isOpen : Bool
  events : List SessionEvent

namespace SocketSender

/-- A session that was just started. -/
def start : SocketSender :=
  ⟨SocketWriter.start, false, true, []⟩

/-- Raise an error, and `stop` the session. -/
def stopWithError (sender : SocketSender) : SocketSender :=
  { sender with
    isOpen := false
    events := sender.events ++ SessionEvent.sessionError ::
      if sender.isOpen then [SessionEvent.sessionEnd] else [] }

/-- `do_async_write` -/
def doAsyncWrite (sender : SocketSender) : SocketSender :=
  if sender.writer.isWriting || sender.writer.writeQueue.isEmpty then sender
  else if sender.isOpen then
    { sender with writer := sender.writer.doAsyncWrite, isOutstanding := true }
  else { sender with events := sender.events ++ [SessionEvent.sessionError] }

/-- Put a compressed message into `write_queue`. -/
def pushWrite (compressed : Bytes) (sender : SocketSender) : SocketSender :=
  { sender with
    writer :=
      { sender.writer with writeQueue := sender.writer.writeQueue ++ [compressed] } }

/-- Remove the message that was written. -/
def popWrite (sender : SocketSender) : SocketSender :=
  { sender with
    writer :=
      { sender.writer with
        writeQueue := sender.writer.writeQueue.tail
        isWriting := false }
    isOutstanding := false }

/-- `write` -/
def write (compression : Compression) (message : Bytes) (sender : SocketSender) :
    SocketSender :=
  (sender.pushWrite (compression.compress message)).doAsyncWrite

/-- `on_async_write_complete` -/
def onAsyncWriteComplete (success : Bool) (sender : SocketSender) : Option SocketSender :=
  if sender.isOutstanding then
    if success then some sender.popWrite.doAsyncWrite
    else some (stopWithError { sender with isOutstanding := false })
  else none

end SocketSender

/-! ## Two sessions -/

/-- A session that writes and its peer, which has received some of the bytes that were
handed to the transport. -/
structure SessionLink where
  sender : SocketSender
  received : Nat
  peer : SocketReader

/-- What happens between a session and its peer.  Reads and writes of the session only fail
because its peer closed the connection. -/
inductive LinkAction where
  | write (message : Bytes)
  | writeCompleted (success : Bool)
  | readFailed
  /-- A read of the peer completes with the next bytes. -/
  | deliver (count : Nat)

/-- The message that an action writes. -/
def LinkAction.message : LinkAction → Option Bytes
  | write message => some message
  | _ => none

namespace SessionLink

/-- Two sessions that were just started. -/
def start : SessionLink :=
  ⟨SocketSender.start, 0, SocketReader.start⟩

/-- The bytes that the peer did not receive yet. -/
def inFlight (link : SessionLink) : Bytes :=
  link.sender.writer.written.drop link.received

/-- The peer has ended its session. -/
def IsEnded (link : SessionLink) : Prop :=
  link.peer.phase = ReadPhase.closed

instance (link : SessionLink) : Decidable link.IsEnded :=
  inferInstanceAs (Decidable (_ = _))

/-- One step of a session, of its peer or of the transport between them. -/
def step (compression : Compression) (link : SessionLink) : LinkAction → Option SessionLink
  | LinkAction.write message =>
      some { link with sender := link.sender.write compression message }
  | LinkAction.writeCompleted success =>
      if success ∨ link.IsEnded then
        (link.sender.onAsyncWriteComplete success).map fun sender =>
          { link with sender := sender }
      else none
  | LinkAction.readFailed =>
      if link.IsEnded then some { link with sender := link.sender.stopWithError } else none
  | LinkAction.deliver count =>
      (link.peer.step compression (ReadCompletion.read (link.inFlight.take count))).map
        fun peer =>
          { link with
            received := link.received + (link.inFlight.take count).length
            peer := peer }

/-- The peer keeps its session as long as nothing more is written. -/
def Unbroken (compression : Compression) (link : SessionLink) : Prop :=
  ∀ (later : List LinkAction) (final : SessionLink),
    (∀ action ∈ later, action.message = none) →
      run (step compression) link later = some final → ¬final.IsEnded

end SessionLink

/-! ## What the peer reads -/

namespace SocketReader

variable {compression : Compression} {reader : SocketReader}

/-- A body that is being read is not complete. -/
def Unfinished (reader : SocketReader) : Prop :=
  ∀ size buffer, reader.phase = ReadPhase.body size buffer → buffer.length < size

theorem unfinished_header (buffer : Bytes) (events : List SessionEvent) :
    Unfinished ⟨ReadPhase.header buffer, events⟩ := by
  intro size body phaseEq
  cases phaseEq

theorem unfinished_closed (events : List SessionEvent) :
    Unfinished ⟨ReadPhase.closed, events⟩ := by
  intro size body phaseEq
  cases phaseEq

theorem unfinished_thrown (events : List SessionEvent) :
    Unfinished ⟨ReadPhase.thrown, events⟩ := by
  intro size body phaseEq
  cases phaseEq

theorem unfinished_onAsyncReadComplete (buffer : Bytes) :
    (reader.onAsyncReadComplete compression buffer).Unfinished := by
  unfold onAsyncReadComplete
  split
  · exact unfinished_header _ _
  · exact unfinished_thrown _

theorem unfinished_onAsyncReadHeader (buffer : Bytes) :
    (reader.onAsyncReadHeader compression buffer).Unfinished := by
  unfold onAsyncReadHeader
  split
  · exact unfinished_thrown _
  · split
    · exact unfinished_closed _
    · split
      · exact unfinished_onAsyncReadComplete []
      · rename_i some_size
        intro size body phaseEq
        cases phaseEq
        exact Nat.pos_of_ne_zero some_size

theorem Unfinished.onRead (unfinished : reader.Unfinished) (byte : UInt8) :
    (reader.onRead compression [byte]).Unfinished := by
  rcases reader with ⟨⟨buffer⟩ | ⟨size, buffer⟩ | _ | _, events⟩
  · simp only [SocketReader.onRead]
    split
    · exact unfinished_onAsyncReadHeader _
    · exact unfinished_header _ _
  · have missing := unfinished size buffer rfl
    simp only [SocketReader.onRead]
    split
    · exact unfinished_onAsyncReadComplete _
    · rename_i incomplete
      intro size' body phaseEq
      cases phaseEq
      rw [List.length_append, List.length_singleton] at incomplete ⊢
      omega
  · exact unfinished_closed events
  · exact unfinished_thrown events

theorem Unfinished.feed (unfinished : reader.Unfinished) (stream : Bytes) :
    (feed compression reader stream).Unfinished := by
  induction stream generalizing reader with
  | nil => exact unfinished
  | cons byte stream ih => exact ih (unfinished.onRead byte)

/-- A reader that asks for nothing has ended or failed, and stays as it is. -/
theorem feed_of_requested_eq_zero (unfinished : reader.Unfinished)
    (nothing : reader.requested = 0) (stream : Bytes) :
    SocketReader.feed compression reader stream = reader := by
  induction stream with
  | nil => rfl
  | cons byte stream ih =>
      have same : reader.onRead compression [byte] = reader := by
        rcases reader with ⟨⟨buffer⟩ | ⟨size, buffer⟩ | _ | _, events⟩
        · cases nothing
        · have missing := unfinished size buffer rfl
          simp only [requested] at nothing
          omega
        · rfl
        · rfl
      rw [SocketReader.feed, List.foldl_cons, same]
      exact ih

/-- A reader that has ended stays so. -/
theorem phase_feed_of_closed (closed : reader.phase = ReadPhase.closed) (stream : Bytes) :
    (SocketReader.feed compression reader stream).phase = ReadPhase.closed := by
  rcases reader with ⟨phase, events⟩
  cases closed
  rw [feed_closed]

/-- A frame that announces too large a message ends the session. -/
theorem feed_frame_large {compressed : Bytes} (addressable : compressed.length < 2 ^ 64)
    (large : messageSizeLimit < compressed.length) (events : List SessionEvent) :
    SocketReader.feed compression ⟨ReadPhase.header [], events⟩ (frame compressed) =
      ⟨ReadPhase.closed, events ++ [SessionEvent.sessionError, SessionEvent.sessionEnd]⟩ := by
  have field := lengthField_encodeVariableLength (UInt64.ofNat compressed.length)
  have length_eq : (UInt64.ofNat compressed.length).toNat = compressed.length := by
    rw [UInt64.toNat_ofNat', Nat.mod_eq_of_lt addressable]
  rw [frame, feed_append, feed_header field, onAsyncReadHeader_eq field, length_eq,
    if_pos large]
  exact feed_closed compressed

/-- The peer ends its session over a stream of frames exactly if one of the messages is too
large. -/
theorem feed_frames_closed_iff (lossless : compression.Lossless) {messages : List Bytes}
    (addressable : ∀ message ∈ messages, (compression.compress message).length < 2 ^ 64)
    (events : List SessionEvent) :
    (SocketReader.feed compression ⟨ReadPhase.header [], events⟩
        ((messages.map compression.compress).flatMap frame)).phase = ReadPhase.closed ↔
      ∃ message ∈ messages, messageSizeLimit < (compression.compress message).length := by
  induction messages generalizing events with
  | nil => simp [SocketReader.feed]
  | cons message messages ih =>
      rw [List.forall_mem_cons] at addressable
      rw [List.map_cons, List.flatMap_cons, feed_append, List.exists_mem_cons_iff]
      by_cases large : messageSizeLimit < (compression.compress message).length
      · rw [feed_frame_large addressable.1 large, feed_closed]
        exact iff_of_true rfl (Or.inl large)
      · rw [feed_frame (Nat.le_of_not_lt large) (lossless message), ih addressable.2]
        exact (or_iff_right large).symm

end SocketReader

/-! ## Any run of the two sessions -/

theorem SocketWriter.written_doAsyncWrite (writer : SocketWriter) :
    writer.written <+: writer.doAsyncWrite.written := by
  unfold doAsyncWrite
  split
  · exact List.prefix_append _ _
  · exact List.prefix_rfl

@[simp]
theorem SocketWriter.writeQueue_doAsyncWrite (writer : SocketWriter) :
    writer.doAsyncWrite.writeQueue = writer.writeQueue := by
  unfold doAsyncWrite
  split <;> rfl

namespace SocketSender

variable {compression : Compression} {sender next : SocketSender}

/-- An open session starts its next write if the transport is not busy. -/
theorem doAsyncWrite_of_open (opened : sender.isOpen = true)
    (outstanding : sender.isOutstanding = sender.writer.isWriting) :
    sender.doAsyncWrite =
      { sender with
        writer := sender.writer.doAsyncWrite
        isOutstanding := sender.writer.doAsyncWrite.isWriting } := by
  rcases sender with ⟨⟨queue, isWriting, written⟩, isOutstanding, isOpen, events⟩
  cases opened
  cases outstanding
  cases isOutstanding with
  | true => rfl
  | false => cases queue <;> rfl

/-- A closed session hands nothing to the transport. -/
theorem doAsyncWrite_of_closed (closed : sender.isOpen = false) :
    sender.doAsyncWrite.writer = sender.writer ∧ sender.doAsyncWrite.isOpen = false := by
  have closed_ne : ¬sender.isOpen = true := by
    rw [closed]
    exact Bool.false_ne_true
  rw [doAsyncWrite, if_neg closed_ne]
  split <;> exact ⟨rfl, closed⟩

end SocketSender

namespace SessionLink

variable {compression : Compression} {messages : List Bytes} {link next final : SessionLink}

/-- What was handed to the transport begins the frames of the messages that were written;
the peer has read a part of it, and the session raises no event before the peer has ended. -/
structure Linked (compression : Compression) (messages : List Bytes) (link : SessionLink) :
    Prop where
  received_le : link.received ≤ link.sender.writer.written.length
  peer_eq : link.peer = SocketReader.feed compression SocketReader.start
    (link.sender.writer.written.take link.received)
  handed : link.sender.writer.written <+: (messages.map compression.compress).flatMap frame
  sent : link.sender.isOpen = true →
    SocketWriter.Sent (messages.map compression.compress) link.sender.writer ∧
      link.sender.isOutstanding = link.sender.writer.isWriting
  reported : link.sender.isOpen = false ∨ link.sender.events ≠ [] → link.IsEnded

theorem linked_start (compression : Compression) : Linked compression [] start where
  received_le := Nat.le_refl 0
  peer_eq := rfl
  handed := List.prefix_rfl
  sent _ := ⟨SocketWriter.sent_start, rfl⟩
  reported := by
    rintro (closed | some)
    · cases closed
    · exact absurd rfl some

/-- Writing more changes nothing for the peer. -/
theorem Linked.withSender (linked : Linked compression messages link) {sender : SocketSender}
    {more : List Bytes} (grows : link.sender.writer.written <+: sender.writer.written)
    (handed : sender.writer.written <+: (more.map compression.compress).flatMap frame)
    (sent : sender.isOpen = true →
      SocketWriter.Sent (more.map compression.compress) sender.writer ∧
        sender.isOutstanding = sender.writer.isWriting)
    (reported : sender.isOpen = false ∨ sender.events ≠ [] → link.IsEnded) :
    Linked compression more { link with sender := sender } where
  received_le := Nat.le_trans linked.received_le grows.length_le
  peer_eq := by
    rcases grows with ⟨rest, same⟩
    rw [linked.peer_eq, ← same, List.take_append_of_le_length linked.received_le]
  handed := handed
  sent := sent
  reported := reported

/-- All that an open session has queued will be handed to the transport. -/
theorem handed_of_sent {compressed : List Bytes} {writer : SocketWriter}
    (sent : SocketWriter.Sent compressed writer) :
    writer.written <+: compressed.flatMap frame := by
  rw [← sent.stream]
  exact List.prefix_append _ _

/-- Writing and completing a write, on a session that is open or closed. -/
theorem Linked.doAsyncWrite (linked : Linked compression messages link) (sender : SocketSender)
    (added : List Bytes) (same : sender.writer.written = link.sender.writer.written)
    (isOpen : sender.isOpen = link.sender.isOpen) (events : sender.events = link.sender.events)
    (outstanding : link.sender.isOpen = true → sender.isOutstanding = sender.writer.isWriting)
    (sent : link.sender.isOpen = true →
      SocketWriter.Sent ((messages ++ added).map compression.compress)
        sender.writer.doAsyncWrite) :
    Linked compression (messages ++ added) { link with sender := sender.doAsyncWrite } := by
  cases opened : link.sender.isOpen with
  | true =>
      rw [SocketSender.doAsyncWrite_of_open (isOpen.trans opened) (outstanding opened)]
      apply linked.withSender
      · rw [← same]
        exact SocketWriter.written_doAsyncWrite _
      · exact handed_of_sent (sent opened)
      · intro _
        exact ⟨sent opened, rfl⟩
      · intro reported
        apply linked.reported
        rw [← isOpen, ← events]
        exact reported
  | false =>
      have unchanged := SocketSender.doAsyncWrite_of_closed (isOpen.trans opened)
      have handed : sender.doAsyncWrite.writer.written = link.sender.writer.written := by
        rw [unchanged.1, same]
      apply linked.withSender
      · exact ⟨[], (List.append_nil _).trans handed.symm⟩
      · rw [handed, List.map_append, List.flatMap_append]
        exact linked.handed.trans (List.prefix_append _ _)
      · intro reopened
        rw [unchanged.2] at reopened
        cases reopened
      · exact fun _ => linked.reported (Or.inl opened)

/-- A session that is stopped has a peer that has ended. -/
theorem Linked.stopWithError (linked : Linked compression messages link) (ended : link.IsEnded)
    {sender : SocketSender} (same : sender.writer = link.sender.writer) :
    Linked compression messages { link with sender := sender.stopWithError } := by
  apply linked.withSender
  · exact ⟨[], (List.append_nil _).trans (congrArg SocketWriter.written same).symm⟩
  · rw [SocketSender.stopWithError, same]
    exact linked.handed
  · intro opened
    cases opened
  · exact fun _ => ended

/-- Reading more makes the peer read the next bytes. -/
theorem Linked.deliver (linked : Linked compression messages link) {count : Nat}
    {peer : SocketReader}
    (read : link.peer.step compression (ReadCompletion.read (link.inFlight.take count)) =
      some peer) :
    Linked compression messages
      { link with
        received := link.received + (link.inFlight.take count).length
        peer := peer } := by
  simp only [SocketReader.step, Option.ite_none_right_eq_some, Option.some.injEq] at read
  rcases read with ⟨⟨chunkSome, fits⟩, rfl⟩
  have received_le := linked.received_le
  constructor
  · have chunk_le : (link.inFlight.take count).length ≤ link.inFlight.length :=
      List.length_take_le' count link.inFlight
    rw [inFlight, List.length_drop] at chunk_le
    simp only [inFlight]
    omega
  · have chunk : link.inFlight.take count =
        (link.sender.writer.written.drop link.received).take
          (link.inFlight.take count).length :=
      List.prefix_iff_eq_take.mp (List.take_prefix count link.inFlight)
    rw [List.take_add, SocketReader.feed_append, ← linked.peer_eq, ← chunk]
    exact SocketReader.onRead_eq_feed chunkSome fits
  · exact linked.handed
  · exact linked.sent
  · intro reported
    have ended := linked.reported reported
    rw [IsEnded] at ended
    rw [SocketReader.requested, ended] at fits
    exact absurd (List.eq_nil_of_length_eq_zero (Nat.le_zero.mp fits)) chunkSome

/-- Every step leaves what the two sessions share in order. -/
theorem Linked.step (linked : Linked compression messages link) {action : LinkAction}
    (stepEq : link.step compression action = some next) :
    Linked compression (messages ++ action.message.toList) next := by
  cases action with
  | write message =>
      cases stepEq
      apply linked.doAsyncWrite (link.sender.pushWrite (compression.compress message)) [message]
        rfl rfl rfl
      · exact fun opened => (linked.sent opened).2
      · intro opened
        have written : link.sender.writer.step compression (WriteAction.write message) = some
            (link.sender.pushWrite (compression.compress message)).writer.doAsyncWrite := rfl
        rw [List.map_append]
        exact (linked.sent opened).1.step written
  | writeCompleted success =>
      simp only [SessionLink.step, Option.ite_none_right_eq_some, Option.map_eq_some_iff]
        at stepEq
      rcases stepEq with ⟨allowed, sender, completed, rfl⟩
      rw [SocketSender.onAsyncWriteComplete, Option.ite_none_right_eq_some] at completed
      rcases completed with ⟨outstanding, completed⟩
      cases success with
      | true =>
          cases completed
          apply linked.doAsyncWrite link.sender.popWrite [] rfl rfl rfl
          · exact fun _ => rfl
          · intro opened
            have writing : link.sender.writer.isWriting = true :=
              (linked.sent opened).2.symm.trans outstanding
            have taken : link.sender.writer.step compression WriteAction.complete =
                some link.sender.popWrite.writer.doAsyncWrite := if_pos writing
            rw [List.map_append]
            exact (linked.sent opened).1.step taken
      | false =>
          cases completed
          simp only [LinkAction.message, Option.toList_none, List.append_nil]
          have ended : link.IsEnded := by
            rcases allowed with successful | ended
            · cases successful
            · exact ended
          exact linked.stopWithError ended rfl
  | readFailed =>
      rw [SessionLink.step, Option.ite_none_right_eq_some] at stepEq
      rcases stepEq with ⟨ended, ⟨⟩⟩
      simp only [LinkAction.message, Option.toList_none, List.append_nil]
      exact linked.stopWithError ended rfl
  | deliver count =>
      rw [SessionLink.step, Option.map_eq_some_iff] at stepEq
      rcases stepEq with ⟨peer, read, rfl⟩
      simp only [LinkAction.message, Option.toList_none, List.append_nil]
      exact linked.deliver read

theorem linked_run (linked : Linked compression messages link) {actions : List LinkAction}
    (runEq : run (SessionLink.step compression) link actions = some final) :
    Linked compression (messages ++ actions.filterMap LinkAction.message) final := by
  induction actions generalizing link messages with
  | nil =>
      cases runEq
      rw [List.filterMap_nil, List.append_nil]
      exact linked
  | cons action actions ih =>
      rcases (run_cons_eq_some_iff _ _ _ _ _).mp runEq with ⟨next, stepEq, rest⟩
      have later := ih (linked.step stepEq) rest
      rw [List.append_assoc] at later
      cases action with
      | write message => exact later
      | writeCompleted success => exact later
      | readFailed => exact later
      | deliver count => exact later

/-- The transport can take all that an open session has queued. -/
theorem Linked.exists_flushed (linked : Linked compression messages link)
    (opened : link.sender.isOpen = true) :
    ∃ later final, (∀ action ∈ later, action.message = none) ∧
      run (SessionLink.step compression) link later = some final ∧
        final.sender.events = link.sender.events ∧
          final.sender.writer.written = (messages.map compression.compress).flatMap frame := by
  generalize lengthEq : link.sender.writer.writeQueue.length = length
  induction length generalizing link with
  | zero =>
      have nothing := List.eq_nil_of_length_eq_zero lengthEq
      have stream := (linked.sent opened).1.stream
      have waiting : link.sender.writer.waiting = [] := by
        rw [SocketWriter.waiting, nothing]
        split <;> rfl
      rw [waiting, List.flatMap_nil, List.append_nil] at stream
      exact ⟨[], link, by simp, rfl, rfl, stream⟩
  | succ length ih =>
      rcases linked.sent opened with ⟨sent, outstandingEq⟩
      have some_queued : link.sender.writer.writeQueue ≠ [] := by
        intro nothing
        rw [nothing] at lengthEq
        cases lengthEq
      have writing : link.sender.writer.isWriting = true := by
        cases isWriting : link.sender.writer.isWriting with
        | true => rfl
        | false => exact absurd (sent.idle isWriting) some_queued
      have outstanding := outstandingEq.trans writing
      -- the front of the queue was written, and the transport takes the next message
      have stepEq : link.step compression (LinkAction.writeCompleted true) =
          some { link with sender := link.sender.popWrite.doAsyncWrite } := by
        rw [SessionLink.step, if_pos (Or.inl rfl), SocketSender.onAsyncWriteComplete,
          if_pos outstanding]
        rfl
      have next := linked.step stepEq
      have popped : link.sender.popWrite.isOpen = true := opened
      rw [SocketSender.doAsyncWrite_of_open popped rfl] at stepEq next
      simp only [LinkAction.message, Option.toList_none, List.append_nil] at next
      have shorter : link.sender.popWrite.writer.doAsyncWrite.writeQueue.length = length := by
        rw [SocketWriter.writeQueue_doAsyncWrite, SocketSender.popWrite, List.length_tail,
          lengthEq]
        rfl
      rcases ih next opened shorter with ⟨later, final, quiet, runEq, events, flushed⟩
      refine ⟨LinkAction.writeCompleted true :: later, final, ?_, ?_, events, flushed⟩
      · rw [List.forall_mem_cons]
        exact ⟨rfl, quiet⟩
      · exact (run_cons_eq_some_iff _ _ _ _ _).mpr ⟨_, stepEq, runEq⟩

/-- The peer can read all that was handed to the transport, unless it ends before. -/
theorem Linked.exists_delivered (linked : Linked compression messages link) :
    ∃ later final, (∀ action ∈ later, action.message = none) ∧
      run (SessionLink.step compression) link later = some final ∧
        final.sender = link.sender ∧
          final.peer = SocketReader.feed compression SocketReader.start
            link.sender.writer.written := by
  generalize lengthEq : link.inFlight.length = length
  induction length generalizing link with
  | zero =>
      have nothing := List.eq_nil_of_length_eq_zero lengthEq
      have all := List.take_append_drop link.received link.sender.writer.written
      rw [← inFlight, nothing, List.append_nil] at all
      exact ⟨[], link, by simp, rfl, rfl, by rw [linked.peer_eq, all]⟩
  | succ length ih =>
      by_cases listening : link.peer.requested = 0
      · have unfinished : link.peer.Unfinished := by
          rw [linked.peer_eq]
          exact (SocketReader.unfinished_header [] []).feed _
        refine ⟨[], link, by simp, rfl, rfl, ?_⟩
        calc
          link.peer = SocketReader.feed compression link.peer link.inFlight :=
            (SocketReader.feed_of_requested_eq_zero unfinished listening _).symm
          _ = SocketReader.feed compression SocketReader.start link.sender.writer.written := by
            rw [linked.peer_eq, ← SocketReader.feed_append, inFlight, List.take_append_drop]
      · have oneByte : (link.inFlight.take 1).length = 1 := by
          rw [List.length_take, lengthEq]
          omega
        have chunkSome : link.inFlight.take 1 ≠ [] := by
          intro nothing
          rw [nothing] at oneByte
          cases oneByte
        have fits : (link.inFlight.take 1).length ≤ link.peer.requested := by
          rw [oneByte]
          exact Nat.pos_of_ne_zero listening
        have stepEq : link.step compression (LinkAction.deliver 1) =
            some { link with
              received := link.received + (link.inFlight.take 1).length
              peer := link.peer.onRead compression (link.inFlight.take 1) } := by
          rw [SessionLink.step, SocketReader.step, if_pos ⟨chunkSome, fits⟩]
          rfl
        have next := linked.step stepEq
        simp only [LinkAction.message, Option.toList_none, List.append_nil] at next
        have shorter : (link.sender.writer.written.drop
            (link.received + (link.inFlight.take 1).length)).length = length := by
          rw [inFlight, List.length_drop] at lengthEq
          rw [oneByte, List.length_drop]
          omega
        rcases ih next shorter with ⟨later, final, quiet, runEq, same, delivered⟩
        refine ⟨LinkAction.deliver 1 :: later, final, ?_, ?_, same, delivered⟩
        · rw [List.forall_mem_cons]
          exact ⟨rfl, quiet⟩
        · exact (run_cons_eq_some_iff _ _ _ _ _).mpr ⟨_, stepEq, runEq⟩

/-- The peer can read the frames of all messages that were written, unless it ends before;
the session raises nothing meanwhile. -/
theorem Linked.exists_drained (linked : Linked compression messages link)
    (opened : link.sender.isOpen = true) :
    ∃ later final, (∀ action ∈ later, action.message = none) ∧
      run (SessionLink.step compression) link later = some final ∧
        final.sender.events = link.sender.events ∧
          final.peer = SocketReader.feed compression SocketReader.start
            ((messages.map compression.compress).flatMap frame) := by
  rcases linked.exists_flushed opened with ⟨first, middle, firstQuiet, firstRun, events, flushed⟩
  have between := linked_run linked firstRun
  rcases between.exists_delivered with ⟨second, final, quiet, secondRun, same, delivered⟩
  refine ⟨first ++ second, final, ?_, ?_, ?_, ?_⟩
  · intro action mem
    rcases List.mem_append.mp mem with mem | mem
    · exact firstQuiet action mem
    · exact quiet action mem
  · exact (run_append_eq_some_iff _ _ _ _ _).mpr ⟨middle, firstRun, secondRun⟩
  · rw [same, events]
  · rw [delivered, flushed]

/-- As long as every message is small the peer keeps its session. -/
theorem Linked.not_isEnded (linked : Linked compression messages link)
    (lossless : compression.Lossless)
    (small : ∀ message ∈ messages,
      (compression.compress message).length ≤ messageSizeLimit) : ¬link.IsEnded := by
  intro ended
  have addressable : ∀ message ∈ messages, (compression.compress message).length < 2 ^ 64 :=
    fun message mem => Nat.lt_of_le_of_lt (small message mem) (by decide)
  rcases (List.take_prefix _ _).trans linked.handed with ⟨rest, whole⟩
  rw [IsEnded, linked.peer_eq] at ended
  have closed := @SocketReader.phase_feed_of_closed compression _ ended rest
  rw [← SocketReader.feed_append, whole] at closed
  rcases (SocketReader.feed_frames_closed_iff lossless addressable []).mp closed with
    ⟨message, mem, large⟩
  exact Nat.not_lt.mpr (small message mem) large

/-- Whatever two sessions do, the writing session raises no event before its peer has ended,
and the peer keeps its session, however it receives what was written, exactly if no message
that was written compresses to more than the limit. -/
theorem unbroken_iff_small (lossless : compression.Lossless) {actions : List LinkAction}
    (runEq : run (SessionLink.step compression) start actions = some link)
    (addressable : ∀ message ∈ actions.filterMap LinkAction.message,
      (compression.compress message).length < 2 ^ 64) :
    (link.sender.events ≠ [] → link.IsEnded) ∧
      (link.Unbroken compression ↔
        ∀ message ∈ actions.filterMap LinkAction.message,
          (compression.compress message).length ≤ messageSizeLimit) := by
  have linked := linked_run (linked_start compression) runEq
  rw [List.nil_append] at linked
  constructor
  · exact fun reported => linked.reported (Or.inr reported)
  · constructor
    · intro unbroken message mem
      by_contra large
      have kept : ¬link.IsEnded := unbroken [] link (by simp) rfl
      have opened : link.sender.isOpen = true := by
        cases isOpen : link.sender.isOpen with
        | true => rfl
        | false => exact absurd (linked.reported (Or.inl isOpen)) kept
      rcases linked.exists_drained opened with ⟨later, final, quiet, laterRun, _, drained⟩
      apply unbroken later final quiet laterRun
      rw [IsEnded, drained]
      exact (SocketReader.feed_frames_closed_iff lossless addressable []).mpr
        ⟨message, mem, Nat.lt_of_not_le large⟩
    · intro small later final quiet laterRun
      have later_messages : later.filterMap LinkAction.message = [] :=
        List.filterMap_eq_nil_iff.mpr quiet
      have after := linked_run linked laterRun
      rw [later_messages, List.append_nil] at after
      exact after.not_isEnded lossless small

/-- A message that is written and read in between leaves the peer with its session. -/
theorem unbroken_iff_small_tagging :
    ∃ link : SessionLink,
      run (step tagging) start [LinkAction.write [1, 2], LinkAction.deliver 1,
        LinkAction.writeCompleted true] = some link ∧ link.Unbroken tagging := by
  have ran : (run (step tagging) start [LinkAction.write [1, 2], LinkAction.deliver 1,
      LinkAction.writeCompleted true]).isSome = true := by
    decide +kernel
  rcases Option.isSome_iff_exists.mp ran with ⟨link, runEq⟩
  exact ⟨link, runEq, (unbroken_iff_small tagging_restores runEq (by decide)).2.mpr (by decide)⟩

/-- A session that writes one message that is too large loses its peer without an event of its
own. -/
theorem exists_ended {message : Bytes}
    (addressable : (compression.compress message).length < 2 ^ 64)
    (large : messageSizeLimit < (compression.compress message).length) :
    ∃ actions final, actions.filterMap LinkAction.message = [message] ∧
      run (SessionLink.step compression) start actions = some final ∧
        final.peer = ⟨ReadPhase.closed, [SessionEvent.sessionError, SessionEvent.sessionEnd]⟩ ∧
          final.sender.events = [] := by
  have stepEq : start.step compression (LinkAction.write message) =
      some { start with sender := start.sender.write compression message } := rfl
  have linked := (linked_start compression).step stepEq
  rcases linked.exists_drained rfl with ⟨later, final, quiet, laterRun, events, drained⟩
  refine ⟨LinkAction.write message :: later, final, ?_, ?_, ?_, events⟩
  · rw [List.filterMap_cons, List.filterMap_eq_nil_iff.mpr quiet]
    rfl
  · exact (run_cons_eq_some_iff _ _ _ _ _).mpr ⟨_, stepEq, laterRun⟩
  · have whole : (([] ++ (LinkAction.write message).message.toList).map
        compression.compress).flatMap frame = frame (compression.compress message) :=
      List.append_nil _
    rw [drained, whole]
    exact SocketReader.feed_frame_large addressable large []

end SessionLink

end VoxelEngine.ClientServer
