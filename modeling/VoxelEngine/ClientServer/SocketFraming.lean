import VoxelEngine.ClientServer.SocketSession
import VoxelEngine.Transition.Run

/-!
# Socket framing

What a reader makes of a stream does not depend on where the stream is cut into read
completions.  It turns the stream of a writer into the messages that were written, and stops
at the first header that announces too large a message.
-/

namespace VoxelEngine.ClientServer

open VoxelEngine.Serialize
open VoxelEngine.Transition

/-! ## Writing -/

/-- The message that an action writes. -/
def WriteAction.message : WriteAction → Option Bytes
  | write message => some message
  | complete => none

namespace SocketWriter

variable {compression : Compression} {writer : SocketWriter} {compressed : List Bytes}

/-- The compressed messages that were not handed to the transport yet. -/
def waiting (writer : SocketWriter) : List Bytes :=
  if writer.isWriting then writer.writeQueue.tail else writer.writeQueue

/-- What was handed to the transport, and what still has to be, are the frames of the
messages; there is a write exactly while messages are queued. -/
structure Sent (compressed : List Bytes) (writer : SocketWriter) : Prop where
  stream : writer.written ++ writer.waiting.flatMap frame = compressed.flatMap frame
  idle : writer.isWriting = false → writer.writeQueue = []
  busy : writer.isWriting = true → writer.writeQueue ≠ []

/-- Starting the next write hands one more frame to the transport. -/
theorem sent_doAsyncWrite
    (stream : writer.written ++ writer.waiting.flatMap frame = compressed.flatMap frame)
    (busy : writer.isWriting = true → writer.writeQueue ≠ []) :
    Sent compressed writer.doAsyncWrite := by
  rcases writer with ⟨queue, isWriting, written⟩
  cases isWriting with
  | true => exact ⟨stream, fun off => absurd (Eq.symm off) Bool.false_ne_true, busy⟩
  | false =>
      cases queue with
      | nil => exact ⟨stream, fun _ => rfl, busy⟩
      | cons front queue =>
          constructor
          · rw [← stream]
            simp [doAsyncWrite, waiting]
          · intro off
            cases off
          · intro _
            exact List.cons_ne_nil front queue

/-- Writing a message and completing a write keep the stream in order. -/
theorem Sent.step (sent : Sent compressed writer) {action : WriteAction} {next : SocketWriter}
    (stepEq : writer.step compression action = some next) :
    Sent (compressed ++ (action.message.map compression.compress).toList) next := by
  have stream := sent.stream
  have busy := sent.busy
  rcases writer with ⟨queue, isWriting, written⟩
  cases action with
  | write message =>
      cases stepEq
      apply sent_doAsyncWrite
      · cases isWriting with
        | false =>
            simp only [waiting, Bool.false_eq_true, if_false] at stream ⊢
            rw [List.flatMap_append, ← List.append_assoc, stream, ← List.flatMap_append]
            rfl
        | true =>
            simp only [waiting, if_true] at stream ⊢
            rw [List.tail_append_of_ne_nil (busy rfl), List.flatMap_append, ← List.append_assoc,
              stream, ← List.flatMap_append]
            rfl
      · intro _
        simp
  | complete =>
      cases isWriting with
      | false => cases stepEq
      | true =>
          cases stepEq
          rw [WriteAction.message, Option.map_none, Option.toList_none, List.append_nil]
          apply sent_doAsyncWrite
          · exact stream
          · intro off
            cases off

/-- What a writer hands to the transport is the frames of the messages, in order. -/
theorem sent_run {actions : List WriteAction} {final : SocketWriter}
    (sent : Sent compressed writer)
    (runEq : run (step compression) writer actions = some final) :
    Sent (compressed ++ (actions.filterMap WriteAction.message).map compression.compress)
      final := by
  induction actions generalizing writer compressed with
  | nil =>
      cases runEq
      rw [List.filterMap_nil, List.map_nil, List.append_nil]
      exact sent
  | cons action actions ih =>
      rcases (run_cons_eq_some_iff _ _ _ _ _).mp runEq with ⟨next, stepEq, rest⟩
      have later := ih (sent.step stepEq) rest
      rw [List.append_assoc] at later
      cases action with
      | write message => exact later
      | complete => exact later

theorem sent_start : Sent [] start :=
  ⟨rfl, fun _ => rfl, fun on => by cases on⟩

/-- Messages can be written one by one, each after the write of the one before is complete. -/
theorem run_alternating (compression : Compression) (messages : List Bytes) (written : Bytes) :
    run (step compression) ⟨[], false, written⟩
        (messages.flatMap fun message => [.write message, .complete]) =
      some ⟨[], false, written ++ (messages.map compression.compress).flatMap frame⟩ := by
  induction messages generalizing written with
  | nil => rw [List.map_nil, List.flatMap_nil, List.flatMap_nil, List.append_nil, run_nil]
  | cons message rest ih =>
      have first : run (step compression) ⟨[], false, written⟩ [.write message, .complete] =
          some ⟨[], false, written ++ frame (compression.compress message)⟩ := rfl
      rw [List.flatMap_cons, run_append_of_run first, ih, List.map_cons, List.flatMap_cons,
        List.append_assoc]

end SocketWriter

/-! ## Cutting the stream -/

namespace SocketReader

variable {compression : Compression} {reader final : SocketReader}

/-- The read completions that yield the given chunks. -/
abbrev readAll (compression : Compression) (reader : SocketReader) (chunks : List Bytes) :
    Option SocketReader :=
  run (step compression) reader (chunks.map ReadCompletion.read)

/-- What a reader makes of a stream, byte by byte. -/
def feed (compression : Compression) (reader : SocketReader) (stream : Bytes) : SocketReader :=
  stream.foldl (fun current byte => current.onRead compression [byte]) reader

@[simp]
theorem feed_append (first second : Bytes) :
    feed compression reader (first ++ second) =
      feed compression (feed compression reader first) second := by
  rw [feed, List.foldl_append]
  rfl

/-- A chunk may as well arrive in two pieces. -/
theorem onRead_append (compression : Compression) {first second : Bytes} (firstSome : first ≠ [])
    (secondSome : second ≠ [])
    (fits : (first ++ second).length ≤ reader.requested) :
    reader.onRead compression (first ++ second) =
        (reader.onRead compression first).onRead compression second ∧
      second.length ≤ (reader.onRead compression first).requested := by
  have first_pos := List.length_pos_iff.mpr firstSome
  have second_pos := List.length_pos_iff.mpr secondSome
  rw [List.length_append] at fits
  rcases reader with ⟨⟨buffer⟩ | ⟨size, buffer⟩ | _ | _, events⟩
  · simp only [requested] at fits
    omega
  · simp only [requested] at fits
    have incomplete : ¬(buffer ++ first).length = size := by
      rw [List.length_append]
      omega
    have partly : onRead compression first ⟨ReadPhase.body size buffer, events⟩ =
        ⟨ReadPhase.body size (buffer ++ first), events⟩ := if_neg incomplete
    rw [partly]
    constructor
    · simp only [onRead, onAsyncReadComplete, List.append_assoc]
    · simp only [requested, List.length_append]
      omega
  · simp only [requested] at fits
    omega
  · simp only [requested] at fits
    omega

theorem onRead_eq_feed {chunk : Bytes} (chunkSome : chunk ≠ [])
    (fits : chunk.length ≤ reader.requested) :
    reader.onRead compression chunk = feed compression reader chunk := by
  induction chunk generalizing reader with
  | nil => exact absurd rfl chunkSome
  | cons byte rest ih =>
      by_cases last : rest = []
      · rw [last]
        rfl
      · have split := onRead_append compression (List.cons_ne_nil byte []) last fits
        rw [← List.singleton_append, split.1, ih last split.2]
        rfl

/-- Where the stream is cut does not matter. -/
theorem readAll_eq_feed {chunks : List Bytes}
    (runEq : readAll compression reader chunks = some final) :
    final = feed compression reader chunks.flatten := by
  induction chunks generalizing reader with
  | nil => exact (Option.some.inj runEq).symm
  | cons chunk chunks ih =>
      rcases (run_cons_eq_some_iff _ _ _ _ _).mp runEq with ⟨next, stepEq, rest⟩
      simp only [step, Option.ite_none_right_eq_some, Option.some.injEq] at stepEq
      rcases stepEq with ⟨⟨chunkSome, fits⟩, rfl⟩
      rw [List.flatten_cons, feed_append, ← onRead_eq_feed chunkSome fits]
      exact ih rest

/-- A session that asks for nothing does not ask again. -/
theorem requested_onRead {byte : UInt8} (resting : reader.requested = 0) :
    (reader.onRead compression [byte]).requested = 0 := by
  rcases reader with ⟨⟨buffer⟩ | ⟨size, buffer⟩ | _ | _, events⟩
  · cases resting
  · have full : size ≤ buffer.length := Nat.sub_eq_zero_iff_le.mp resting
    have incomplete : ¬(buffer ++ [byte]).length = size := by
      rw [List.length_append, List.length_singleton]
      omega
    have collected : onRead compression [byte] ⟨ReadPhase.body size buffer, events⟩ =
        ⟨ReadPhase.body size (buffer ++ [byte]), events⟩ := if_neg incomplete
    rw [collected]
    apply Nat.sub_eq_zero_of_le
    rw [List.length_append]
    exact Nat.le_add_right_of_le full
  · rfl
  · rfl

theorem requested_feed {stream : Bytes} (resting : reader.requested = 0) :
    (feed compression reader stream).requested = 0 := by
  induction stream generalizing reader with
  | nil => exact resting
  | cons byte rest ih => exact ih (requested_onRead resting)

/-- A stream that leaves the session reading can arrive byte by byte. -/
theorem readAll_bytes {stream : Bytes} (reading : (feed compression reader stream).requested ≠ 0) :
    readAll compression reader (stream.map fun byte => [byte]) =
      some (feed compression reader stream) := by
  induction stream generalizing reader with
  | nil => rfl
  | cons byte rest ih =>
      have asked : reader.requested ≠ 0 := fun resting => reading (requested_feed resting)
      have possible : reader.step compression (.read [byte]) =
          some (reader.onRead compression [byte]) :=
        if_pos ⟨List.cons_ne_nil byte [], Nat.one_le_iff_ne_zero.mpr asked⟩
      rw [readAll, List.map_cons, List.map_cons, run_cons, possible]
      exact ih reading

/-! ## Headers and bodies -/

@[simp]
theorem headerComplete_concat (buffer : Bytes) (byte : UInt8) :
    headerComplete (buffer ++ [byte]) = decide (128 ≤ byte.toNat) := by
  simp [headerComplete]

/-- Bytes that do not end a header are collected. -/
theorem feed_plain (compression : Compression) {bytes : Bytes}
    (plain : ∀ byte ∈ bytes, byte.toNat < 128) (buffer : Bytes) (events : List SessionEvent) :
    feed compression ⟨ReadPhase.header buffer, events⟩ bytes =
      ⟨ReadPhase.header (buffer ++ bytes), events⟩ := by
  induction bytes generalizing buffer with
  | nil => simp [feed]
  | cons byte bytes ih =>
      rw [List.forall_mem_cons] at plain
      have collected : onRead compression [byte] ⟨ReadPhase.header buffer, events⟩ =
          ⟨ReadPhase.header (buffer ++ [byte]), events⟩ := by
        simp [onRead, headerComplete_concat, plain.1]
      have later := ih plain.2 (buffer ++ [byte])
      rw [List.append_assoc, List.singleton_append] at later
      rw [← later, ← collected]
      rfl

/-- A header is decoded when its last byte arrives. -/
theorem feed_header {length : UInt64} {used : Bytes} (field : LengthField length used)
    (events : List SessionEvent) :
    feed compression ⟨ReadPhase.header [], events⟩ used.reverse =
      onAsyncReadHeader compression used.reverse ⟨ReadPhase.header [], events⟩ := by
  rcases field with ⟨first, more, rfl, ends, plain, _⟩
  have collected := feed_plain compression
    (fun byte mem => plain byte (List.mem_reverse.mp mem)) [] events
  rw [List.nil_append] at collected
  rw [List.reverse_cons, feed_append, collected]
  simp [feed, onRead, headerComplete_concat, ends, onAsyncReadHeader, onAsyncReadComplete,
    stopWithError]

/-- The size that a header announces. -/
theorem onAsyncReadHeader_eq {length : UInt64} {used : Bytes} (field : LengthField length used)
    (reader : SocketReader) :
    onAsyncReadHeader compression used.reverse reader =
      if messageSizeLimit < length.toNat then reader.stopWithError
      else if length.toNat = 0 then reader.onAsyncReadComplete compression []
      else ⟨ReadPhase.body length.toNat [], reader.events⟩ := by
  have decoded := recognizes_decodeVariableLength.read_append field []
  rw [List.nil_append] at decoded
  rw [onAsyncReadHeader, List.reverse_reverse, decoded]

/-- A frame is read as the message it carries. -/
theorem feed_frame {compressed message : Bytes} (short : compressed.length ≤ messageSizeLimit)
    (restored : compression.decompress compressed = some message)
    (events : List SessionEvent) :
    feed compression ⟨ReadPhase.header [], events⟩ (frame compressed) =
      ⟨ReadPhase.header [], events ++ [SessionEvent.messageReceived message]⟩ := by
  have field := lengthField_encodeVariableLength (UInt64.ofNat compressed.length)
  have fits : compressed.length < 2 ^ 64 :=
    Nat.lt_of_le_of_lt short (by decide)
  have length_eq : (UInt64.ofNat compressed.length).toNat = compressed.length := by
    rw [UInt64.toNat_ofNat', Nat.mod_eq_of_lt fits]
  rw [frame, feed_append, feed_header field, onAsyncReadHeader_eq field, length_eq,
    if_neg (Nat.not_lt.mpr short)]
  by_cases empty : compressed = []
  · subst empty
    simp [feed, onAsyncReadComplete, restored]
  · have some_length : compressed.length ≠ 0 := fun zero =>
      empty (List.eq_nil_of_length_eq_zero zero)
    rw [if_neg some_length, ← onRead_eq_feed empty (by simp [requested])]
    simp [onRead, onAsyncReadComplete, restored]

/-- After the session was stopped nothing is read. -/
@[simp]
theorem feed_closed {events : List SessionEvent} (stream : Bytes) :
    feed compression ⟨ReadPhase.closed, events⟩ stream = ⟨ReadPhase.closed, events⟩ := by
  induction stream with
  | nil => rfl
  | cons byte stream ih => exact ih

/-- The stream of a writer is read as the messages that were written. -/
theorem feed_frames {messages : List Bytes}
    (small : ∀ message ∈ messages, (compression.compress message).length ≤ messageSizeLimit)
    (restores : ∀ message, compression.decompress (compression.compress message) = some message)
    (events : List SessionEvent) :
    feed compression ⟨ReadPhase.header [], events⟩
        ((messages.map compression.compress).flatMap frame) =
      ⟨ReadPhase.header [], events ++ messages.map SessionEvent.messageReceived⟩ := by
  induction messages generalizing events with
  | nil => simp [feed]
  | cons message messages ih =>
      rw [List.forall_mem_cons] at small
      rw [List.map_cons, List.flatMap_cons, feed_append, feed_frame small.1 (restores message),
        ih small.2]
      simp

end SocketReader

/-! ## The round trip -/

/-- Whatever the writer's completions and the reader's chunks are, the messages written are
the messages received; and no stream gets past a header that announces too large a message. -/
theorem framing_roundTrip (compression : Compression)
    (restores : ∀ message, compression.decompress (compression.compress message) = some message) :
    (∀ (actions : List WriteAction) (writer : SocketWriter) (chunks : List Bytes)
        (reader : SocketReader),
      run (SocketWriter.step compression) SocketWriter.start actions = some writer →
        writer.isWriting = false →
          (∀ message ∈ actions.filterMap WriteAction.message,
            (compression.compress message).length ≤ messageSizeLimit) →
            SocketReader.readAll compression SocketReader.start chunks = some reader →
              chunks.flatten = writer.written →
                reader = ⟨ReadPhase.header [],
                  (actions.filterMap WriteAction.message).map SessionEvent.messageReceived⟩) ∧
    ∀ (chunks : List Bytes) (reader : SocketReader) (before header after : Bytes)
        (length : UInt64) (events : List SessionEvent),
      SocketReader.readAll compression SocketReader.start chunks = some reader →
        chunks.flatten = before ++ header.reverse ++ after →
          SocketReader.feed compression SocketReader.start before =
            ⟨ReadPhase.header [], events⟩ →
            LengthField length header → messageSizeLimit < length.toNat →
              reader = ⟨ReadPhase.closed,
                  events ++ [SessionEvent.sessionError, SessionEvent.sessionEnd]⟩ ∧
                ∀ completion, reader.step compression completion = none := by
  constructor
  · intro actions writer chunks reader written idle small read whole
    have sent := SocketWriter.sent_run SocketWriter.sent_start written
    have stream := sent.stream
    rw [SocketWriter.waiting, idle, if_neg Bool.false_ne_true, sent.idle idle, List.flatMap_nil,
      List.append_nil, List.nil_append] at stream
    rw [SocketReader.readAll_eq_feed read, whole, stream]
    exact SocketReader.feed_frames small restores []
  · intro chunks reader before header after length events read split reached field large
    have result : reader = ⟨ReadPhase.closed,
        events ++ [SessionEvent.sessionError, SessionEvent.sessionEnd]⟩ := by
      rw [SocketReader.readAll_eq_feed read, split, SocketReader.feed_append,
        SocketReader.feed_append, reached, SocketReader.feed_header field,
        SocketReader.onAsyncReadHeader_eq field, if_pos large]
      exact SocketReader.feed_closed after
    refine ⟨result, ?_⟩
    intro completion
    rw [result]
    cases completion with
    | read chunk =>
        apply if_neg
        rintro ⟨chunkSome, fits⟩
        exact chunkSome (List.eq_nil_of_length_eq_zero (Nat.le_zero.mp fits))
    | fail => rfl

/-- Every list of messages can be written and read to the end. -/
theorem exists_transfer (compression : Compression) (messages : List Bytes)
    (small : ∀ message ∈ messages, (compression.compress message).length ≤ messageSizeLimit)
    (restores : ∀ message, compression.decompress (compression.compress message) = some message) :
    ∃ actions writer chunks reader, actions.filterMap WriteAction.message = messages ∧
      run (SocketWriter.step compression) SocketWriter.start actions = some writer ∧
      writer.isWriting = false ∧
      SocketReader.readAll compression SocketReader.start chunks = some reader ∧
      chunks.flatten = writer.written := by
  have written := SocketWriter.run_alternating compression messages []
  have read := SocketReader.feed_frames small restores []
  have reading : (SocketReader.feed compression SocketReader.start
      ((messages.map compression.compress).flatMap frame)).requested ≠ 0 := by
    rw [SocketReader.start, read]
    exact Nat.one_ne_zero
  refine ⟨_, _, _, _, ?_, written, rfl, SocketReader.readAll_bytes reading, ?_⟩
  · rw [List.filterMap_flatMap]
    exact List.flatMap_singleton' messages
  · rw [List.nil_append, ← List.flatMap_def]
    exact List.flatMap_singleton' _

section Example

/-- Compression that puts a byte in front, so that it can be told whether it was done. -/
def tagging : Compression where
  compress message := 120 :: message
  decompress
    | 120 :: message => some message
    | _ => none

@[simp]
theorem tagging_restores (message : Bytes) :
    tagging.decompress (tagging.compress message) = some message :=
  rfl

/-- A message of two bytes and an empty one, whose frames arrive in pieces. -/
theorem framing_roundTrip_tagging :
    ∃ (writer : SocketWriter) (reader : SocketReader),
      run (SocketWriter.step tagging) SocketWriter.start
          [.write [1, 2], .write [], .complete, .complete] = some writer ∧
        writer.isWriting = false ∧ writer.written = [131, 120, 1, 2, 129, 120] ∧
        SocketReader.readAll tagging SocketReader.start [[131], [120, 1], [2], [129], [120]] =
          some reader ∧
        reader.events =
          [SessionEvent.messageReceived [1, 2], SessionEvent.messageReceived []] := by
  have read : SocketReader.readAll tagging SocketReader.start
      [[131], [120, 1], [2], [129], [120]] =
        some ⟨ReadPhase.header [],
          [SessionEvent.messageReceived [1, 2], SessionEvent.messageReceived []]⟩ := by
    decide +kernel
  have written : (run (SocketWriter.step tagging) SocketWriter.start
      [.write [1, 2], .write [], .complete, .complete]).map (fun writer =>
        (writer.isWriting, writer.written)) = some (false, [131, 120, 1, 2, 129, 120]) := by
    decide +kernel
  rcases Option.map_eq_some_iff.mp written with ⟨writer, writerEq, same⟩
  rw [Prod.mk.injEq] at same
  have result := (framing_roundTrip tagging tagging_restores).1 _ writer _ _ writerEq same.1
    (by decide) read same.2.symm
  exact ⟨writer, _, writerEq, same.1, same.2, read, congrArg SocketReader.events result⟩

end Example

end VoxelEngine.ClientServer
