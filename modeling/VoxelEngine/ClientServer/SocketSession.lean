import VoxelEngine.ClientServer.CoreMessage
import VoxelEngine.Serialize.VariableLength

/-!
# Reading and writing of socket sessions

A session sends its messages one after the other: the size of the compressed message as a
reversed variable length integer, whose last byte has its most significant bit set, and then
the compressed message.  The reader asks for single bytes until it has such a size, and then
for the body; how many of the bytes it asked for it gets at a time is up to the transport.
-/

namespace VoxelEngine.ClientServer

open VoxelEngine.Serialize

/-- `message_size_limit` -/
def messageSizeLimit : Nat :=
  64 * 1024

/-- `compress` and `decompress`, which throws where it cannot decompress. -/
structure Compression where
  compress : Bytes → Bytes
  decompress : Bytes → Option Bytes

/-- The events of a session. -/
inductive SessionEvent where
  | sessionStart
  | sessionEnd
  | sessionError
  | messageReceived (message : Bytes)
  deriving DecidableEq

/-! ## Writing -/

/-- What is sent for a compressed message. -/
def frame (compressed : Bytes) : Bytes :=
  (encodeVariableLength (UInt64.ofNat compressed.length)).reverse ++ compressed

/-- The writing part of a session, and the bytes handed to the transport so far. -/
structure SocketWriter where
  writeQueue : List Bytes
  isWriting : Bool
  written : Bytes

/-- What happens on the strand of a session. -/
inductive WriteAction where
  | write (message : Bytes)
  /-- The last write completed without an error. -/
  | complete

namespace SocketWriter

/-- Nothing was written yet. -/
def start : SocketWriter :=
  ⟨[], false, []⟩

/-- `do_async_write` of an open session -/
def doAsyncWrite (writer : SocketWriter) : SocketWriter :=
  match writer.isWriting, writer.writeQueue with
  | false, front :: _ =>
      { writer with isWriting := true, written := writer.written ++ frame front }
  | _, _ => writer

/-- `write` and `on_async_write_complete`. -/
def step (compression : Compression) (writer : SocketWriter) : WriteAction → Option SocketWriter
  | WriteAction.write message =>
      some (doAsyncWrite
        { writer with writeQueue := writer.writeQueue ++ [compression.compress message] })
  | WriteAction.complete =>
      if writer.isWriting then
        some (doAsyncWrite
          { writer with writeQueue := writer.writeQueue.tail, isWriting := false })
      else none

end SocketWriter

/-! ## Reading -/

/-- What a session is reading. -/
inductive ReadPhase where
  | header (buffer : Bytes)
  | body (size : Nat) (buffer : Bytes)
  /-- The session was stopped. -/
  | closed
  /-- An exception left a completion handler. -/
  | thrown
  deriving DecidableEq

/-- The reading part of a session, and the events it raised. -/
structure SocketReader where
  phase : ReadPhase
  events : List SessionEvent
  deriving DecidableEq

/-- What the transport answers to a read request. -/
inductive ReadCompletion where
  | read (chunk : Bytes)
  | fail
  deriving DecidableEq

namespace SocketReader

/-- Nothing was read yet. -/
def start : SocketReader :=
  ⟨ReadPhase.header [], []⟩

/-- Raise an error and `stop` the session. -/
def stopWithError (reader : SocketReader) : SocketReader :=
  ⟨ReadPhase.closed, reader.events ++ [SessionEvent.sessionError, SessionEvent.sessionEnd]⟩

/-- `on_async_read_complete` -/
def onAsyncReadComplete (compression : Compression) (buffer : Bytes) (reader : SocketReader) :
    SocketReader :=
  match compression.decompress buffer with
  | some message =>
      ⟨ReadPhase.header [], reader.events ++ [SessionEvent.messageReceived message]⟩
  | none => ⟨ReadPhase.thrown, reader.events⟩

/-- `on_async_read_header`; an empty body is complete at once. -/
def onAsyncReadHeader (compression : Compression) (buffer : Bytes) (reader : SocketReader) :
    SocketReader :=
  match decodeVariableLength buffer.reverse with
  | none => ⟨ReadPhase.thrown, reader.events⟩
  | some (size, _) =>
      if messageSizeLimit < size.toNat then reader.stopWithError
      else if size.toNat = 0 then reader.onAsyncReadComplete compression []
      else ⟨ReadPhase.body size.toNat [], reader.events⟩

/-- `transfer_variable_length_t`: the header is complete when its last byte has its most
significant bit set. -/
def headerComplete (buffer : Bytes) : Bool :=
  match buffer.getLast? with
  | some last => decide (128 ≤ last.toNat)
  | none => false

/-- How many bytes the session asks the transport for. -/
def requested (reader : SocketReader) : Nat :=
  match reader.phase with
  | ReadPhase.header _ => 1
  | ReadPhase.body size buffer => size - buffer.length
  | ReadPhase.closed => 0
  | ReadPhase.thrown => 0

/-- Add the bytes that were read to the buffer, and go on if that was all. -/
def onRead (compression : Compression) (chunk : Bytes) (reader : SocketReader) : SocketReader :=
  match reader.phase with
  | ReadPhase.header buffer =>
      if headerComplete (buffer ++ chunk) then
        reader.onAsyncReadHeader compression (buffer ++ chunk)
      else ⟨ReadPhase.header (buffer ++ chunk), reader.events⟩
  | ReadPhase.body size buffer =>
      if (buffer ++ chunk).length = size then
        reader.onAsyncReadComplete compression (buffer ++ chunk)
      else ⟨ReadPhase.body size (buffer ++ chunk), reader.events⟩
  | _ => reader

/-- One read completion: at least one byte, and not more than the session asked for.  An
error always finds the header or the body incomplete. -/
def step (compression : Compression) (reader : SocketReader) :
    ReadCompletion → Option SocketReader
  | ReadCompletion.read chunk =>
      if chunk ≠ [] ∧ chunk.length ≤ reader.requested then some (reader.onRead compression chunk)
      else none
  | ReadCompletion.fail => if reader.requested = 0 then none else some reader.stopWithError

end SocketReader

end VoxelEngine.ClientServer
