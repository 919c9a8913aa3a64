import Mathlib.Data.List.Perm.Basic
import VoxelEngine.ClientServer.SocketSession
import VoxelEngine.Transition.Run

/-!
# The end of a session

A session is kept alive by its server, by the handlers that use it, by outstanding reads and
writes and by the threads that run its code; it is destroyed with the last of them.  Stopping
it closes the socket while reads and writes are outstanding, and their completions raise
further events.  The server updates a session for the last time when it removes it.  Events
that are raised after that are not dispatched on the session any more.
-/

namespace VoxelEngine.ClientServer

open VoxelEngine.Transition

/-- What is left to do of the functions of a session that a thread runs. -/
inductive SessionCode where
  | start
  | stop
  /-- The end of `stop`, after the socket was closed. -/
  | markClosed
  | dispatchEvent (event : SessionEvent)
  | doAsyncRead
  /-- Add a message to `write_queue`. -/
  | pushWrite
  /-- Remove the message that was written. -/
  | popWrite
  | doAsyncWrite
  deriving DecidableEq

/-- A thread that runs code of a session: the event it is about to add to the queue of the
server, after it was added to that of the session, and what comes then. -/
structure SessionThread where
  publishing : Option SessionEvent
  code : List SessionCode
  deriving DecidableEq

/-- What the main thread is doing with a session. -/
inductive TeardownPhase where
  | idle
  /-- The queue of the server was drained. -/
  | dispatched
  /-- The session will be updated if it was in the server before it was closed. -/
  | swept (updates : Bool)
  deriving DecidableEq

/-- A session with the events of its own in the queue of its server, and all events it has
raised and that were dispatched. -/
structure SessionLife where
  socketOpen : Bool
  isClosed : Bool
  queue : List SessionEvent
  parent : List SessionEvent
  raised : List SessionEvent
  dispatched : List SessionEvent
  parentDispatched : List SessionEvent
  /-- An event was published after the queue of the server was last drained. -/
  isStale : Bool
  /-- A read is outstanding. -/
  reading : Bool
  /-- A write is outstanding. -/
  writing : Bool
  isWriting : Bool
  writeQueue : Nat
  threads : List SessionThread
  inServer : Bool
  /-- A handler holds the session. -/
  isOwned : Bool
  phase : TeardownPhase
  isDestroyed : Bool

namespace SessionLife

/-- The session was accepted and is about to be started. -/
def accepted : SessionLife where
  socketOpen := true
  isClosed := false
  queue := []
  parent := []
  raised := []
  dispatched := []
  parentDispatched := []
  isStale := false
  reading := false
  writing := false
  isWriting := false
  writeQueue := 0
  threads := [⟨none, [SessionCode.start]⟩]
  inServer := true
  isOwned := false
  phase := TeardownPhase.idle
  isDestroyed := false

/-- One thread goes on. -/
def withThread (life : SessionLife) (thread next : SessionThread) : SessionLife :=
  { life with threads := next :: life.threads.erase thread }

/-- A thread begins to run code of the session. -/
def spawn (life : SessionLife) (code : List SessionCode) : SessionLife :=
  { life with threads := ⟨none, code⟩ :: life.threads }

/-- The events that `stop` raises when it closes the socket, which may report an error. -/
def stopEvents (shutdownFails : Bool) : List SessionEvent :=
  (if shutdownFails then [SessionEvent.sessionError] else []) ++ [SessionEvent.sessionEnd]

/-- What a thread does next with the session, and the code it runs after that. -/
def execute (life : SessionLife) (shutdownFails : Bool) :
    SessionCode → SessionLife × Option SessionEvent × List SessionCode
  | SessionCode.start =>
      if life.socketOpen then
        (life, none, [SessionCode.dispatchEvent SessionEvent.sessionStart, SessionCode.doAsyncRead])
      else (life, none, [SessionCode.dispatchEvent SessionEvent.sessionError])
  | SessionCode.stop =>
      if life.socketOpen then
        ({ life with socketOpen := false }, none,
          (stopEvents shutdownFails).map SessionCode.dispatchEvent ++ [SessionCode.markClosed])
      else (life, none, [SessionCode.markClosed])
  | SessionCode.markClosed => ({ life with isClosed := true }, none, [])
  | SessionCode.dispatchEvent event =>
      ({ life with queue := life.queue ++ [event], raised := life.raised ++ [event] },
        some event, [])
  | SessionCode.doAsyncRead => ({ life with reading := life.reading || !life.isClosed }, none, [])
  | SessionCode.pushWrite => ({ life with writeQueue := life.writeQueue + 1 }, none, [])
  | SessionCode.popWrite =>
      ({ life with writeQueue := life.writeQueue - 1, isWriting := false }, none, [])
  | SessionCode.doAsyncWrite =>
      if life.isWriting || life.writeQueue == 0 then (life, none, [])
      else if life.isClosed then
        (life, none, [SessionCode.dispatchEvent SessionEvent.sessionError])
      else ({ life with isWriting := true, writing := true }, none, [])

/-- `stop` in a handler of the session; its events are dispatched in the same update. -/
def stopInHandler (life : SessionLife) (shutdownFails : Bool) : SessionLife :=
  if life.socketOpen then
    { life with
      socketOpen := false
      isClosed := true
      raised := life.raised ++ stopEvents shutdownFails
      dispatched := life.dispatched ++ stopEvents shutdownFails
      parent := life.parent ++ stopEvents shutdownFails
      isStale := true }
  else { life with isClosed := true }

/-- `stop` in the destructor of the session. -/
def stopInDestructor (life : SessionLife) (shutdownFails : Bool) : SessionLife :=
  if life.socketOpen then
    { life with
      socketOpen := false
      isClosed := true
      queue := life.queue ++ stopEvents shutdownFails
      raised := life.raised ++ stopEvents shutdownFails
      parent := life.parent ++ stopEvents shutdownFails
      isStale := true }
  else { life with isClosed := true }

/-- `socket_session::update`, in which a handler may stop the session. -/
def update (life : SessionLife) (handlerStops shutdownFails : Bool) : SessionLife :=
  let dispatched := { life with queue := [], dispatched := life.dispatched ++ life.queue }
  if handlerStops && !life.queue.isEmpty then dispatched.stopInHandler shutdownFails
  else dispatched

/-- Nothing refers to the session. -/
def isUnreferenced (life : SessionLife) : Bool :=
  !life.inServer && !life.isOwned && !life.reading && !life.writing && life.threads.isEmpty &&
    life.phase ≠ TeardownPhase.swept true

/-- The steps of the threads, of the transport and of the owner of a session. -/
inductive Action where
  /-- The server drains its own queue. -/
  | dispatchParent
  /-- The server removes the session if it is closed. -/
  | sweep
  /-- The server updates the session if it had it. -/
  | update (handlerStops shutdownFails : Bool)
  /-- A thread goes on. -/
  | proceed (thread : SessionThread) (shutdownFails : Bool)
  /-- A read completes with a message, or fails or is aborted. -/
  | readCompleted (message : Option Bytes)
  /-- A write completes, or fails or is aborted. -/
  | writeCompleted (success : Bool)
  /-- A handler gets hold of the session. -/
  | acquire
  | release
  /-- `stop`, from the owner or a handler. -/
  | stop
  /-- `write` -/
  | write
  | destroy (shutdownFails : Bool)

/-- What is run when an operation has failed. -/
def failed : List SessionCode :=
  [SessionCode.dispatchEvent SessionEvent.sessionError, SessionCode.stop]

/-- The steps of a session that exists. -/
def stepAlive (life : SessionLife) : Action → Option SessionLife
  | Action.dispatchParent =>
      if life.phase = TeardownPhase.idle then
        some { life with
          parent := []
          parentDispatched := life.parentDispatched ++ life.parent
          isStale := false
          phase := TeardownPhase.dispatched }
      else none
  | Action.sweep =>
      if life.phase = TeardownPhase.dispatched then
        some { life with
          inServer := life.inServer && !life.isClosed
          phase := TeardownPhase.swept life.inServer }
      else none
  | Action.update handlerStops shutdownFails =>
      match life.phase with
      | TeardownPhase.swept true =>
          some { life.update handlerStops shutdownFails with phase := TeardownPhase.idle }
      | TeardownPhase.swept false => some { life with phase := TeardownPhase.idle }
      | _ => none
  | Action.proceed thread shutdownFails =>
      if thread ∈ life.threads then
        match thread.publishing, thread.code with
        | some event, code =>
            some (({ life with parent := life.parent ++ [event], isStale := true }).withThread
              thread ⟨none, code⟩)
        | none, [] => some { life with threads := life.threads.erase thread }
        | none, instruction :: code =>
            let (next, publishing, more) := life.execute shutdownFails instruction
            some (next.withThread thread ⟨publishing, more ++ code⟩)
      else none
  | Action.readCompleted message =>
      if life.reading then
        some (({ life with reading := false }).spawn
          (match message with
          | some message =>
              [SessionCode.dispatchEvent (SessionEvent.messageReceived message),
                SessionCode.doAsyncRead]
          | none => failed))
      else none
  | Action.writeCompleted success =>
      if life.writing then
        some (({ life with writing := false }).spawn
          (if success then [SessionCode.popWrite, SessionCode.doAsyncWrite] else failed))
      else none
  | Action.acquire => if life.inServer then some { life with isOwned := true } else none
  | Action.release => some { life with isOwned := false }
  | Action.stop =>
      if life.inServer || life.isOwned then some (life.spawn [SessionCode.stop]) else none
  | Action.write =>
      if life.inServer || life.isOwned then
        some (life.spawn [SessionCode.pushWrite, SessionCode.doAsyncWrite])
      else none
  | Action.destroy shutdownFails =>
      if life.isUnreferenced then
        some { life.stopInDestructor shutdownFails with isDestroyed := true }
      else none

/-- Nothing happens to a session after it was destroyed. -/
def step (life : SessionLife) (action : Action) : Option SessionLife :=
  if life.isDestroyed then none else life.stepAlive action

/-- What the destructor asserts, and that every event was dispatched once on the session and
once on the server. -/
structure TornDown (life : SessionLife) : Prop where
  isClosed : life.isClosed = true
  noPendingEvents : life.queue = []
  dispatched : life.dispatched.Perm life.raised
  parentDispatched : life.parentDispatched.Perm life.raised

/-- The step comes in time: an event is raised while the session will still be updated, and
the session is not destroyed before the server has dispatched the events published to it. -/
def inTime (life : SessionLife) : Action → Bool
  | Action.proceed thread _ =>
      match thread.publishing, thread.code with
      | none, SessionCode.dispatchEvent _ :: _ =>
          life.inServer || life.phase = TeardownPhase.swept true
      | _, _ => true
  | Action.destroy _ => !life.isStale
  | _ => true

/-- The events that threads have still to publish. -/
def unpublished (life : SessionLife) : List SessionEvent :=
  life.threads.filterMap SessionThread.publishing

/-- The invariant of runs whose steps come in time. -/
structure Inv (life : SessionLife) : Prop where
  queued : life.dispatched ++ life.queue = life.raised
  published : (life.parentDispatched ++ life.parent ++ life.unpublished).Perm life.raised
  fresh : life.isStale = false → life.parent = []
  closed : life.isClosed = true → life.socketOpen = false
  closing : ∀ thread ∈ life.threads, SessionCode.markClosed ∈ thread.code →
    life.socketOpen = false
  removed : life.inServer = false → life.isClosed = true
  updated : life.inServer = false → life.phase ≠ TeardownPhase.swept true → life.queue = []
  destroyed : life.isDestroyed = true → life.TornDown

theorem inv_accepted : Inv accepted := by
  constructor <;> simp [accepted, unpublished]

variable {life next : SessionLife}

/-- The publishing of one thread among that of all. -/
theorem unpublished_perm {thread : SessionThread} (mem : thread ∈ life.threads) :
    life.unpublished.Perm
      (thread.publishing.toList ++ (life.threads.erase thread).filterMap SessionThread.publishing) := by
  have perm := (List.perm_cons_erase mem).filterMap SessionThread.publishing
  apply perm.trans
  rw [List.filterMap_cons]
  cases thread.publishing <;> exact List.Perm.refl _

theorem unpublished_withThread (thread other : SessionThread) :
    (life.withThread thread other).unpublished =
      other.publishing.toList ++
        (life.threads.erase thread).filterMap SessionThread.publishing := by
  simp only [unpublished, withThread, List.filterMap_cons]
  cases other.publishing <;> rfl

/-- Nothing is raised, published or dispatched, and a closed session has a closed socket. -/
structure Keeps (life next : SessionLife) : Prop where
  queue : next.queue = life.queue
  parent : next.parent = life.parent
  raised : next.raised = life.raised
  dispatched : next.dispatched = life.dispatched
  parentDispatched : next.parentDispatched = life.parentDispatched
  isStale : next.isStale = life.isStale
  inServer : next.inServer = life.inServer
  phase : next.phase = life.phase
  isDestroyed : next.isDestroyed = life.isDestroyed
  socketOpen : next.socketOpen = true → life.socketOpen = true
  isClosed : life.isClosed = true → next.isClosed = true
  closed : next.isClosed = true → next.socketOpen = false

theorem Inv.keep (inv : life.Inv) (alive : life.isDestroyed = false) (keeps : life.Keeps next)
    (unpublished : next.unpublished.Perm life.unpublished)
    (closing : ∀ thread ∈ next.threads, SessionCode.markClosed ∈ thread.code →
      next.socketOpen = false) : next.Inv := by
  constructor
  · rw [keeps.dispatched, keeps.queue, keeps.raised]
    exact inv.queued
  · rw [keeps.parentDispatched, keeps.parent, keeps.raised]
    exact (unpublished.append_left _).trans inv.published
  · rw [keeps.isStale, keeps.parent]
    exact inv.fresh
  · exact keeps.closed
  · exact closing
  · rw [keeps.inServer]
    exact fun removed => keeps.isClosed (inv.removed removed)
  · rw [keeps.inServer, keeps.phase, keeps.queue]
    exact inv.updated
  · rw [keeps.isDestroyed, alive]
    intro destroyed
    cases destroyed

/-- Starting or completing operations raises nothing by itself. -/
theorem keeps_operations (closed : life.isClosed = true → life.socketOpen = false)
    (reading writing isWriting : Bool) (writeQueue : Nat) :
    life.Keeps { life with reading, writing, isWriting, writeQueue } :=
  ⟨rfl, rfl, rfl, rfl, rfl, rfl, rfl, rfl, rfl, fun now => now, fun now => now, closed⟩

theorem notOpen_of {still before : Bool} (kept : still = true → before = true)
    (shut : before = false) : still = false := by
  cases now : still with
  | false => rfl
  | true =>
      rw [kept now] at shut
      cases shut

/-- Code that does not raise an event keeps everything else. -/
theorem execute_keeps (inv : life.Inv) {instruction : SessionCode} (shutdownFails : Bool)
    (quiet : ∀ event, instruction ≠ SessionCode.dispatchEvent event)
    (closing : instruction = SessionCode.markClosed → life.socketOpen = false) :
    life.Keeps (life.execute shutdownFails instruction).1 ∧
      (life.execute shutdownFails instruction).1.threads = life.threads ∧
      (life.execute shutdownFails instruction).2.1 = none ∧
      (SessionCode.markClosed ∈ (life.execute shutdownFails instruction).2.2 →
        (life.execute shutdownFails instruction).1.socketOpen = false) := by
  have same := keeps_operations inv.closed life.reading life.writing life.isWriting life.writeQueue
  cases instruction with
  | start =>
      simp only [execute]
      split
      · exact ⟨same, rfl, rfl, fun mem => by simp at mem⟩
      · exact ⟨same, rfl, rfl, fun mem => by simp at mem⟩
  | stop =>
      simp only [execute]
      split
      · refine ⟨?_, rfl, rfl, fun _ => rfl⟩
        exact ⟨rfl, rfl, rfl, rfl, rfl, rfl, rfl, rfl, rfl,
          fun now => (Bool.false_ne_true now).elim, fun now => now, fun _ => rfl⟩
      · rename_i shut
        exact ⟨same, rfl, rfl, fun _ => Bool.not_eq_true _ ▸ shut⟩
  | markClosed =>
      refine ⟨?_, rfl, rfl, fun _ => closing rfl⟩
      exact ⟨rfl, rfl, rfl, rfl, rfl, rfl, rfl, rfl, rfl, fun now => now, fun _ => rfl,
        fun _ => closing rfl⟩
  | dispatchEvent event => exact absurd rfl (quiet event)
  | doAsyncRead => exact ⟨keeps_operations inv.closed _ _ _ _, rfl, rfl, fun mem => by cases mem⟩
  | pushWrite => exact ⟨keeps_operations inv.closed _ _ _ _, rfl, rfl, fun mem => by cases mem⟩
  | popWrite => exact ⟨keeps_operations inv.closed _ _ _ _, rfl, rfl, fun mem => by cases mem⟩
  | doAsyncWrite =>
      simp only [execute]
      split
      · exact ⟨same, rfl, rfl, fun mem => by cases mem⟩
      · split
        · exact ⟨same, rfl, rfl, fun mem => by simp at mem⟩
        · exact ⟨keeps_operations inv.closed _ _ _ _, rfl, rfl, fun mem => by cases mem⟩

/-- New code is run by a thread of its own. -/
theorem Inv.spawn (inv : life.Inv) (alive : life.isDestroyed = false) (keeps : life.Keeps next)
    (threads : next.threads = life.threads) {code : List SessionCode}
    (open_ended : SessionCode.markClosed ∉ code) : (next.spawn code).Inv := by
  apply inv.keep alive
  · exact ⟨keeps.queue, keeps.parent, keeps.raised, keeps.dispatched, keeps.parentDispatched,
      keeps.isStale, keeps.inServer, keeps.phase, keeps.isDestroyed, keeps.socketOpen,
      keeps.isClosed, keeps.closed⟩
  · simp [unpublished, SessionLife.spawn, threads]
  · intro thread mem marked
    rw [SessionLife.spawn, threads] at mem
    rcases List.mem_cons.mp mem with rfl | old
    · exact absurd marked open_ended
    · exact notOpen_of keeps.socketOpen (inv.closing thread old marked)

theorem Inv.withThread (inv : life.Inv) (alive : life.isDestroyed = false)
    (keeps : life.Keeps next) {thread other : SessionThread} (mem : thread ∈ life.threads)
    (threads : next.threads = life.threads) (publishing : other.publishing = thread.publishing)
    (closing : SessionCode.markClosed ∈ other.code → next.socketOpen = false) :
    (next.withThread thread other).Inv := by
  apply inv.keep alive
  · exact ⟨keeps.queue, keeps.parent, keeps.raised, keeps.dispatched, keeps.parentDispatched,
      keeps.isStale, keeps.inServer, keeps.phase, keeps.isDestroyed, keeps.socketOpen,
      keeps.isClosed, keeps.closed⟩
  · rw [unpublished_withThread, threads, publishing]
    exact (unpublished_perm mem).symm
  · intro running running_mem marked
    rw [SessionLife.withThread, threads] at running_mem
    rcases List.mem_cons.mp running_mem with rfl | old
    · exact closing marked
    · exact notOpen_of keeps.socketOpen (inv.closing running (List.mem_of_mem_erase old) marked)

/-- An event is added to the queue of the session. -/
theorem Inv.raise (inv : life.Inv) (alive : life.isDestroyed = false) {event : SessionEvent}
    {code : List SessionCode}
    (mem : (⟨none, SessionCode.dispatchEvent event :: code⟩ : SessionThread) ∈ life.threads)
    (updated : life.inServer = true ∨ life.phase = TeardownPhase.swept true) :
    (({ life with queue := life.queue ++ [event], raised := life.raised ++ [event] } :
      SessionLife).withThread ⟨none, SessionCode.dispatchEvent event :: code⟩
        ⟨some event, code⟩).Inv := by
  refine { inv with queued := ?_, published := ?_, closing := ?_, updated := ?_, destroyed := ?_ }
  · change life.dispatched ++ (life.queue ++ [event]) = life.raised ++ [event]
    rw [← List.append_assoc, inv.queued]
  · rw [unpublished_withThread]
    have before := inv.published
    have others := unpublished_perm mem
    simp only [Option.toList_none, List.nil_append] at others
    have same := (others.append_left (life.parentDispatched ++ life.parent)).symm.trans before
    simp only [SessionLife.withThread, Option.toList_some]
    apply List.Perm.trans _ (same.append_right [event])
    rw [List.append_assoc (life.parentDispatched ++ life.parent)]
    exact List.perm_append_comm.append_left _
  · intro running running_mem marked
    rcases List.mem_cons.mp running_mem with rfl | old
    · exact inv.closing _ mem (List.mem_cons_of_mem _ marked)
    · exact inv.closing running (List.mem_of_mem_erase old) marked
  · intro removed notSwept
    rcases updated with inServer | swept
    · rw [show life.inServer = false from removed] at inServer
      cases inServer
    · exact absurd swept notSwept
  · intro destroyed
    rw [show life.isDestroyed = true from destroyed] at alive
    cases alive

/-- An event is added to the queue of the server. -/
theorem Inv.publish (inv : life.Inv) (alive : life.isDestroyed = false) {event : SessionEvent}
    {code : List SessionCode} (mem : (⟨some event, code⟩ : SessionThread) ∈ life.threads) :
    (({ life with parent := life.parent ++ [event], isStale := true } :
      SessionLife).withThread ⟨some event, code⟩ ⟨none, code⟩).Inv := by
  refine { inv with published := ?_, fresh := ?_, closing := ?_, destroyed := ?_ }
  · rw [unpublished_withThread]
    have before := inv.published
    have others := unpublished_perm mem
    have same := (others.append_left (life.parentDispatched ++ life.parent)).symm.trans before
    simpa [SessionLife.withThread] using same
  · intro stale
    cases stale
  · intro running running_mem marked
    rcases List.mem_cons.mp running_mem with rfl | old
    · exact inv.closing _ mem marked
    · exact inv.closing running (List.mem_of_mem_erase old) marked
  · intro destroyed
    rw [show life.isDestroyed = true from destroyed] at alive
    cases alive

/-- A thread goes on. -/
theorem Inv.proceed (inv : life.Inv) (alive : life.isDestroyed = false) {thread : SessionThread}
    {shutdownFails : Bool} (inTime : life.inTime (Action.proceed thread shutdownFails) = true)
    (stepEq : life.stepAlive (Action.proceed thread shutdownFails) = some next) : next.Inv := by
  have closed := keeps_operations inv.closed life.reading life.writing life.isWriting
    life.writeQueue
  simp only [stepAlive, Option.ite_none_right_eq_some] at stepEq
  rcases stepEq with ⟨mem, stepEq⟩
  rcases thread with ⟨_ | event, code⟩
  · cases code with
    | nil =>
        cases stepEq
        have others := unpublished_perm mem
        simp only [Option.toList_none, List.nil_append] at others
        apply inv.keep alive
        · exact ⟨rfl, rfl, rfl, rfl, rfl, rfl, rfl, rfl, rfl, fun now => now, fun now => now,
            inv.closed⟩
        · exact others.symm
        · exact fun running old => inv.closing running (List.mem_of_mem_erase old)
    | cons instruction code =>
        cases stepEq
        by_cases raises : ∃ event, instruction = SessionCode.dispatchEvent event
        · rcases raises with ⟨event, rfl⟩
          simp only [SessionLife.inTime, Bool.or_eq_true, decide_eq_true_eq] at inTime
          exact inv.raise alive mem inTime
        · rcases execute_keeps inv shutdownFails (fun event eq => raises ⟨event, eq⟩)
            (fun eq => inv.closing _ mem (eq ▸ List.mem_cons_self)) with
            ⟨keeps, threads, publishing, marking⟩
          apply inv.withThread alive keeps mem threads publishing
          intro marked
          rcases List.mem_append.mp marked with more | rest
          · exact marking more
          · exact notOpen_of keeps.socketOpen
              (inv.closing _ mem (List.mem_cons_of_mem _ rest))
  · cases stepEq
    exact inv.publish alive mem

/-- A handler stops the session while it is being updated. -/
theorem Inv.stopInHandler (inv : life.Inv) (alive : life.isDestroyed = false)
    (drained : life.queue = []) (shutdownFails : Bool) :
    (life.stopInHandler shutdownFails).Inv := by
  have absurd_destroyed : ∀ {property : Prop}, life.isDestroyed = true → property := by
    intro property destroyed
    rw [destroyed] at alive
    cases alive
  have queued := inv.queued
  rw [drained, List.append_nil] at queued
  unfold SessionLife.stopInHandler
  split
  · refine ⟨?_, ?_, fun stale => ?_, fun _ => rfl, fun _ _ _ => rfl, fun _ => rfl,
      fun _ _ => drained, absurd_destroyed⟩
    · change life.dispatched ++ stopEvents shutdownFails ++ life.queue =
        life.raised ++ stopEvents shutdownFails
      rw [drained, List.append_nil, queued]
    · change (life.parentDispatched ++ (life.parent ++ stopEvents shutdownFails) ++
        life.unpublished).Perm (life.raised ++ stopEvents shutdownFails)
      apply List.Perm.trans _ (inv.published.append_right _)
      rw [← List.append_assoc, List.append_assoc, List.append_assoc _ life.unpublished]
      exact List.perm_append_comm.append_left _
    · cases stale
  · rename_i shut
    have notOpen : life.socketOpen = false := Bool.not_eq_true _ ▸ shut
    exact ⟨inv.queued, inv.published, inv.fresh, fun _ => notOpen, inv.closing, fun _ => rfl,
      inv.updated, absurd_destroyed⟩

/-- The session is updated. -/
theorem Inv.update (inv : life.Inv) (alive : life.isDestroyed = false)
    (handlerStops shutdownFails : Bool) :
    ({ life.update handlerStops shutdownFails with phase := TeardownPhase.idle } :
      SessionLife).Inv := by
  generalize drainedEq : ({ life with
    queue := [], dispatched := life.dispatched ++ life.queue, phase := TeardownPhase.idle } :
      SessionLife) = drained
  have drained_inv : drained.Inv := by
    rw [← drainedEq]
    refine ⟨?_, inv.published, inv.fresh, inv.closed, inv.closing, inv.removed,
      fun _ _ => rfl, fun destroyed => ?_⟩
    · rw [← inv.queued, List.append_nil]
    · rw [show life.isDestroyed = true from destroyed] at alive
      cases alive
  have updated : ({ life.update handlerStops shutdownFails with phase := TeardownPhase.idle } :
      SessionLife) =
        if handlerStops && !life.queue.isEmpty then drained.stopInHandler shutdownFails
        else drained := by
    rw [← drainedEq]
    unfold SessionLife.update SessionLife.stopInHandler
    cases handlerStops && !life.queue.isEmpty <;> cases life.socketOpen <;> rfl
  rw [updated]
  split
  · apply drained_inv.stopInHandler
    · rw [← drainedEq]
      exact alive
    · rw [← drainedEq]
  · exact drained_inv

/-- The session is destroyed. -/
theorem Inv.destroy (inv : life.Inv) (unreferenced : life.isUnreferenced = true)
    (fresh : life.isStale = false) (shutdownFails : Bool) :
    ({ life.stopInDestructor shutdownFails with isDestroyed := true } : SessionLife).Inv := by
  simp only [isUnreferenced, Bool.and_eq_true, Bool.not_eq_true', List.isEmpty_iff,
    decide_eq_true_eq] at unreferenced
  rcases unreferenced with ⟨⟨⟨⟨⟨removed, _⟩, _⟩, _⟩, noThreads⟩, notSwept⟩
  have isClosed := inv.removed removed
  have notOpen := inv.closed isClosed
  have stopped : life.stopInDestructor shutdownFails = { life with isClosed := true } := by
    simp [stopInDestructor, notOpen]
  rw [stopped]
  have quiet := inv.updated removed notSwept
  have queued := inv.queued
  rw [quiet, List.append_nil] at queued
  have published := inv.published
  simp only [inv.fresh fresh, unpublished, noThreads, List.append_nil,
    List.filterMap_nil] at published
  refine ⟨inv.queued, inv.published, inv.fresh, fun _ => notOpen, inv.closing, fun _ => rfl,
    inv.updated, fun _ => ?_⟩
  exact ⟨rfl, quiet, List.Perm.of_eq queued, published⟩

/-- A step that comes in time keeps the invariant. -/
theorem Inv.step (inv : life.Inv) {action : Action} (inTime : life.inTime action = true)
    (stepEq : life.step action = some next) : next.Inv := by
  simp only [SessionLife.step, Option.ite_none_left_eq_some, Bool.not_eq_true] at stepEq
  rcases stepEq with ⟨alive, stepEq⟩
  have same := keeps_operations inv.closed life.reading life.writing life.isWriting
    life.writeQueue
  have absurd_destroyed : ∀ {property : Prop}, life.isDestroyed = true → property := by
    intro property destroyed
    rw [destroyed] at alive
    cases alive
  cases action with
  | dispatchParent =>
      simp only [stepAlive, Option.ite_none_right_eq_some, Option.some.injEq] at stepEq
      rcases stepEq with ⟨idle, rfl⟩
      refine ⟨inv.queued, ?_, fun _ => rfl, inv.closed, inv.closing, inv.removed, ?_,
        absurd_destroyed⟩
      · change (life.parentDispatched ++ life.parent ++ [] ++ life.unpublished).Perm life.raised
        rw [List.append_nil]
        exact inv.published
      · intro removed _
        apply inv.updated removed
        rw [idle]
        exact TeardownPhase.noConfusion
  | sweep =>
      simp only [stepAlive, Option.ite_none_right_eq_some, Option.some.injEq] at stepEq
      rcases stepEq with ⟨phase, rfl⟩
      refine ⟨inv.queued, inv.published, inv.fresh, inv.closed, inv.closing, ?_, ?_,
        absurd_destroyed⟩
      · intro removed
        simp only [Bool.and_eq_false_iff, Bool.not_eq_false'] at removed
        rcases removed with before | isClosed
        · exact inv.removed before
        · exact isClosed
      · intro removed notSwept
        have before : life.inServer = false := by
          cases inServer : life.inServer with
          | false => rfl
          | true => simp [inServer] at notSwept
        apply inv.updated before
        rw [phase]
        exact TeardownPhase.noConfusion
  | update handlerStops shutdownFails =>
      simp only [stepAlive] at stepEq
      split at stepEq
      · cases stepEq
        exact inv.update alive handlerStops shutdownFails
      · rename_i phase
        cases stepEq
        refine ⟨inv.queued, inv.published, inv.fresh, inv.closed, inv.closing, inv.removed, ?_,
          absurd_destroyed⟩
        intro removed _
        apply inv.updated removed
        rw [phase]
        simp
      · cases stepEq
  | proceed thread shutdownFails => exact inv.proceed alive inTime stepEq
  | readCompleted message =>
      simp only [stepAlive, Option.ite_none_right_eq_some, Option.some.injEq] at stepEq
      rcases stepEq with ⟨_, rfl⟩
      apply inv.spawn alive
        (keeps_operations inv.closed false life.writing life.isWriting life.writeQueue) rfl
      cases message <;> simp [failed]
  | writeCompleted success =>
      simp only [stepAlive, Option.ite_none_right_eq_some, Option.some.injEq] at stepEq
      rcases stepEq with ⟨_, rfl⟩
      apply inv.spawn alive
        (keeps_operations inv.closed life.reading false life.isWriting life.writeQueue) rfl
      cases success <;> simp [failed]
  | acquire =>
      simp only [stepAlive, Option.ite_none_right_eq_some, Option.some.injEq] at stepEq
      rcases stepEq with ⟨_, rfl⟩
      exact ⟨inv.queued, inv.published, inv.fresh, inv.closed, inv.closing, inv.removed,
        inv.updated, absurd_destroyed⟩
  | release =>
      cases stepEq
      exact ⟨inv.queued, inv.published, inv.fresh, inv.closed, inv.closing, inv.removed,
        inv.updated, absurd_destroyed⟩
  | stop =>
      simp only [stepAlive, Option.ite_none_right_eq_some, Option.some.injEq] at stepEq
      rcases stepEq with ⟨_, rfl⟩
      exact inv.spawn alive same rfl (by simp)
  | write =>
      simp only [stepAlive, Option.ite_none_right_eq_some, Option.some.injEq] at stepEq
      rcases stepEq with ⟨_, rfl⟩
      exact inv.spawn alive same rfl (by simp)
  | destroy shutdownFails =>
      simp only [stepAlive, Option.ite_none_right_eq_some, Option.some.injEq] at stepEq
      rcases stepEq with ⟨unreferenced, rfl⟩
      simp only [SessionLife.inTime, Bool.not_eq_true'] at inTime
      exact inv.destroy unreferenced inTime shutdownFails

/-- Where no event is raised after the last update of a session, and the server has dispatched
the events of a session when it is destroyed, the destructor finds it closed and without
pending events, and every event was dispatched once on the session and once on the server. -/
theorem tornDown_of_inTime {actions : List Action} {final : SessionLife}
    (timely : Guarded step (fun life action => life.inTime action = true) accepted actions)
    (runEq : run step accepted actions = some final) (destroyed : final.isDestroyed = true) :
    final.TornDown := by
  have inv : final.Inv :=
    run_invariant (fun _ _ _ inv here stepEq => inv.step here stepEq) inv_accepted timely runEq
  exact inv.destroyed destroyed

section Example

/-- The session is started, and reads. -/
def started : List Action :=
  [Action.proceed ⟨none, [SessionCode.start]⟩ false,
    Action.proceed ⟨none, [SessionCode.dispatchEvent SessionEvent.sessionStart,
      SessionCode.doAsyncRead]⟩ false,
    Action.proceed ⟨some SessionEvent.sessionStart, [SessionCode.doAsyncRead]⟩ false,
    Action.proceed ⟨none, [SessionCode.doAsyncRead]⟩ false,
    Action.proceed ⟨none, []⟩ false]

/-- The owner stops the session. -/
def stopped : List Action :=
  [Action.stop,
    Action.proceed ⟨none, [SessionCode.stop]⟩ false,
    Action.proceed ⟨none, [SessionCode.dispatchEvent SessionEvent.sessionEnd,
      SessionCode.markClosed]⟩ false,
    Action.proceed ⟨some SessionEvent.sessionEnd, [SessionCode.markClosed]⟩ false,
    Action.proceed ⟨none, [SessionCode.markClosed]⟩ false,
    Action.proceed ⟨none, []⟩ false]

/-- The server is updated. -/
def serverUpdated : List Action :=
  [Action.dispatchParent, Action.sweep, Action.update false false]

/-- The outstanding read is aborted. -/
def aborted : List Action :=
  [Action.readCompleted none,
    Action.proceed ⟨none, failed⟩ false,
    Action.proceed ⟨some SessionEvent.sessionError, [SessionCode.stop]⟩ false,
    Action.proceed ⟨none, [SessionCode.stop]⟩ false,
    Action.proceed ⟨none, [SessionCode.markClosed]⟩ false,
    Action.proceed ⟨none, []⟩ false]

/-- A read that is aborted after the last update of its session leaves an event behind. -/
theorem destroyed_with_pending :
    ∃ final, run step accepted
        (started ++ stopped ++ serverUpdated ++ aborted ++ [Action.destroy false]) = some final ∧
      final.isDestroyed = true ∧ final.queue = [SessionEvent.sessionError] ∧ ¬ final.TornDown := by
  have result : (run step accepted
      (started ++ stopped ++ serverUpdated ++ aborted ++ [Action.destroy false])).map
        (fun final => (final.isDestroyed, final.queue)) =
          some (true, [SessionEvent.sessionError]) := by
    decide +kernel
  rcases Option.map_eq_some_iff.mp result with ⟨final, runEq, same⟩
  rw [Prod.mk.injEq] at same
  refine ⟨final, runEq, same.1, same.2, fun tornDown => ?_⟩
  have empty := tornDown.noPendingEvents
  rw [same.2] at empty
  cases empty

/-- The read is aborted before the last update. -/
theorem tornDown_aborted :
    ∃ final, run step accepted
        (started ++ stopped ++ aborted ++ serverUpdated ++ [Action.destroy false]) = some final ∧
      final.TornDown := by
  have result : (run step accepted
      (started ++ stopped ++ aborted ++ serverUpdated ++ [Action.destroy false])).map
        isDestroyed = some true := by
    decide +kernel
  rcases Option.map_eq_some_iff.mp result with ⟨final, runEq, destroyed⟩
  exact ⟨final, runEq, tornDown_of_inTime (by decide +kernel) runEq destroyed⟩

end Example

end SessionLife

end VoxelEngine.ClientServer
