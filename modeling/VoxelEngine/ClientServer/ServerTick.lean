import VoxelEngine.ClientServer.Server

/-!
# What a tick does

Both replication systems loop over the connections.  This file describes the outcome
of those loops connection by connection and cell by cell, so that later arguments
never unfold them again.
-/

namespace VoxelEngine.ClientServer

open VoxelEngine.Data
open VoxelEngine.Ecs

variable {V : Type}

namespace Server

@[simp]
theorem send_self (server : Server V) (remote : InstanceId) (messages : List CoreMessage) :
    (server.send remote messages).sent remote = server.sent remote ++ messages := by
  simp [send]

theorem send_of_ne (server : Server V) {remote other : InstanceId} (ne : other ≠ remote)
    (messages : List CoreMessage) :
    (server.send remote messages).sent other = server.sent other := by
  simp [send, Function.update_of_ne ne]

/-! ## The visibility system -/

section Visibility

variable (rule : InstanceId → Entity → Bool)

/-- What the visibility update computes for a connection of this server. -/
def visibilityPass (server : Server V) (remote : InstanceId) : VisibilityPass :=
  VisibilityPass.updateConnection (rule remote) server.pool.entities
    server.visibility.destroyedEntities (server.visibility.storage remote)

/-- Serving connections changes neither the registry nor the timers. -/
private theorem updateVisibilityFor_frame (order : List InstanceId) (server : Server V) :
    let updated := order.foldl (updateVisibilityFor rule) server
    updated.pool = server.pool ∧ updated.cells = server.cells ∧
      updated.connections = server.connections ∧
      updated.syncRates = server.syncRates ∧ updated.lastSync = server.lastSync ∧
      updated.visibility.destroyedEntities = server.visibility.destroyedEntities := by
  induction order generalizing server with
  | nil => exact ⟨rfl, rfl, rfl, rfl, rfl, rfl⟩
  | cons first rest ih => exact ih (updateVisibilityFor rule server first)

private theorem updateVisibilityFor_of_notMem {order : List InstanceId} {remote : InstanceId}
    (notMem : remote ∉ order) (server : Server V) :
    let updated := order.foldl (updateVisibilityFor rule) server
    updated.visibility.storage remote = server.visibility.storage remote ∧
      updated.sent remote = server.sent remote := by
  induction order generalizing server with
  | nil => exact ⟨rfl, rfl⟩
  | cons first rest ih =>
      rw [List.mem_cons, not_or] at notMem
      have later := ih notMem.2 (updateVisibilityFor rule server first)
      simp only [List.foldl_cons]
      rw [later.1, later.2]
      simp [updateVisibilityFor, send, Function.update_of_ne notMem.1]

private theorem updateVisibilityFor_of_mem {order : List InstanceId} (nodup : order.Nodup)
    {remote : InstanceId} (mem : remote ∈ order) (server : Server V) :
    let updated := order.foldl (updateVisibilityFor rule) server
    updated.visibility.storage remote = (server.visibilityPass rule remote).storage ∧
      updated.sent remote =
        server.sent remote ++ (server.visibilityPass rule remote).messages := by
  induction order generalizing server with
  | nil => simp at mem
  | cons first rest ih =>
      rw [List.nodup_cons] at nodup
      simp only [List.foldl_cons]
      rcases List.mem_cons.mp mem with rfl | later
      · have untouched := updateVisibilityFor_of_notMem rule nodup.1
          (updateVisibilityFor rule server remote)
        rw [untouched.1, untouched.2]
        simp [updateVisibilityFor, send, visibilityPass]
      · have first_ne : remote ≠ first := fun equal => nodup.1 (equal ▸ later)
        have served := ih nodup.2 later (updateVisibilityFor rule server first)
        rw [served.1, served.2]
        simp [updateVisibilityFor, send, visibilityPass, Function.update_of_ne first_ne]

variable (order : List InstanceId) (server : Server V)

@[simp]
theorem updateVisibility_pool : (updateVisibility rule order server).pool = server.pool :=
  (updateVisibilityFor_frame rule order server).1

@[simp]
theorem updateVisibility_cells : (updateVisibility rule order server).cells = server.cells :=
  (updateVisibilityFor_frame rule order server).2.1

@[simp]
theorem updateVisibility_connections :
    (updateVisibility rule order server).connections = server.connections :=
  (updateVisibilityFor_frame rule order server).2.2.1

@[simp]
theorem updateVisibility_syncRates :
    (updateVisibility rule order server).syncRates = server.syncRates :=
  (updateVisibilityFor_frame rule order server).2.2.2.1

@[simp]
theorem updateVisibility_lastSync :
    (updateVisibility rule order server).lastSync = server.lastSync :=
  (updateVisibilityFor_frame rule order server).2.2.2.2.1

@[simp]
theorem updateVisibility_synchronizeNow (now : Int) :
    (updateVisibility rule order server).synchronizeNow now = server.synchronizeNow now := by
  funext type
  simp [synchronizeNow]

@[simp]
theorem updateVisibility_destroyedEntities :
    (updateVisibility rule order server).visibility.destroyedEntities = [] :=
  rfl

variable {order}

theorem updateVisibility_storage_of_mem (nodup : order.Nodup) {remote : InstanceId}
    (mem : remote ∈ order) :
    (updateVisibility rule order server).visibility.storage remote =
      (server.visibilityPass rule remote).storage :=
  (updateVisibilityFor_of_mem rule nodup mem server).1

theorem updateVisibility_sent_of_mem (nodup : order.Nodup) {remote : InstanceId}
    (mem : remote ∈ order) :
    (updateVisibility rule order server).sent remote =
      server.sent remote ++ (server.visibilityPass rule remote).messages :=
  (updateVisibilityFor_of_mem rule nodup mem server).2

theorem updateVisibility_storage_of_notMem {remote : InstanceId} (notMem : remote ∉ order) :
    (updateVisibility rule order server).visibility.storage remote =
      server.visibility.storage remote :=
  (updateVisibilityFor_of_notMem rule notMem server).1

end Visibility

/-! ## The synchronizer -/

section Synchronizer

variable (settings : SyncSettings V) (elapsed : TypeHash → Bool)

/-- Serving connections changes only component caches and what was sent. -/
private theorem synchronizeFor_frame (order : List InstanceId) (server : Server V) :
    let updated := order.foldl (synchronizeFor settings elapsed) server
    updated.pool = server.pool ∧ updated.connections = server.connections ∧
      updated.visibility = server.visibility := by
  induction order generalizing server with
  | nil => exact ⟨rfl, rfl, rfl⟩
  | cons first rest ih => exact ih (synchronizeFor settings elapsed server first)

private theorem synchronizeFor_sent_of_notMem {order : List InstanceId} {remote : InstanceId}
    (notMem : remote ∉ order) (server : Server V) :
    (order.foldl (synchronizeFor settings elapsed) server).sent remote =
      server.sent remote := by
  induction order generalizing server with
  | nil => rfl
  | cons first rest ih =>
      rw [List.mem_cons, not_or] at notMem
      rw [List.foldl_cons, ih notMem.2]
      exact send_of_ne _ notMem.1 _

/-- The cells of live entities are served connection by connection. -/
private theorem synchronizeFor_cells (order : List InstanceId) (server : Server V)
    {type : TypeHash} (typeMem : type ∈ settings.types) {entity : Entity}
    (live : entity ∈ server.pool.entities) :
    (order.foldl (synchronizeFor settings elapsed) server).cells type entity =
      (server.cells type entity).serve settings type entity
        (fun remote => (server.visibility.storage remote).get? entity) (elapsed type) order := by
  induction order generalizing server with
  | nil => rfl
  | cons first rest ih =>
      have head : (synchronizeFor settings elapsed server first).cells type entity =
          ((server.cells type entity).performUpdate settings type entity
            ((server.visibility.storage first).get? entity) (elapsed type)).1 :=
        synchronizeConnection_cells settings _ elapsed server.pool.nodup server.cells typeMem live
      rw [List.foldl_cons, ih (synchronizeFor settings elapsed server first) live, head]
      rfl

private theorem synchronizeFor_cells_of_notMem (order : List InstanceId) (server : Server V)
    (type : TypeHash) (entity : Entity)
    (untouched : entity ∉ server.pool.entities ∨ type ∉ settings.types) :
    (order.foldl (synchronizeFor settings elapsed) server).cells type entity =
      server.cells type entity := by
  induction order generalizing server with
  | nil => rfl
  | cons first rest ih =>
      rw [List.foldl_cons, ih (synchronizeFor settings elapsed server first) untouched]
      exact synchronizeConnection_cells_of_notMem settings _ elapsed server.cells type untouched

/-- The message pushed for a connection when it is reached after those in `before`. -/
def connectionMessage (server : Server V) (before : List InstanceId) (remote : InstanceId) :
    List CoreMessage :=
  let reached := before.foldl (synchronizeFor settings elapsed) server
  (synchronizeConnection settings (server.visibility.storage remote).get? elapsed
    server.pool.entities reached.cells).message

private theorem synchronizeFor_sent {before after : List InstanceId} {remote : InstanceId}
    (notBefore : remote ∉ before) (notAfter : remote ∉ after) (server : Server V) :
    ((before ++ remote :: after).foldl (synchronizeFor settings elapsed) server).sent remote =
      server.sent remote ++
        if (connectionMessage settings elapsed server before remote).isEmpty then []
        else [.compound (connectionMessage settings elapsed server before remote)] := by
  have frame := synchronizeFor_frame settings elapsed before server
  rw [List.foldl_append, List.foldl_cons,
    synchronizeFor_sent_of_notMem settings elapsed notAfter]
  simp only [synchronizeFor, send_self]
  rw [synchronizeFor_sent_of_notMem settings elapsed notBefore, frame.1, frame.2.2]
  rfl

/-- The part of the message about a live cell is what serving that cell pushes. -/
theorem connectionMessage_filter (server : Server V) (before : List InstanceId)
    (remote : InstanceId) {type : TypeHash} (typeMem : type ∈ settings.types) (entity : Entity)
    (live : entity ∈ server.pool.entities) :
    (connectionMessage settings elapsed server before remote).filter (about type entity) =
      (((server.cells type entity).serve settings type entity
          (fun other => (server.visibility.storage other).get? entity) (elapsed type)
          before).performUpdate settings type entity
        ((server.visibility.storage remote).get? entity) (elapsed type)).2 := by
  rw [connectionMessage, synchronizeConnection_message settings _ elapsed server.pool.nodup _
    typeMem live, synchronizeFor_cells settings elapsed before server typeMem live]

/-- Every message that is pushed sets or deletes a component of a live entity. -/
theorem shape_of_mem_connectionMessage {server : Server V} {before : List InstanceId}
    {remote : InstanceId} {message : CoreMessage}
    (mem : message ∈ connectionMessage settings elapsed server before remote) :
    ∃ type ∈ settings.types, ∃ entity ∈ server.pool.entities,
      (∃ data, message = .setComponent data type entity) ∨
        message = .delComponent type entity :=
  shape_of_mem_synchronizeConnection settings _ elapsed _ mem

end Synchronizer

/-! ## The whole tick -/

/-- The messages a remote handles, in the order in which it handles them. -/
def handled (server : Server V) (remote : InstanceId) : List CoreMessage :=
  (server.sent remote).flatMap CoreMessage.leaves

section Tick

variable {settings : SyncSettings V} {now : Int} {rule : InstanceId → Entity → Bool}
  {order : List InstanceId} {server next : Server V}

theorem tick_eq_some (ticked : server.tick settings now rule order = some next) :
    order.Perm server.connections ∧
      next = synchronize settings now order (updateVisibility rule order server) := by
  unfold tick at ticked
  split at ticked
  · rename_i perm
    exact ⟨perm, (Option.some.inj ticked).symm⟩
  · contradiction

theorem tick_mem_order (ticked : server.tick settings now rule order = some next)
    (remote : InstanceId) : remote ∈ order ↔ remote ∈ server.connections :=
  (tick_eq_some ticked).1.mem_iff

theorem tick_order_nodup (ticked : server.tick settings now rule order = some next) :
    order.Nodup :=
  (tick_eq_some ticked).1.nodup_iff.mpr server.connectionsNodup

private theorem synchronize_frame (settings : SyncSettings V) (now : Int)
    (order : List InstanceId) (server : Server V) :
    (synchronize settings now order server).pool = server.pool ∧
      (synchronize settings now order server).connections = server.connections ∧
      (synchronize settings now order server).visibility = server.visibility :=
  synchronizeFor_frame settings (server.synchronizeNow now) order server

theorem tick_pool (ticked : server.tick settings now rule order = some next) :
    next.pool = server.pool := by
  rw [(tick_eq_some ticked).2, (synchronize_frame settings now order _).1,
    updateVisibility_pool]

theorem tick_connections (ticked : server.tick settings now rule order = some next) :
    next.connections = server.connections := by
  rw [(tick_eq_some ticked).2, (synchronize_frame settings now order _).2.1,
    updateVisibility_connections]

private theorem tick_visibility (ticked : server.tick settings now rule order = some next) :
    next.visibility = (updateVisibility rule order server).visibility := by
  rw [(tick_eq_some ticked).2, (synchronize_frame settings now order _).2.2]

/-- After a tick no destruction is waiting to be reported. -/
theorem tick_destroyedEntities (ticked : server.tick settings now rule order = some next) :
    next.visibility.destroyedEntities = [] := by
  rw [tick_visibility ticked, updateVisibility_destroyedEntities]

theorem tick_storage_of_mem (ticked : server.tick settings now rule order = some next)
    {remote : InstanceId} (connected : remote ∈ server.connections) :
    next.visibility.storage remote = (server.visibilityPass rule remote).storage := by
  rw [tick_visibility ticked]
  exact updateVisibility_storage_of_mem rule server (tick_order_nodup ticked)
    ((tick_mem_order ticked remote).mpr connected)

theorem tick_storage_of_notMem (ticked : server.tick settings now rule order = some next)
    {remote : InstanceId} (disconnected : remote ∉ server.connections) :
    next.visibility.storage remote = server.visibility.storage remote := by
  rw [tick_visibility ticked]
  exact updateVisibility_storage_of_notMem rule server
    fun mem => disconnected ((tick_mem_order ticked remote).mp mem)

/-- The cells of live entities are served in the order of the connections. -/
theorem tick_cells (ticked : server.tick settings now rule order = some next)
    {type : TypeHash} (typeMem : type ∈ settings.types) {entity : Entity}
    (live : entity ∈ server.pool.entities) :
    next.cells type entity =
      { (server.cells type entity).serve settings type entity
          (fun remote => (next.visibility.storage remote).get? entity)
          (server.synchronizeNow now type) order with
        upToDate := false } := by
  have served := synchronizeFor_cells settings (server.synchronizeNow now) order
    (updateVisibility rule order server) typeMem
    (by rw [updateVisibility_pool]; exact live)
  rw [updateVisibility_cells] at served
  rw [tick_visibility ticked, (tick_eq_some ticked).2]
  simp only [synchronize, clearUpToDate, updateVisibility_synchronizeNow]
  rw [updateAll_apply _ settings.nodup, if_pos typeMem, served]

theorem tick_cells_of_notMem (ticked : server.tick settings now rule order = some next)
    (type : TypeHash) (entity : Entity)
    (untouched : entity ∉ server.pool.entities ∨ type ∉ settings.types) :
    next.cells type entity = server.cells type entity ∨
      next.cells type entity = { server.cells type entity with upToDate := false } := by
  have served := synchronizeFor_cells_of_notMem settings (server.synchronizeNow now) order
    (updateVisibility rule order server) type entity
    (by rw [updateVisibility_pool]; exact untouched)
  rw [updateVisibility_cells] at served
  rw [(tick_eq_some ticked).2]
  simp only [synchronize, clearUpToDate, updateVisibility_synchronizeNow]
  by_cases typeMem : type ∈ settings.types
  · rw [updateAll_apply _ settings.nodup, if_pos typeMem, served]
    exact Or.inr rfl
  · rw [updateAll_of_notMem _ typeMem, served]
    exact Or.inl rfl

/-- A tick leaves all components alone. -/
theorem tick_component (ticked : server.tick settings now rule order = some next)
    (type : TypeHash) (entity : Entity) :
    (next.cells type entity).component = (server.cells type entity).component := by
  by_cases served : entity ∈ server.pool.entities ∧ type ∈ settings.types
  · rw [tick_cells ticked served.2 served.1]
    simp
  · rcases tick_cells_of_notMem ticked type entity (not_and_or.mp served) with same | cleared
    · rw [same]
    · rw [cleared]

/-- A connection handles the visibility messages, then the compound message, whose parts
are described cell by cell. -/
theorem exists_tick_handled (ticked : server.tick settings now rule order = some next)
    {remote : InstanceId} (connected : remote ∈ server.connections) :
    ∃ (before after : List InstanceId) (message : List CoreMessage),
      order = before ++ remote :: after ∧
      next.handled remote =
        server.handled remote ++ (server.visibilityPass rule remote).messages ++
          message.reverse ∧
      (∀ part ∈ message, ∃ type ∈ settings.types, ∃ entity ∈ server.pool.entities,
        (∃ data, part = .setComponent data type entity) ∨ part = .delComponent type entity) ∧
      ∀ type ∈ settings.types, ∀ entity ∈ server.pool.entities,
        message.filter (about type entity) =
          (((server.cells type entity).serve settings type entity
              (fun other => (next.visibility.storage other).get? entity)
              (server.synchronizeNow now type) before).performUpdate settings type entity
            ((next.visibility.storage remote).get? entity)
            (server.synchronizeNow now type)).2 := by
  have inOrder := (tick_mem_order ticked remote).mpr connected
  have orderNodup := tick_order_nodup ticked
  obtain ⟨before, after, rfl⟩ := List.append_of_mem inOrder
  have separate := List.nodup_append.mp orderNodup
  have notBefore : remote ∉ before := fun mem =>
    separate.2.2 remote mem remote List.mem_cons_self rfl
  have notAfter : remote ∉ after := (List.nodup_cons.mp separate.2.1).1
  let visible := updateVisibility rule (before ++ remote :: after) server
  let message := connectionMessage settings (server.synchronizeNow now) visible before remote
  have shape : ∀ part ∈ message, ∃ type ∈ settings.types, ∃ entity ∈ server.pool.entities,
      (∃ data, part = .setComponent data type entity) ∨
        part = .delComponent type entity := by
    intro part mem
    have pushed := shape_of_mem_connectionMessage settings (server.synchronizeNow now) mem
    rw [updateVisibility_pool] at pushed
    exact pushed
  have simple : ∀ part ∈ message, part.isCompound = false := by
    intro part mem
    obtain ⟨_, _, _, _, ⟨_, rfl⟩ | rfl⟩ := shape part mem <;> rfl
  refine ⟨before, after, message, rfl, ?_, shape, ?_⟩
  · have sent : next.sent remote = visible.sent remote ++
        if message.isEmpty then [] else [.compound message] := by
      rw [(tick_eq_some ticked).2]
      have pushed := synchronizeFor_sent settings (server.synchronizeNow now) notBefore notAfter
        visible
      simp only [synchronize, updateVisibility_synchronizeNow]
      exact pushed
    have compoundLeaves :
        (if message.isEmpty then [] else [CoreMessage.compound message]).flatMap
          CoreMessage.leaves = message.reverse := by
      rw [← CoreMessage.leavesReversed_of_simple simple]
      cases message <;> simp [CoreMessage.leavesReversed]
    rw [handled, sent, updateVisibility_sent_of_mem rule server orderNodup inOrder,
      List.flatMap_append, List.flatMap_append, compoundLeaves, handled,
      VisibilityPass.leaves_messages]
  · intro type typeMem entity live
    have pushed := connectionMessage_filter settings (server.synchronizeNow now) visible before
      remote typeMem entity (by rw [updateVisibility_pool]; exact live)
    rw [updateVisibility_cells] at pushed
    rw [tick_visibility ticked]
    exact pushed

/-- A reader that ignores component messages only follows the visibility messages of a
tick. -/
theorem foldl_tick_handled (ticked : server.tick settings now rule order = some next)
    {remote : InstanceId} (connected : remote ∈ server.connections) {σ : Type}
    {read : σ → CoreMessage → σ}
    (ignoresSet : ∀ state data type entity,
      read state (.setComponent data type entity) = state)
    (ignoresDel : ∀ state type entity, read state (.delComponent type entity) = state)
    (start : σ) :
    (next.handled remote).foldl read start =
      (server.visibilityPass rule remote).messages.foldl read
        ((server.handled remote).foldl read start) := by
  obtain ⟨_, _, message, _, handledEq, shape, _⟩ := exists_tick_handled ticked connected
  rw [handledEq, List.foldl_append, List.foldl_append]
  rw [foldl_filter_of_neutral fun _ => false]
  · simp
  · intro state part mem _
    obtain ⟨type, _, entity, _, ⟨data, rfl⟩ | rfl⟩ := shape part (List.mem_reverse.mp mem)
    · exact ignoresSet state data type entity
    · exact ignoresDel state type entity

end Tick

end Server

end VoxelEngine.ClientServer
