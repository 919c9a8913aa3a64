import Mathlib.Data.List.Chain
import VoxelEngine.ClientServer.Server
import VoxelEngine.Transition.Run

/-!
# The connections of a server

A server keeps its message handlers by the identifier of the remote, which the remote chooses
itself, and raises an event when a handler is added or removed.  Adding a handler for an
identifier that is in use keeps the old handler, but raises the event.  The new handler is
dropped then, which ends its session, and the end of a session removes whatever handler is
stored for its remote.
-/

namespace VoxelEngine.ClientServer

open VoxelEngine.Transition

/-- A message handler, which is told apart by its address, with the remote it is for. -/
structure ClientConnection where
  handler : Nat
  remote : InstanceId
  deriving DecidableEq

/-- `instance_connected_event` and `instance_disconnected_event` -/
inductive ConnectionEvent where
  | connected (remote : InstanceId)
  | disconnected (remote : InstanceId)
  deriving DecidableEq

/-- Whether the event connects or disconnects this remote. -/
def ConnectionEvent.about (remote : InstanceId) : ConnectionEvent → Option Bool
  | connected other => if other = remote then some true else none
  | disconnected other => if other = remote then some false else none

/-- The connections of a server with the events it has raised, and the handlers whose
sessions have not ended yet. -/
structure ConnectionTable where
  clientConnections : List ClientConnection
  distinct : (clientConnections.map ClientConnection.remote).Nodup
  events : List ConnectionEvent
  sessions : List ClientConnection

/-- What happens to the connections.  Handlers are added with a session of their own, or for a
client in the same application.  A session ends when its handler was dropped, or because of
the remote. -/
inductive ConnectionAction where
  | addClientConnection (connection : ClientConnection) (hasSession : Bool)
  | removeClientConnection (remote : InstanceId)
  | clearClientConnections (order : List InstanceId)
  | endSession (connection : ClientConnection)

namespace ConnectionTable

/-- No remote is connected. -/
def empty : ConnectionTable :=
  ⟨[], List.nodup_nil, [], []⟩

/-- `get_connections` -/
def getConnections (table : ConnectionTable) : List ClientConnection :=
  table.clientConnections

/-- `get_connection` -/
def getConnection (table : ConnectionTable) (remote : InstanceId) : Option ClientConnection :=
  table.clientConnections.find? fun connection => connection.remote = remote

/-- The remotes of all connections. -/
def remotes (table : ConnectionTable) : List InstanceId :=
  table.clientConnections.map ClientConnection.remote

theorem distinct_filter (table : ConnectionTable) (kept : ClientConnection → Bool) :
    ((table.clientConnections.filter kept).map ClientConnection.remote).Nodup :=
  table.distinct.sublist (List.filter_sublist.map _)

/-- `add_client_connection`: `emplace` keeps the handler that is there. -/
def addClientConnection (table : ConnectionTable) (connection : ClientConnection) :
    ConnectionTable :=
  if known : connection.remote ∈ table.remotes then
    { table with events := table.events ++ [.connected connection.remote] }
  else
    { table with
      clientConnections := connection :: table.clientConnections
      distinct := List.nodup_cons.mpr ⟨known, table.distinct⟩
      events := table.events ++ [.connected connection.remote] }

/-- `remove_client_connection` -/
def removeClientConnection (table : ConnectionTable) (remote : InstanceId) : ConnectionTable :=
  if remote ∈ table.remotes then
    { table with
      clientConnections :=
        table.clientConnections.filter fun connection => connection.remote ≠ remote
      distinct := table.distinct_filter _
      events := table.events ++ [.disconnected remote] }
  else table

/-- `clear_client_connections`, which finds the connections in the given order. -/
def clearClientConnections (table : ConnectionTable) (order : List InstanceId) :
    ConnectionTable :=
  { table with
    clientConnections := []
    distinct := List.nodup_nil
    events := table.events ++ order.map .disconnected }

/-- One step.  The end of a session removes the connection of its remote. -/
def step (table : ConnectionTable) : ConnectionAction → Option ConnectionTable
  | .addClientConnection connection hasSession =>
      some (addClientConnection
        { table with
          sessions := if hasSession then connection :: table.sessions else table.sessions }
        connection)
  | .removeClientConnection remote => some (table.removeClientConnection remote)
  | .clearClientConnections order =>
      if order.Perm table.remotes then some (table.clearClientConnections order) else none
  | .endSession connection =>
      if connection ∈ table.sessions then
        some (removeClientConnection { table with sessions := table.sessions.erase connection }
          connection.remote)
      else none

/-- The events about a remote: whether it was connected or disconnected. -/
def eventsOf (table : ConnectionTable) (remote : InstanceId) : List Bool :=
  table.events.filterMap (ConnectionEvent.about remote)

/-- The last event about the remote is that it was connected. -/
def IsConnected (table : ConnectionTable) (remote : InstanceId) : Prop :=
  (table.eventsOf remote).getLast? = some true

/-- The events about every remote alternate, where it is disconnected at first, and the
remotes that are connected after them are those of the connections. -/
structure Consistent (table : ConnectionTable) : Prop where
  alternating : ∀ remote, (false :: table.eventsOf remote).IsChain (· ≠ ·)
  connected : ∀ remote, table.IsConnected remote ↔ remote ∈ table.remotes

/-- A handler is added for a remote that has none. -/
def IsNew (table : ConnectionTable) : ConnectionAction → Prop
  | .addClientConnection connection _ => connection.remote ∉ table.remotes
  | _ => True

variable {table next : ConnectionTable}

/-! ## The connections of the replicating server -/

theorem remotes_addClientConnection (table : ConnectionTable) (connection : ClientConnection) :
    (table.addClientConnection connection).remotes =
      if connection.remote ∈ table.remotes then table.remotes
      else connection.remote :: table.remotes := by
  unfold addClientConnection
  split <;> rfl

theorem remotes_removeClientConnection (table : ConnectionTable) (remote : InstanceId) :
    (table.removeClientConnection remote).remotes = table.remotes.erase remote := by
  have kept : (table.clientConnections.filter fun connection =>
      connection.remote ≠ remote).map ClientConnection.remote = table.remotes.erase remote := by
    have distinct : table.remotes.Nodup := table.distinct
    rw [distinct.erase_eq_filter, remotes, List.filter_map]
    apply congrArg (List.map _)
    apply List.filter_congr
    intro connection _
    by_cases same : connection.remote = remote
    · simp [same]
    · simp [same]
  unfold removeClientConnection
  split
  · exact kept
  · rename_i absent
    exact (List.erase_of_not_mem absent).symm

/-! ## Events -/

/-- Alternating events go on with the opposite of the last one. -/
theorem isChain_concat_iff (events : List Bool) (event : Bool) :
    (false :: (events ++ [event])).IsChain (· ≠ ·) ↔
      (false :: events).IsChain (· ≠ ·) ∧ event = !decide (events.getLast? = some true) := by
  rw [← List.cons_append, List.isChain_append, List.getLast?_cons]
  simp only [List.isChain_singleton, true_and, Option.mem_def, Option.some.injEq,
    List.head?_cons]
  cases events.getLast? with
  | none => cases event <;> simp
  | some last => cases event <;> cases last <;> simp

/-- What the events about a remote have become. -/
inductive Recorded (table next : ConnectionTable) (remote : InstanceId) : Prop where
  | nothing (events : next.eventsOf remote = table.eventsOf remote)
      (remotes : remote ∈ next.remotes ↔ remote ∈ table.remotes)
  | connected (events : next.eventsOf remote = table.eventsOf remote ++ [true])
      (before : remote ∉ table.remotes) (after : remote ∈ next.remotes)
  | disconnected (events : next.eventsOf remote = table.eventsOf remote ++ [false])
      (before : remote ∈ table.remotes) (after : remote ∉ next.remotes)

/-- Events that tell what has happened to every remote keep the table consistent. -/
theorem Consistent.of_recorded (consistent : Consistent table)
    (recorded : ∀ remote, Recorded table next remote) : Consistent next := by
  constructor
  · intro remote
    cases recorded remote with
    | nothing events _ =>
        rw [events]
        exact consistent.alternating remote
    | connected events before _ =>
        rw [← consistent.connected, IsConnected] at before
        rw [events, isChain_concat_iff]
        exact ⟨consistent.alternating remote, by simp [before]⟩
    | disconnected events before _ =>
        rw [← consistent.connected, IsConnected] at before
        rw [events, isChain_concat_iff]
        exact ⟨consistent.alternating remote, by simp [before]⟩
  · intro remote
    cases recorded remote with
    | nothing events remotes =>
        rw [IsConnected, events, remotes]
        exact consistent.connected remote
    | connected events _ after =>
        rw [IsConnected, events, List.getLast?_concat]
        exact iff_of_true rfl after
    | disconnected events _ after =>
        rw [IsConnected, events, List.getLast?_concat]
        exact iff_of_false (by simp) after

theorem eventsOf_addClientConnection (table : ConnectionTable) (connection : ClientConnection)
    (remote : InstanceId) :
    (table.addClientConnection connection).eventsOf remote =
      if connection.remote = remote then table.eventsOf remote ++ [true]
      else table.eventsOf remote := by
  have events : (table.addClientConnection connection).events =
      table.events ++ [.connected connection.remote] := by
    unfold addClientConnection
    split <;> rfl
  rw [eventsOf, events, List.filterMap_append]
  by_cases same : connection.remote = remote
  · simp [eventsOf, ConnectionEvent.about, same]
  · simp [eventsOf, ConnectionEvent.about, same]

/-- Adding a handler keeps the table consistent exactly if its remote had none. -/
theorem consistent_addClientConnection_iff (consistent : Consistent table)
    (connection : ClientConnection) :
    Consistent (table.addClientConnection connection) ↔ connection.remote ∉ table.remotes := by
  constructor
  · intro after known
    have alternating := after.alternating connection.remote
    rw [eventsOf_addClientConnection, if_pos rfl, isChain_concat_iff] at alternating
    rw [← consistent.connected, IsConnected] at known
    rw [known] at alternating
    cases alternating.2
  · intro fresh
    apply consistent.of_recorded
    intro remote
    have events := eventsOf_addClientConnection table connection remote
    have remotes := remotes_addClientConnection table connection
    rw [if_neg fresh] at remotes
    by_cases same : connection.remote = remote
    · rw [if_pos same] at events
      apply Recorded.connected events
      · exact same ▸ fresh
      · rw [remotes, same]
        exact List.mem_cons_self
    · rw [if_neg same] at events
      apply Recorded.nothing events
      rw [remotes, List.mem_cons, or_iff_right (Ne.symm same)]

/-- Removing the connection of a remote keeps the table consistent. -/
theorem Consistent.removeClientConnection (consistent : Consistent table) (gone : InstanceId) :
    Consistent (table.removeClientConnection gone) := by
  apply consistent.of_recorded
  intro remote
  have remotes := remotes_removeClientConnection table gone
  by_cases known : gone ∈ table.remotes
  · have events : (table.removeClientConnection gone).eventsOf remote =
        if gone = remote then table.eventsOf remote ++ [false] else table.eventsOf remote := by
      rw [ConnectionTable.removeClientConnection, if_pos known, eventsOf, List.filterMap_append]
      by_cases same : gone = remote
      · simp [eventsOf, ConnectionEvent.about, same]
      · simp [eventsOf, ConnectionEvent.about, same]
    by_cases same : gone = remote
    · rw [if_pos same] at events
      apply Recorded.disconnected events (same ▸ known)
      rw [remotes, same]
      exact List.Nodup.not_mem_erase table.distinct
    · rw [if_neg same] at events
      apply Recorded.nothing events
      rw [remotes, List.mem_erase_of_ne (Ne.symm same)]
  · rw [ConnectionTable.removeClientConnection, if_neg known]
    exact Recorded.nothing rfl Iff.rfl

/-- Every remote is disconnected once. -/
theorem filterMap_disconnected {order : List InstanceId} (nodup : order.Nodup)
    (remote : InstanceId) :
    (order.map ConnectionEvent.disconnected).filterMap (ConnectionEvent.about remote) =
      if remote ∈ order then [false] else [] := by
  induction order with
  | nil => rfl
  | cons first rest ih =>
      rcases List.nodup_cons.mp nodup with ⟨fresh, restNodup⟩
      rw [List.map_cons, List.filterMap_cons, ih restNodup, ConnectionEvent.about]
      by_cases same : first = remote
      · rw [same] at fresh
        simp [same, fresh]
      · simp [same, Ne.symm same]

/-- Removing all connections keeps the table consistent. -/
theorem Consistent.clearClientConnections (consistent : Consistent table)
    {order : List InstanceId} (perm : order.Perm table.remotes) :
    Consistent (table.clearClientConnections order) := by
  apply consistent.of_recorded
  intro remote
  have events : (table.clearClientConnections order).eventsOf remote =
      table.eventsOf remote ++ if remote ∈ order then [false] else [] := by
    rw [eventsOf, ConnectionTable.clearClientConnections, List.filterMap_append,
      filterMap_disconnected (perm.nodup_iff.mpr table.distinct)]
    rfl
  by_cases known : remote ∈ table.remotes
  · rw [if_pos (perm.mem_iff.mpr known)] at events
    exact Recorded.disconnected events known List.not_mem_nil
  · rw [if_neg (fun mem => known (perm.mem_iff.mp mem)), List.append_nil] at events
    exact Recorded.nothing events (iff_of_false List.not_mem_nil known)

/-! ## Runs -/

theorem consistent_empty : Consistent empty where
  alternating _ := List.isChain_singleton false
  connected remote := iff_of_false (by simp [IsConnected, eventsOf, empty]) List.not_mem_nil

/-- The sessions that are left do not matter. -/
theorem Consistent.withSessions (consistent : Consistent table)
    (sessions : List ClientConnection) : Consistent { table with sessions := sessions } :=
  ⟨consistent.alternating, consistent.connected⟩

/-- A step keeps the table consistent exactly if it adds no handler for a remote that has
one. -/
theorem consistent_step_iff {action : ConnectionAction} (consistent : Consistent table)
    (stepEq : table.step action = some next) : Consistent next ↔ IsNew table action := by
  cases action with
  | addClientConnection connection hasSession =>
      cases stepEq
      exact consistent_addClientConnection_iff (consistent.withSessions _) connection
  | removeClientConnection remote =>
      cases stepEq
      exact iff_of_true (consistent.removeClientConnection remote) trivial
  | clearClientConnections order =>
      rw [step, Option.ite_none_right_eq_some] at stepEq
      rcases stepEq with ⟨perm, ⟨⟩⟩
      exact iff_of_true (consistent.clearClientConnections perm) trivial
  | endSession connection =>
      rw [step, Option.ite_none_right_eq_some] at stepEq
      rcases stepEq with ⟨_, ⟨⟩⟩
      exact iff_of_true ((consistent.withSessions _).removeClientConnection _) trivial

/-- A handler that is added for a remote without one is found by its remote. -/
theorem getConnection_addClientConnection {connection : ClientConnection}
    (fresh : connection.remote ∉ table.remotes) :
    (table.addClientConnection connection).getConnection connection.remote =
      some connection := by
  rw [addClientConnection, dif_neg fresh, getConnection, List.find?_cons_of_pos]
  exact decide_eq_true rfl

/-- The connections after every handler that was added are consistent with the events, and the
handler is stored. -/
def Stored (actions : List ConnectionAction) : Prop :=
  ∀ before connection hasSession after middle,
    actions = before ++ .addClientConnection connection hasSession :: after →
      run step empty (before ++ [.addClientConnection connection hasSession]) = some middle →
        middle.getConnection connection.remote = some connection

/-- The events about every remote alternate and agree with the connections in all states of a
run, and every handler that is added is stored, exactly if handlers are only added for remotes
that have none. -/
theorem consistent_throughout_iff {actions : List ConnectionAction} {final : ConnectionTable}
    (runEq : run step empty actions = some final) :
    ((∀ before after middle, actions = before ++ after →
        run step empty before = some middle → Consistent middle) ∧ Stored actions) ↔
      Guarded step IsNew empty actions := by
  have throughout := @throughout_iff_guarded _ _ step IsNew (fun _ => True) Consistent
    (fun _ _ _ _ _ => trivial)
    (fun _ _ _ _ consistent stepEq => consistent_step_iff consistent stepEq) _ _ _ trivial
    consistent_empty runEq
  rw [throughout, and_iff_left_iff_imp]
  rintro guarded before connection hasSession after middle rfl addedRun
  rcases (run_append_eq_some_iff _ _ _ _ _).mp addedRun with ⟨between, beforeRun, stepRun⟩
  have fresh : connection.remote ∉ between.remotes :=
    (guarded_cons_iff.mp ((guarded_append_iff.mp guarded).2 between beforeRun)).1
  rcases (run_cons_eq_some_iff _ _ _ _ _).mp stepRun with ⟨_, ⟨⟩, ⟨⟩⟩
  exact getConnection_addClientConnection fresh

instance (table : ConnectionTable) (action : ConnectionAction) :
    Decidable (IsNew table action) :=
  match action with
  | .addClientConnection _ _ => instDecidableNot
  | .removeClientConnection _ => instDecidableTrue
  | .clearClientConnections _ => instDecidableTrue
  | .endSession _ => instDecidableTrue

/-- A remote that reconnects after its session has ended. -/
theorem consistent_throughout_reconnect :
    ∃ final, run step empty [.addClientConnection ⟨0, 7⟩ true, .endSession ⟨0, 7⟩,
        .addClientConnection ⟨1, 7⟩ true] = some final ∧ Consistent final := by
  have reached : (run step empty [.addClientConnection ⟨0, 7⟩ true, .endSession ⟨0, 7⟩,
      .addClientConnection ⟨1, 7⟩ true]).isSome = true := by decide +kernel
  rcases Option.isSome_iff_exists.mp reached with ⟨final, runEq⟩
  have guarded : Guarded step IsNew empty [.addClientConnection ⟨0, 7⟩ true,
      .endSession ⟨0, 7⟩, .addClientConnection ⟨1, 7⟩ true] := by decide +kernel
  exact ⟨final, runEq, ((consistent_throughout_iff runEq).mpr guarded).1 _ [] final
    (List.append_nil _).symm runEq⟩

/-- A second handler for a remote that is connected: the event is raised twice, the first
handler stays, and the end of the second session removes it. -/
theorem connected_twice :
    ∃ middle final, run step empty [.addClientConnection ⟨0, 7⟩ true,
        .addClientConnection ⟨1, 7⟩ true] = some middle ∧
      middle.events = [.connected 7, .connected 7] ∧
      middle.getConnection 7 = some ⟨0, 7⟩ ∧ ¬Consistent middle ∧
      middle.step (.endSession ⟨1, 7⟩) = some final ∧ final.getConnections = [] := by
  rcases Option.map_eq_some_iff.mp (by decide +kernel : (run step empty
      [.addClientConnection ⟨0, 7⟩ true, .addClientConnection ⟨1, 7⟩ true]).map
        (fun middle => (middle.events, middle.getConnection 7,
          (middle.step (.endSession ⟨1, 7⟩)).map getConnections)) =
      some ([.connected 7, .connected 7], some ⟨0, 7⟩, some [])) with ⟨middle, runEq, found⟩
  simp only [Prod.mk.injEq] at found
  rcases found with ⟨events, stored, ended⟩
  rcases Option.map_eq_some_iff.mp ended with ⟨final, stepEq, connections⟩
  refine ⟨middle, final, runEq, events, stored, ?_, stepEq, connections⟩
  intro consistent
  have alternating := consistent.alternating 7
  rw [eventsOf, events] at alternating
  exact absurd alternating (by decide)

end ConnectionTable

end VoxelEngine.ClientServer
