import VoxelEngine.Transition.Run

/-!
# Starting a socket client

Starting a client blocks the calling thread until the thread of the client has connected or
failed to connect, which it tells by a condition variable.  The caller waits for a session,
and a failed attempt makes none.
-/

namespace VoxelEngine.ClientServer.Startup

open VoxelEngine.Transition

/-- The instance events of a client: an error because it is started already or because it
cannot connect, and the others. -/
inductive SocketClientEvent where
  | alreadyStarted
  | connectionFailed
  | instanceStart
  | instanceEnd
  deriving DecidableEq

/-- `socket_client`, with what became of the last attempt to connect and of the last call of
`start`. -/
structure SocketClient where
  exited : Bool
  hasThread : Bool
  hasSession : Bool
  connectionError : Bool
  /-- The thread of the client is connecting. -/
  isConnecting : Bool
  /-- A call of `start` waits for the connection. -/
  isStarting : Bool
  events : List SocketClientEvent
  /-- Whether the last attempt has succeeded, until the client is stopped. -/
  lastAttempt : Option Bool
  /-- The last call of `start` threw. -/
  threw : Bool
  deriving DecidableEq

/-- Calls of `start`, which may resolve the address or not, the end of an attempt to connect,
the caller that goes on after its wait, and calls of `stop`. -/
inductive SocketClientAction where
  | start (resolves : Bool)
  | onConnected (success : Bool)
  | awaitConnection
  | stop
  deriving DecidableEq

namespace SocketClient

/-- A client that was never started. -/
def initial : SocketClient where
  exited := true
  hasThread := false
  hasSession := false
  connectionError := false
  isConnecting := false
  isStarting := false
  events := []
  lastAttempt := none
  threw := false

/-- `start`, up to `await_connection`. -/
def start (client : SocketClient) (resolves : Bool) : SocketClient :=
  if client.exited then
    if resolves then
      { client with
        exited := false
        hasThread := true
        hasSession := false
        isConnecting := true
        isStarting := true
        lastAttempt := none }
    -- the exception of the resolver leaves `exited` as it was just set
    else
      { client with
        exited := false
        hasSession := false
        lastAttempt := some false
        threw := true }
  else { client with events := client.events ++ [.alreadyStarted], threw := false }

/-- `on_connected` -/
def onConnected (client : SocketClient) (success : Bool) : SocketClient :=
  if success then
    { client with hasSession := true, isConnecting := false, lastAttempt := some true }
  else
    { client with
      connectionError := true
      isConnecting := false
      events := client.events ++ [.connectionFailed]
      lastAttempt := some false }

/-- What `await_connection` waits for. -/
def canProceed (client : SocketClient) : Bool :=
  client.hasSession

/-- The end of `start`, after `await_connection` has waited. -/
def proceed (client : SocketClient) : SocketClient :=
  if client.connectionError then { client with isStarting := false, threw := true }
  else
    { client with
      isStarting := false
      events := client.events ++ [.instanceStart]
      threw := false }

/-- `stop`, which is undefined for a client that was started but has no thread to join. -/
def stop (client : SocketClient) : Option SocketClient :=
  if client.exited then some client
  else if client.hasThread then
    some { client with
      exited := true
      hasThread := false
      hasSession := false
      connectionError := false
      events := client.events ++ [.instanceEnd]
      lastAttempt := none }
  else none

/-- One step.  There is no other call while `start` waits. -/
def step (client : SocketClient) : SocketClientAction → Option SocketClient
  | .start resolves => if client.isStarting then none else some (client.start resolves)
  | .onConnected success =>
      if client.isConnecting then some (client.onConnected success) else none
  | .awaitConnection =>
      if client.isStarting && client.canProceed then some client.proceed else none
  | .stop => if client.isStarting then none else client.stop

/-- A call of `start` can go on as soon as the attempt has ended; if the attempt has failed
the call throws, and the next one makes another attempt; and while the client runs, another
call only raises an error. -/
structure Recoverable (client : SocketClient) : Prop where
  released : client.isStarting = true → client.isConnecting = false → client.canProceed = true
  failed : client.isStarting = false → client.lastAttempt = some false →
    client.threw = true ∧
      ∃ next, client.step (.start true) = some next ∧ next.isConnecting = true
  running : client.isStarting = false → client.lastAttempt = some true →
    ∀ resolves, client.step (.start resolves) =
      some { client with events := client.events ++ [.alreadyStarted], threw := false }

/-- An attempt to connect succeeds. -/
def Succeeds (client : SocketClient) : SocketClientAction → Prop
  | .start resolves => client.exited = true → resolves = true
  | .onConnected success => success = true
  | _ => True

/-- How the flags of a client depend on each other. -/
structure Sound (client : SocketClient) : Prop where
  connecting : client.isConnecting = true →
    client.isStarting = true ∧ client.hasSession = false ∧ client.connectionError = false
  starting : client.isStarting = true → client.exited = false ∧ client.hasThread = true
  attempted : client.isStarting = true → client.isConnecting = false →
    client.lastAttempt = some client.hasSession
  error : client.connectionError = true →
    client.isStarting = true ∧ client.hasSession = false
  last : client.lastAttempt ≠ none → client.exited = false

variable {client next : SocketClient}

/-- What a step does. -/
theorem step_eq_some {action : SocketClientAction} (stepEq : client.step action = some next) :
    (∃ resolves, action = .start resolves ∧ client.isStarting = false ∧
      next = client.start resolves) ∨
    (∃ success, action = .onConnected success ∧ client.isConnecting = true ∧
      next = client.onConnected success) ∨
    (action = .awaitConnection ∧ client.isStarting = true ∧ client.hasSession = true ∧
      next = client.proceed) ∨
    (action = .stop ∧ client.isStarting = false ∧ client.stop = some next) := by
  cases action with
  | start resolves =>
      rw [step, Option.ite_none_left_eq_some] at stepEq
      rcases stepEq with ⟨idle, same⟩
      exact Or.inl ⟨resolves, rfl, eq_false_of_ne_true idle,
        (Option.some.inj same).symm⟩
  | onConnected success =>
      rw [step, Option.ite_none_right_eq_some] at stepEq
      exact Or.inr (Or.inl ⟨success, rfl, stepEq.1, (Option.some.inj stepEq.2).symm⟩)
  | awaitConnection =>
      rw [step, Option.ite_none_right_eq_some, Bool.and_eq_true] at stepEq
      exact Or.inr (Or.inr (Or.inl ⟨rfl, stepEq.1.1, stepEq.1.2,
        (Option.some.inj stepEq.2).symm⟩))
  | stop =>
      rw [step, Option.ite_none_left_eq_some] at stepEq
      exact Or.inr (Or.inr (Or.inr ⟨rfl, eq_false_of_ne_true stepEq.1, stepEq.2⟩))

/-- A client that has exited makes an attempt to connect. -/
theorem start_of_exited (exited : client.exited = true) :
    client.start true =
      { client with
        exited := false
        hasThread := true
        hasSession := false
        isConnecting := true
        isStarting := true
        lastAttempt := none } := by
  rw [start, if_pos exited, if_pos rfl]

theorem start_of_running (running : client.exited = false) (resolves : Bool) :
    client.start resolves =
      { client with events := client.events ++ [.alreadyStarted], threw := false } := by
  rw [start, if_neg (by rw [running]; exact Bool.false_ne_true)]

/-- Stopping a client that runs takes it back to where it can be started. -/
theorem stop_of_running (running : client.exited = false) (stopEq : client.stop = some next) :
    next = { client with
      exited := true
      hasThread := false
      hasSession := false
      connectionError := false
      events := client.events ++ [.instanceEnd]
      lastAttempt := none } := by
  rw [stop, if_neg (by rw [running]; exact Bool.false_ne_true),
    Option.ite_none_right_eq_some] at stopEq
  exact (Option.some.inj stopEq.2).symm

theorem sound_initial : Sound initial := by
  constructor <;> simp [initial]

/-- Nothing is connecting while no call waits, or when there is a session already. -/
theorem Sound.isConnecting_eq_false (sound : Sound client)
    (settled : client.isStarting = false ∨ client.hasSession = true) :
    client.isConnecting = false := by
  apply eq_false_of_ne_true
  intro connecting
  rcases sound.connecting connecting with ⟨starting, fresh, _⟩
  rcases settled with idle | session
  · exact absurd (idle.symm.trans starting) Bool.false_ne_true
  · exact absurd (fresh.symm.trans session) Bool.false_ne_true

/-- An error only stays while a call waits for a session. -/
theorem Sound.connectionError_eq_false (sound : Sound client)
    (settled : client.isStarting = false ∨ client.hasSession = true) :
    client.connectionError = false := by
  apply eq_false_of_ne_true
  intro error
  rcases sound.error error with ⟨starting, fresh⟩
  rcases settled with idle | session
  · exact absurd (idle.symm.trans starting) Bool.false_ne_true
  · exact absurd (fresh.symm.trans session) Bool.false_ne_true

theorem Sound.start (sound : Sound client) (idle : client.isStarting = false)
    (resolves : Bool) : Sound (client.start resolves) := by
  have quiet := sound.connectionError_eq_false (.inl idle)
  have resting := sound.isConnecting_eq_false (.inl idle)
  cases exited : client.exited with
  | false =>
      rw [start_of_running exited]
      exact ⟨sound.connecting, sound.starting, sound.attempted, sound.error, sound.last⟩
  | true =>
      rw [SocketClient.start, if_pos exited]
      cases resolves with
      | true => constructor <;> simp [quiet]
      | false => constructor <;> simp [quiet, resting, idle]

theorem Sound.step (sound : Sound client) {action : SocketClientAction}
    (stepEq : client.step action = some next) : Sound next := by
  rcases step_eq_some stepEq with ⟨resolves, rfl, idle, rfl⟩ | ⟨success, rfl, connecting, rfl⟩ |
    ⟨rfl, starting, session, rfl⟩ | ⟨rfl, idle, stopEq⟩
  · exact sound.start idle resolves
  · rcases sound.connecting connecting with ⟨starting, fresh, quiet⟩
    rcases sound.starting starting with ⟨running, thread⟩
    cases success with
    | true => constructor <;> simp [onConnected, starting, running, thread, quiet]
    | false => constructor <;> simp [onConnected, starting, running, thread, fresh]
  · rcases sound.starting starting with ⟨running, thread⟩
    have resting := sound.isConnecting_eq_false (.inr session)
    have quiet := sound.connectionError_eq_false (.inr session)
    constructor <;> simp [proceed, quiet, resting, running]
  · cases exited : client.exited with
    | true =>
        rw [SocketClient.stop, if_pos exited] at stopEq
        exact Option.some.inj stopEq ▸ sound
    | false =>
        have resting := sound.isConnecting_eq_false (.inl idle)
        rw [stop_of_running exited stopEq]
        constructor <;> simp [idle, resting]

/-- A client that waits for a session it will not get does nothing any more. -/
theorem step_eq_none_of_blocked (starting : client.isStarting = true)
    (resting : client.isConnecting = false) (unreleased : client.canProceed = false)
    (action : SocketClientAction) : client.step action = none := by
  cases action with
  | start resolves => exact if_pos starting
  | onConnected success => exact if_neg (by rw [resting]; exact Bool.false_ne_true)
  | awaitConnection => exact if_neg (by simp [unreleased])
  | stop => exact if_pos starting

/-- Without a call that waits, a client connects when it is started exactly if it has
exited. -/
theorem connects_iff_exited (sound : Sound client) (idle : client.isStarting = false) :
    (∃ next, client.step (.start true) = some next ∧ next.isConnecting = true) ↔
      client.exited = true := by
  have started : client.step (.start true) = some (client.start true) :=
    if_neg (by rw [idle]; exact Bool.false_ne_true)
  rw [started]
  cases exited : client.exited with
  | true =>
      apply iff_of_true _ rfl
      exact ⟨_, rfl, by rw [start_of_exited exited]⟩
  | false =>
      apply iff_of_false _ Bool.false_ne_true
      rintro ⟨_, ⟨⟩, connecting⟩
      rw [start_of_running exited] at connecting
      have resting := sound.isConnecting_eq_false (.inl idle)
      exact absurd (resting.symm.trans connecting) Bool.false_ne_true

/-- A client is recoverable if a call that waits gets its session, and otherwise no attempt
has failed: a failed one leaves the client running. -/
theorem recoverable_iff (sound : Sound client) :
    Recoverable client ↔
      (client.isStarting = true → client.isConnecting = false → client.hasSession = true) ∧
        (client.isStarting = false → client.lastAttempt ≠ some false) := by
  constructor
  · intro recoverable
    refine ⟨recoverable.released, ?_⟩
    intro idle failed
    have exited := (connects_iff_exited sound idle).mp (recoverable.failed idle failed).2
    rw [sound.last (by simp [failed])] at exited
    cases exited
  · rintro ⟨released, succeeded⟩
    constructor
    · exact released
    · exact fun idle failed => absurd failed (succeeded idle)
    · intro idle running resolves
      have started : client.step (.start resolves) = some (client.start resolves) :=
        if_neg (by rw [idle]; exact Bool.false_ne_true)
      rw [started, start_of_running (sound.last (by simp [running]))]

/-- A step leaves the client recoverable exactly if it does not end an attempt in failure. -/
theorem recoverable_step_iff {action : SocketClientAction} (sound : Sound client)
    (recoverable : Recoverable client) (stepEq : client.step action = some next) :
    Recoverable next ↔ Succeeds client action := by
  rw [recoverable_iff sound] at recoverable
  rw [recoverable_iff (sound.step stepEq)]
  rcases step_eq_some stepEq with ⟨resolves, rfl, idle, rfl⟩ | ⟨success, rfl, connecting, rfl⟩ |
    ⟨rfl, starting, session, rfl⟩ | ⟨rfl, idle, stopEq⟩
  · cases exited : client.exited with
    | true =>
        rw [SocketClient.start, if_pos exited]
        cases resolves with
        | true => simp [Succeeds]
        | false => simp [Succeeds, exited, idle]
    | false =>
        rw [start_of_running exited]
        apply iff_of_true
        · exact ⟨recoverable.1, recoverable.2⟩
        · intro exited'
          rw [exited] at exited'
          cases exited'
  · rcases sound.connecting connecting with ⟨starting, fresh, _⟩
    cases success with
    | true => simp [onConnected, Succeeds, starting]
    | false => simp [onConnected, Succeeds, starting, fresh]
  · have resting := sound.isConnecting_eq_false (.inr session)
    have attempted := sound.attempted starting resting
    rw [session] at attempted
    apply iff_of_true _ trivial
    unfold proceed
    split <;> simp [attempted]
  · apply iff_of_true _ trivial
    cases exited : client.exited with
    | true =>
        rw [SocketClient.stop, if_pos exited] at stopEq
        exact Option.some.inj stopEq ▸ recoverable
    | false =>
        rw [stop_of_running exited stopEq]
        simp [idle]

theorem recoverable_initial : Recoverable initial := by
  rw [recoverable_iff sound_initial]
  simp [initial]

/-- A client is recoverable in all states of a run exactly if every attempt to connect
succeeds. -/
theorem recoverable_throughout_iff {actions : List SocketClientAction} {final : SocketClient}
    (runEq : run step initial actions = some final) :
    (∀ before after middle, actions = before ++ after →
        run step initial before = some middle → Recoverable middle) ↔
      Guarded step Succeeds initial actions := by
  apply @throughout_iff_guarded _ _ step Succeeds Sound Recoverable
  · intro client action next sound stepEq
    exact sound.step stepEq
  · intro client action next sound recoverable stepEq
    exact recoverable_step_iff sound recoverable stepEq
  · exact sound_initial
  · exact recoverable_initial
  · exact runEq

instance (client : SocketClient) (action : SocketClientAction) :
    Decidable (Succeeds client action) :=
  match action with
  | .start _ => inferInstanceAs (Decidable (_ → _))
  | .onConnected _ => instDecidableEqBool _ _
  | .awaitConnection => instDecidableTrue
  | .stop => instDecidableTrue

/-- A client that is started, stopped and started again. -/
theorem recoverable_throughout_restart :
    ∃ final, run step initial [.start true, .onConnected true, .awaitConnection, .stop,
        .start true, .onConnected true] = some final ∧ Recoverable final := by
  have reached : (run step initial [.start true, .onConnected true, .awaitConnection, .stop,
      .start true, .onConnected true]).isSome = true := by decide
  rcases Option.isSome_iff_exists.mp reached with ⟨final, runEq⟩
  have guarded : Guarded step Succeeds initial [.start true, .onConnected true,
      .awaitConnection, .stop, .start true, .onConnected true] := by decide
  exact ⟨final, runEq, (recoverable_throughout_iff runEq).mpr guarded _ [] final
    (List.append_nil _).symm runEq⟩

/-- The first attempt to connect fails: the call of `start` waits for ever. -/
theorem start_blocked :
    ∃ final, run step initial [.start true, .onConnected false] = some final ∧
      final.isStarting = true ∧ (∀ action, final.step action = none) ∧ ¬Recoverable final := by
  rcases Option.map_eq_some_iff.mp (by decide : (run step initial
      [.start true, .onConnected false]).map (fun final =>
        (final.isStarting, final.isConnecting, final.canProceed)) =
      some (true, false, false)) with ⟨final, runEq, found⟩
  simp only [Prod.mk.injEq] at found
  rcases found with ⟨starting, resting, unreleased⟩
  refine ⟨final, runEq, starting, step_eq_none_of_blocked starting resting unreleased, ?_⟩
  intro recoverable
  have released := recoverable.released starting resting
  rw [unreleased] at released
  cases released

end SocketClient

end VoxelEngine.ClientServer.Startup
