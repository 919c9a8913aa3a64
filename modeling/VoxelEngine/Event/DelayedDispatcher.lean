import VoxelEngine.Event.HandlerTable
import VoxelEngine.Transition.Run

/-!
# Dispatching events later

A delayed dispatcher collects events and dispatches them type by type when it is told to.
Handlers may add events of any type while this goes on, and add and remove handlers.  When
a call to dispatch the events returns, every event that was pending or was added meanwhile
has been delivered once to each of the handlers that were registered when its delivery
started.
-/

namespace VoxelEngine.Event

open VoxelEngine.Transition

/-- Where a program is.  Outside of `dispatch_events`, or in its loop over the types that
have events, or in `invoke` at the head of the loop over the events of a type, or in the
loop over the handlers of one event.  The handlers that are registered when that loop starts
and those that have returned are noted. -/
inductive DispatchPhase (T H E : Type) where
  | idle
  | choosing
  | invoking (type : T) (index : Nat)
  | delivering (type : T) (index : Nat) (event : E) (live returned : List (HandlerEntry H))

/-- The delivery of an event: the handlers that were registered when it started and those
that were invoked. -/
structure Delivery (T H E : Type) where
  type : T
  event : E
  live : List (HandlerEntry H)
  invoked : List (HandlerEntry H)

/-- `delayed_event_dispatcher` -/
structure DelayedDispatcher (T H E : Type) where
  handlers : T → HandlerTable H
  events : T → List E
  handlersWithEvents : List T
  nextId : RawHandler
  currentlyDispatched : Option T
  pendingActions : List (PendingAction T H)
  hasEvents : Bool

namespace DelayedDispatcher

variable {T H E : Type} [DecidableEq T]

omit [DecidableEq T] in
/-- A dispatcher without handlers and events. -/
def create : DelayedDispatcher T H E :=
  ⟨fun _ => HandlerTable.empty, fun _ => [], [], 0, none, [], false⟩

/-- Perform an action at once, or put it off if the type is being dispatched. -/
def performOrDefer (dispatcher : DelayedDispatcher T H E) (type : T)
    (action : PendingAction T H) : DelayedDispatcher T H E :=
  if dispatcher.currentlyDispatched = some type then
    { dispatcher with pendingActions := dispatcher.pendingActions ++ [action] }
  else { dispatcher with handlers := PendingAction.perform dispatcher.handlers action }

/-- `delayed_event_dispatcher::add_handler`, whose handler gets the next identifier. -/
def addHandler (dispatcher : DelayedDispatcher T H E) (type : T) (priority : Priority)
    (handler : H) : DelayedDispatcher T H E :=
  { dispatcher.performOrDefer type (.add type priority dispatcher.nextId handler) with
    nextId := dispatcher.nextId + 1 }

/-- `delayed_event_dispatcher::remove_handler` -/
def removeHandler (dispatcher : DelayedDispatcher T H E) (type : T) (id : RawHandler) :
    DelayedDispatcher T H E :=
  dispatcher.performOrDefer type (.erase type id)

/-- `delayed_event_dispatcher::add_event` -/
def addEvent (dispatcher : DelayedDispatcher T H E) (type : T) (event : E) :
    DelayedDispatcher T H E :=
  { dispatcher with
    events := Function.update dispatcher.events type (dispatcher.events type ++ [event])
    handlersWithEvents := dispatcher.handlersWithEvents.insert type
    hasEvents := true }

/-- `dispatch_events` takes the next type out of the set. -/
def beginType (dispatcher : DelayedDispatcher T H E) (type : T) : DelayedDispatcher T H E :=
  { dispatcher with
    handlersWithEvents := dispatcher.handlersWithEvents.erase type
    currentlyDispatched := some type }

/-- The end of `invoke` for a type. -/
def endType (dispatcher : DelayedDispatcher T H E) (type : T) : DelayedDispatcher T H E :=
  { dispatcher with
    events := Function.update dispatcher.events type []
    currentlyDispatched := none }

/-- What `invoke` does after an event: the actions that were put off. -/
def endEvent (dispatcher : DelayedDispatcher T H E) : DelayedDispatcher T H E :=
  { dispatcher with
    handlers := dispatcher.pendingActions.foldl PendingAction.perform dispatcher.handlers
    pendingActions := [] }

end DelayedDispatcher

/-- What a program can do next. -/
inductive DelayedAction (T H E : Type) where
  | addHandler (type : T) (priority : Priority) (handler : H)
  | removeHandler (type : T) (id : RawHandler)
  | addEvent (type : T) (event : E)
  | dispatchEvents
  | chooseType (type : T)
  | nextEvent
  | handlerReturns
  | eventDone
  | dispatchReturns

/-- A dispatcher, where the program is, the handlers that were added and not removed, and the
deliveries so far. -/
structure DelayedProgram (T H E : Type) where
  dispatcher : DelayedDispatcher T H E
  phase : DispatchPhase T H E
  registered : T → LiveHandlers H
  deliveries : List (Delivery T H E)

namespace DelayedProgram

variable {T H E : Type}

/-- Nothing has been done. -/
def start : DelayedProgram T H E :=
  ⟨DelayedDispatcher.create, .idle, fun _ => [], []⟩

/-- The program runs: outside of `dispatch_events`, or in a handler. -/
def running (program : DelayedProgram T H E) : Bool :=
  match program.phase with
  | .idle => true
  | .choosing => false
  | .invoking .. => false
  | .delivering type _ _ _ returned =>
      decide (returned.length < (program.dispatcher.handlers type).entries.length)

variable [DecidableEq T]

/-- Make a call that changes handlers. -/
def call (program : DelayedProgram T H E) (dispatcher : DelayedDispatcher T H E)
    (action : PendingAction T H) : DelayedProgram T H E :=
  { program with
    dispatcher := dispatcher
    registered := PendingAction.performLive program.registered action }

/-- The transition relation of programs whose handlers do not dispatch events themselves. -/
def step : Step (DelayedProgram T H E) (DelayedAction T H E)
  | program, .addHandler type priority handler =>
      if program.running then
        some (program.call (program.dispatcher.addHandler type priority handler)
          (.add type priority program.dispatcher.nextId handler))
      else none
  | program, .removeHandler type id =>
      if program.running then
        some (program.call (program.dispatcher.removeHandler type id) (.erase type id))
      else none
  | program, .addEvent type event =>
      if program.running then
        some { program with dispatcher := program.dispatcher.addEvent type event }
      else none
  | program, .dispatchEvents =>
      match program.phase with
      | .idle => some { program with phase := .choosing }
      | _ => none
  | program, .chooseType type =>
      match program.phase with
      | .choosing =>
          if type ∈ program.dispatcher.handlersWithEvents then
            some
              { program with
                dispatcher := program.dispatcher.beginType type
                phase := .invoking type 0 }
          else none
      | _ => none
  | program, .nextEvent =>
      match program.phase with
      | .invoking type index =>
          match (program.dispatcher.events type)[index]? with
          | some event =>
              some
                { program with
                  phase := .delivering type index event
                    ((program.registered type).map Prod.snd) [] }
          | none =>
              some
                { program with
                  dispatcher := program.dispatcher.endType type
                  phase := .choosing }
      | _ => none
  | program, .handlerReturns =>
      match program.phase with
      | .delivering type index event live returned =>
          (program.dispatcher.handlers type).entries[returned.length]?.map fun entry =>
            { program with phase := .delivering type index event live (returned ++ [entry]) }
      | _ => none
  | program, .eventDone =>
      match program.phase with
      | .delivering type index event live returned =>
          if program.running then none
          else
            some
              { program with
                dispatcher := program.dispatcher.endEvent
                phase := .invoking type (index + 1)
                deliveries := program.deliveries ++ [⟨type, event, live, returned⟩] }
      | _ => none
  | program, .dispatchReturns =>
      match program.phase with
      | .choosing =>
          if program.dispatcher.handlersWithEvents = [] then
            some
              { program with
                dispatcher := { program.dispatcher with hasEvents := false }
                phase := .idle }
          else none
      | _ => none

/-- The events of a type that some deliveries are about. -/
def eventsOf (type : T) (deliveries : List (Delivery T H E)) : List E :=
  (deliveries.filter fun delivery => delivery.type = type).map Delivery.event

/-- The events of a type that some actions add. -/
def addedBy (type : T) (actions : List (DelayedAction T H E)) : List E :=
  actions.filterMap fun action =>
    match action with
    | .addEvent other event => if other = type then some event else none
    | _ => none

/-- How many of the collected events of a type have been delivered. -/
def progress (program : DelayedProgram T H E) (type : T) : Nat :=
  match program.phase with
  | .invoking other index => if other = type then index else 0
  | .delivering other index _ _ _ => if other = type then index else 0
  | _ => 0

/-- The events of a type in the order in which they were added: those that have been
delivered and those that have not. -/
def allEvents (program : DelayedProgram T H E) (type : T) : List E :=
  eventsOf type program.deliveries ++
    (program.dispatcher.events type).drop (program.progress type)

omit [DecidableEq T] in
/-- What is known in each phase.  While an event is delivered the handlers of its type stay
as they were, and only actions about this type are put off. -/
def PhaseInv (dispatcher : DelayedDispatcher T H E) : DispatchPhase T H E → Prop
  | .idle => dispatcher.currentlyDispatched = none ∧ dispatcher.pendingActions = []
  | .choosing => dispatcher.currentlyDispatched = none ∧ dispatcher.pendingActions = []
  | .invoking type _ =>
      dispatcher.currentlyDispatched = some type ∧ dispatcher.pendingActions = []
  | .delivering type index event live returned =>
      dispatcher.currentlyDispatched = some type ∧
        (dispatcher.events type)[index]? = some event ∧
        live = (dispatcher.handlers type).entries ∧ returned <+: live ∧
        ∀ action ∈ dispatcher.pendingActions, action.type = type

/-- The invariant of programs. -/
structure Inv (program : DelayedProgram T H E) : Prop where
  planned : HandlerTable.live ∘ program.dispatcher.pendingActions.foldl PendingAction.perform
    program.dispatcher.handlers = program.registered
  phase : PhaseInv program.dispatcher program.phase
  bounded : ∀ type, program.progress type ≤ (program.dispatcher.events type).length
  waiting : ∀ type, program.dispatcher.events type ≠ [] →
    type ∈ program.dispatcher.handlersWithEvents ∨
      program.dispatcher.currentlyDispatched = some type
  delivered : ∀ delivery ∈ program.deliveries, delivery.invoked = delivery.live

variable {program next : DelayedProgram T H E}

theorem inv_start : (start : DelayedProgram T H E).Inv :=
  ⟨rfl, ⟨rfl, rfl⟩, fun _ => Nat.le_refl 0, fun _ some => absurd rfl some, nofun⟩

omit [DecidableEq T] in
/-- Only actions about the type that is being dispatched are put off. -/
theorem PhaseInv.current_of_mem {dispatcher : DelayedDispatcher T H E}
    {phase : DispatchPhase T H E} (inv : PhaseInv dispatcher phase)
    {action : PendingAction T H} (mem : action ∈ dispatcher.pendingActions) :
    dispatcher.currentlyDispatched = some action.type := by
  cases phase with
  | idle =>
      rw [inv.2] at mem
      cases mem
  | choosing =>
      rw [inv.2] at mem
      cases mem
  | invoking type index =>
      rw [inv.2] at mem
      cases mem
  | delivering type index event live returned =>
      rcases inv with ⟨current, _, _, _, same⟩
      rw [current, same action mem]

omit [DecidableEq T] in
/-- A call about the type that is being dispatched is put off. -/
theorem PhaseInv.defer {dispatcher : DelayedDispatcher T H E} {phase : DispatchPhase T H E}
    (inv : PhaseInv dispatcher phase) {action : PendingAction T H}
    (current : dispatcher.currentlyDispatched = some action.type)
    (handling : ∀ type index, phase ≠ .invoking type index) :
    PhaseInv { dispatcher with pendingActions := dispatcher.pendingActions ++ [action] } phase := by
  cases phase with
  | idle => exact absurd (inv.1.symm.trans current) (by simp)
  | choosing => exact absurd (inv.1.symm.trans current) (by simp)
  | invoking type index => exact absurd rfl (handling type index)
  | delivering type index event live returned =>
      rcases inv with ⟨currentEq, found, liveEq, isPrefix, same⟩
      refine ⟨currentEq, found, liveEq, isPrefix, ?_⟩
      intro other mem
      rcases List.mem_append.mp mem with before | last
      · exact same other before
      · rw [List.mem_singleton.mp last]
        exact Option.some.inj (current.symm.trans currentEq)

/-- A call about another type does not touch the handlers of the type that is being
dispatched. -/
theorem PhaseInv.perform {dispatcher : DelayedDispatcher T H E} {phase : DispatchPhase T H E}
    (inv : PhaseInv dispatcher phase) {action : PendingAction T H}
    (different : dispatcher.currentlyDispatched ≠ some action.type) :
    PhaseInv { dispatcher with handlers := PendingAction.perform dispatcher.handlers action }
      phase := by
  cases phase with
  | idle => exact inv
  | choosing => exact inv
  | invoking type index => exact inv
  | delivering type index event live returned =>
      rcases inv with ⟨current, found, liveEq, isPrefix, same⟩
      have type_ne : type ≠ action.type := by
        rintro rfl
        exact different current
      refine ⟨current, found, ?_, isPrefix, same⟩
      simp only [PendingAction.perform_eq_update, Function.update_of_ne type_ne]
      exact liveEq

/-- A call that changes handlers. -/
theorem Inv.call (inv : program.Inv) (action : PendingAction T H)
    (running : program.running = true) :
    Inv (program.call (program.dispatcher.performOrDefer action.type action) action) := by
  rcases inv with ⟨planned, phase, bounded, waiting, delivered⟩
  have handling : ∀ type index, program.phase ≠ .invoking type index := by
    intro type index phaseEq
    simp [DelayedProgram.running, phaseEq] at running
  unfold DelayedDispatcher.performOrDefer DelayedProgram.call
  split
  · rename_i current
    refine ⟨?_, phase.defer current handling, bounded, waiting, delivered⟩
    simp only [List.foldl_append, List.foldl_cons, List.foldl_nil, PendingAction.live_perform,
      planned]
  · rename_i different
    refine ⟨?_, phase.perform different, bounded, waiting, delivered⟩
    rw [← planned, ← PendingAction.live_perform]
    apply congrArg (HandlerTable.live ∘ ·)
    apply PendingAction.foldl_perform_comm
    intro other mem same
    apply different
    rw [← same]
    exact phase.current_of_mem mem

omit [DecidableEq T] in
/-- Identifiers do not matter. -/
theorem PhaseInv.setNextId {dispatcher : DelayedDispatcher T H E} {phase : DispatchPhase T H E}
    (inv : PhaseInv dispatcher phase) (nextId : RawHandler) :
    PhaseInv { dispatcher with nextId := nextId } phase := by
  cases phase <;> exact inv

theorem Inv.setNextId (inv : program.Inv) (nextId : RawHandler) :
    Inv { program with dispatcher := { program.dispatcher with nextId := nextId } } :=
  ⟨inv.planned, inv.phase.setNextId nextId, inv.bounded, inv.waiting, inv.delivered⟩

/-- An event that is added comes after all others of its type. -/
theorem Inv.addEvent (inv : program.Inv) (type : T) (event : E) :
    Inv { program with dispatcher := program.dispatcher.addEvent type event } := by
  rcases inv with ⟨planned, phase, bounded, waiting, delivered⟩
  have longer : ∀ other, (program.dispatcher.events other).length ≤
      ((program.dispatcher.addEvent type event).events other).length := by
    intro other
    by_cases other_eq : other = type
    · simp [DelayedDispatcher.addEvent, other_eq]
    · simp [DelayedDispatcher.addEvent, other_eq]
  refine ⟨planned, ?_, fun other => Nat.le_trans (bounded other) (longer other), ?_, delivered⟩
  · cases phaseEq : program.phase with
    | idle =>
        rw [phaseEq] at phase
        exact phase
    | choosing =>
        rw [phaseEq] at phase
        exact phase
    | invoking dispatched index =>
        rw [phaseEq] at phase
        exact phase
    | delivering dispatched index current live returned =>
        rw [phaseEq] at phase
        rcases phase with ⟨currentEq, found, rest⟩
        refine ⟨currentEq, ?_, rest⟩
        by_cases dispatched_eq : dispatched = type
        · subst dispatched_eq
          simp only [DelayedDispatcher.addEvent, Function.update_self]
          rw [List.getElem?_append_left (List.getElem?_eq_some_iff.mp found).1]
          exact found
        · simp only [DelayedDispatcher.addEvent, Function.update_of_ne dispatched_eq]
          exact found
  · intro other
    by_cases other_eq : other = type
    · intro _
      left
      simp [DelayedDispatcher.addEvent, other_eq]
    · intro nonempty
      simp only [DelayedDispatcher.addEvent, Function.update_of_ne other_eq] at nonempty
      rcases waiting other nonempty with mem | current
      · exact Or.inl (List.mem_insert_of_mem mem)
      · exact Or.inr current

/-- A type is chosen. -/
theorem Inv.chooseType (inv : program.Inv) (phaseEq : program.phase = .choosing) (type : T) :
    Inv { program with
      dispatcher := program.dispatcher.beginType type
      phase := .invoking type 0 } := by
  rcases inv with ⟨planned, phase, bounded, waiting, delivered⟩
  rw [phaseEq] at phase
  refine ⟨planned, ⟨rfl, phase.2⟩, ?_, ?_, delivered⟩
  · intro other
    simp only [progress]
    split <;> exact Nat.zero_le _
  · intro other nonempty
    by_cases other_eq : other = type
    · right
      rw [other_eq]
      rfl
    · left
      rcases waiting other nonempty with mem | current
      · exact (List.mem_erase_of_ne other_eq).mpr mem
      · exact absurd (phase.1.symm.trans current) (by simp)

/-- The delivery of an event starts. -/
theorem Inv.beginEvent (inv : program.Inv) {type : T} {index : Nat} {event : E}
    (phaseEq : program.phase = .invoking type index)
    (found : (program.dispatcher.events type)[index]? = some event) :
    Inv { program with
      phase := .delivering type index event ((program.registered type).map Prod.snd) [] } := by
  rcases inv with ⟨planned, phase, bounded, waiting, delivered⟩
  rw [phaseEq] at phase
  have handlersEq : (program.registered type).map Prod.snd =
      (program.dispatcher.handlers type).entries := by
    rw [← planned, phase.2, HandlerTable.entries_eq_map_live]
    rfl
  refine ⟨planned, ⟨phase.1, found, handlersEq, List.nil_prefix, ?_⟩, ?_, waiting, delivered⟩
  · intro action mem
    rw [phase.2] at mem
    cases mem
  · intro other
    have before := bounded other
    simp only [progress, phaseEq] at before
    exact before

/-- All events of a type have been delivered. -/
theorem Inv.endType (inv : program.Inv) {type : T} {index : Nat}
    (phaseEq : program.phase = .invoking type index) :
    Inv { program with
      dispatcher := program.dispatcher.endType type
      phase := .choosing } := by
  rcases inv with ⟨planned, phase, bounded, waiting, delivered⟩
  rw [phaseEq] at phase
  refine ⟨planned, ⟨rfl, phase.2⟩, fun _ => Nat.zero_le _, ?_, delivered⟩
  intro other nonempty
  by_cases other_eq : other = type
  · simp [DelayedDispatcher.endType, other_eq] at nonempty
  · simp only [DelayedDispatcher.endType, Function.update_of_ne other_eq] at nonempty
    rcases waiting other nonempty with mem | current
    · exact Or.inl mem
    · rw [phase.1, Option.some.injEq] at current
      exact absurd current.symm other_eq

/-- A handler returns. -/
theorem Inv.handlerReturns (inv : program.Inv) {type : T} {index : Nat} {event : E}
    {live returned : List (HandlerEntry H)} {entry : HandlerEntry H}
    (phaseEq : program.phase = .delivering type index event live returned)
    (invoked : (program.dispatcher.handlers type).entries[returned.length]? = some entry) :
    Inv { program with phase := .delivering type index event live (returned ++ [entry]) } := by
  rcases inv with ⟨planned, phase, bounded, waiting, delivered⟩
  rw [phaseEq] at phase
  rcases phase with ⟨current, found, liveEq, ⟨rest, restEq⟩, same⟩
  refine ⟨planned, ⟨current, found, liveEq, ?_, same⟩, ?_, waiting, delivered⟩
  · rw [← liveEq, ← restEq, List.getElem?_append_right (Nat.le_refl _), Nat.sub_self] at invoked
    cases rest with
    | nil => cases invoked
    | cons first others =>
        rw [← Option.some.inj invoked, ← restEq]
        exact ⟨others, by simp⟩
  · intro other
    have before := bounded other
    simp only [progress, phaseEq] at before
    exact before

/-- All handlers have returned: what was put off is performed. -/
theorem Inv.endEvent (inv : program.Inv) {type : T} {index : Nat} {event : E}
    {live returned : List (HandlerEntry H)}
    (phaseEq : program.phase = .delivering type index event live returned)
    (finished : program.running = false) :
    Inv { program with
      dispatcher := program.dispatcher.endEvent
      phase := .invoking type (index + 1)
      deliveries := program.deliveries ++ [⟨type, event, live, returned⟩] } := by
  rcases inv with ⟨planned, phase, bounded, waiting, delivered⟩
  rw [phaseEq] at phase
  rcases phase with ⟨current, found, liveEq, isPrefix, same⟩
  have all : returned = live := by
    apply isPrefix.eq_of_length_le
    rw [liveEq]
    simpa [DelayedProgram.running, phaseEq] using finished
  refine ⟨planned, ⟨current, rfl⟩, ?_, waiting, ?_⟩
  · intro other
    simp only [progress]
    split
    · rename_i same_type
      rw [← same_type]
      exact (List.getElem?_eq_some_iff.mp found).1
    · exact Nat.zero_le _
  · intro delivery mem
    rcases List.mem_append.mp mem with before | last
    · exact delivered delivery before
    · rw [List.mem_singleton.mp last]
      exact all

/-- What the steps do, and where they are possible. -/
inductive Takes (program : DelayedProgram T H E) :
    DelayedAction T H E → DelayedProgram T H E → Prop where
  | addHandler (type : T) (priority : Priority) (handler : H) (running : program.running = true) :
      Takes program (.addHandler type priority handler)
        (program.call (program.dispatcher.addHandler type priority handler)
          (.add type priority program.dispatcher.nextId handler))
  | removeHandler (type : T) (id : RawHandler) (running : program.running = true) :
      Takes program (.removeHandler type id)
        (program.call (program.dispatcher.removeHandler type id) (.erase type id))
  | addEvent (type : T) (event : E) :
      Takes program (.addEvent type event)
        { program with dispatcher := program.dispatcher.addEvent type event }
  | dispatchEvents (phaseEq : program.phase = .idle) :
      Takes program .dispatchEvents { program with phase := .choosing }
  | chooseType (type : T) (phaseEq : program.phase = .choosing) :
      Takes program (.chooseType type)
        { program with
          dispatcher := program.dispatcher.beginType type
          phase := .invoking type 0 }
  | beginEvent {type : T} {index : Nat} {event : E} (phaseEq : program.phase = .invoking type index)
      (found : (program.dispatcher.events type)[index]? = some event) :
      Takes program .nextEvent
        { program with
          phase := .delivering type index event ((program.registered type).map Prod.snd) [] }
  | endType {type : T} {index : Nat} (phaseEq : program.phase = .invoking type index)
      (finished : (program.dispatcher.events type)[index]? = none) :
      Takes program .nextEvent
        { program with
          dispatcher := program.dispatcher.endType type
          phase := .choosing }
  | handlerReturns {type : T} {index : Nat} {event : E} {live returned : List (HandlerEntry H)}
      {entry : HandlerEntry H} (phaseEq : program.phase = .delivering type index event live returned)
      (invoked : (program.dispatcher.handlers type).entries[returned.length]? = some entry) :
      Takes program .handlerReturns
        { program with phase := .delivering type index event live (returned ++ [entry]) }
  | eventDone {type : T} {index : Nat} {event : E} {live returned : List (HandlerEntry H)}
      (phaseEq : program.phase = .delivering type index event live returned)
      (finished : program.running = false) :
      Takes program .eventDone
        { program with
          dispatcher := program.dispatcher.endEvent
          phase := .invoking type (index + 1)
          deliveries := program.deliveries ++ [⟨type, event, live, returned⟩] }
  | dispatchReturns (phaseEq : program.phase = .choosing)
      (noTypes : program.dispatcher.handlersWithEvents = []) :
      Takes program .dispatchReturns
        { program with
          dispatcher := { program.dispatcher with hasEvents := false }
          phase := .idle }

theorem takes_of_step {action : DelayedAction T H E}
    (stepEq : DelayedProgram.step program action = some next) : Takes program action next := by
  cases action with
  | addHandler type priority handler =>
      rcases Option.ite_none_right_eq_some.mp stepEq with ⟨running, ⟨⟩⟩
      exact .addHandler type priority handler running
  | removeHandler type id =>
      rcases Option.ite_none_right_eq_some.mp stepEq with ⟨running, ⟨⟩⟩
      exact .removeHandler type id running
  | addEvent type event =>
      rcases Option.ite_none_right_eq_some.mp stepEq with ⟨_, ⟨⟩⟩
      exact .addEvent type event
  | dispatchEvents =>
      simp only [DelayedProgram.step] at stepEq
      split at stepEq
      · rename_i phaseEq
        cases stepEq
        exact .dispatchEvents phaseEq
      · cases stepEq
  | chooseType type =>
      simp only [DelayedProgram.step] at stepEq
      split at stepEq
      · rename_i phaseEq
        rcases Option.ite_none_right_eq_some.mp stepEq with ⟨_, ⟨⟩⟩
        exact .chooseType type phaseEq
      · cases stepEq
  | nextEvent =>
      simp only [DelayedProgram.step] at stepEq
      split at stepEq
      · rename_i phaseEq
        split at stepEq
        · rename_i found
          cases stepEq
          exact .beginEvent phaseEq found
        · rename_i finished
          cases stepEq
          exact .endType phaseEq finished
      · cases stepEq
  | handlerReturns =>
      simp only [DelayedProgram.step] at stepEq
      split at stepEq
      · rename_i phaseEq
        rcases Option.map_eq_some_iff.mp stepEq with ⟨entry, invoked, ⟨⟩⟩
        exact .handlerReturns phaseEq invoked
      · cases stepEq
  | eventDone =>
      simp only [DelayedProgram.step] at stepEq
      split at stepEq
      · rename_i phaseEq
        rcases Option.ite_none_left_eq_some.mp stepEq with ⟨finished, ⟨⟩⟩
        exact .eventDone phaseEq (eq_false_of_ne_true finished)
      · cases stepEq
  | dispatchReturns =>
      simp only [DelayedProgram.step] at stepEq
      split at stepEq
      · rename_i phaseEq
        rcases Option.ite_none_right_eq_some.mp stepEq with ⟨noTypes, ⟨⟩⟩
        exact .dispatchReturns phaseEq noTypes
      · cases stepEq

theorem Inv.step {action : DelayedAction T H E} (inv : program.Inv)
    (stepEq : DelayedProgram.step program action = some next) : next.Inv := by
  cases takes_of_step stepEq with
  | addHandler type priority handler running =>
      exact (inv.call (.add type priority program.dispatcher.nextId handler) running).setNextId _
  | removeHandler type id running => exact inv.call (.erase type id) running
  | addEvent type event => exact inv.addEvent type event
  | dispatchEvents phaseEq =>
      have phase := inv.phase
      rw [phaseEq] at phase
      exact ⟨inv.planned, phase, fun _ => Nat.zero_le _, inv.waiting, inv.delivered⟩
  | chooseType type phaseEq => exact inv.chooseType phaseEq type
  | beginEvent phaseEq found => exact inv.beginEvent phaseEq found
  | endType phaseEq finished => exact inv.endType phaseEq
  | handlerReturns phaseEq invoked => exact inv.handlerReturns phaseEq invoked
  | eventDone phaseEq finished => exact inv.endEvent phaseEq finished
  | dispatchReturns phaseEq noTypes =>
      have phase := inv.phase
      rw [phaseEq] at phase
      exact ⟨inv.planned, phase, fun _ => Nat.zero_le _, inv.waiting, inv.delivered⟩

@[simp]
theorem performOrDefer_events (dispatcher : DelayedDispatcher T H E) (type : T)
    (action : PendingAction T H) :
    (dispatcher.performOrDefer type action).events = dispatcher.events := by
  unfold DelayedDispatcher.performOrDefer
  split <;> rfl

@[simp]
theorem eventsOf_append (type : T) (first second : List (Delivery T H E)) :
    eventsOf type (first ++ second) = eventsOf type first ++ eventsOf type second := by
  rw [eventsOf, List.filter_append, List.map_append]
  rfl

/-- Every step leaves the events of a type as they are, apart from adding new ones. -/
theorem Inv.allEvents_step {action : DelayedAction T H E} (inv : program.Inv)
    (stepEq : DelayedProgram.step program action = some next) (type : T) :
    next.allEvents type = program.allEvents type ++ addedBy type [action] := by
  have unchanged : program.allEvents type = program.allEvents type ++ [] :=
    (List.append_nil _).symm
  cases takes_of_step stepEq with
  | addHandler other priority handler running =>
      refine Eq.trans ?_ unchanged
      simp only [allEvents, DelayedProgram.call, DelayedDispatcher.addHandler,
        performOrDefer_events]
      rfl
  | removeHandler other id running =>
      refine Eq.trans ?_ unchanged
      simp only [allEvents, DelayedProgram.call, DelayedDispatcher.removeHandler,
        performOrDefer_events]
      rfl
  | addEvent other event =>
      simp only [allEvents, DelayedDispatcher.addEvent, List.append_assoc]
      congr 1
      change ((Function.update program.dispatcher.events other _) type).drop
        (program.progress type) = _
      by_cases other_eq : other = type
      · subst other_eq
        rw [Function.update_self, List.drop_append_of_le_length (inv.bounded other)]
        simp [addedBy]
      · rw [Function.update_of_ne (Ne.symm other_eq)]
        simp [addedBy, other_eq]
  | dispatchEvents phaseEq =>
      refine Eq.trans ?_ unchanged
      simp only [allEvents, progress, phaseEq]
  | chooseType other phaseEq =>
      refine Eq.trans ?_ unchanged
      simp only [allEvents, progress, phaseEq, ite_self]
      rfl
  | beginEvent phaseEq found =>
      refine Eq.trans ?_ unchanged
      simp only [allEvents, progress, phaseEq]
  | @endType other index phaseEq finished =>
      refine Eq.trans ?_ unchanged
      simp only [allEvents, progress, phaseEq, DelayedDispatcher.endType]
      by_cases other_eq : other = type
      · subst other_eq
        rw [if_pos rfl, Function.update_self,
          List.drop_eq_nil_of_le (List.getElem?_eq_none_iff.mp finished)]
        rfl
      · rw [if_neg other_eq, Function.update_of_ne (Ne.symm other_eq)]
  | handlerReturns phaseEq invoked =>
      refine Eq.trans ?_ unchanged
      simp only [allEvents, progress, phaseEq]
  | @eventDone other index event live returned phaseEq finished =>
      refine Eq.trans ?_ unchanged
      have phase := inv.phase
      rw [phaseEq] at phase
      simp only [allEvents, progress, phaseEq, DelayedDispatcher.endEvent, eventsOf_append,
        List.append_assoc]
      congr 1
      by_cases other_eq : other = type
      · subst other_eq
        rcases List.getElem?_eq_some_iff.mp phase.2.1 with ⟨inside, eventEq⟩
        rw [if_pos rfl, if_pos rfl, List.drop_eq_getElem_cons inside, eventEq]
        simp [eventsOf]
      · simp [eventsOf, other_eq]
  | dispatchReturns phaseEq noTypes =>
      refine Eq.trans ?_ unchanged
      simp only [allEvents, progress, phaseEq]

/-- Along a run the events of a type grow by those that are added. -/
theorem Inv.allEvents_run {actions : List (DelayedAction T H E)} {final : DelayedProgram T H E}
    (inv : program.Inv) (runEq : run DelayedProgram.step program actions = some final) (type : T) :
    final.allEvents type = program.allEvents type ++ addedBy type actions := by
  induction actions generalizing program with
  | nil =>
      rw [← Option.some.inj runEq]
      exact (List.append_nil _).symm
  | cons action rest ih =>
      rcases (run_cons_eq_some_iff _ _ _ _ _).mp runEq with ⟨next, stepEq, restRun⟩
      rw [ih (inv.step stepEq) restRun, inv.allEvents_step stepEq type, List.append_assoc]
      congr 1
      rw [addedBy, addedBy, ← List.filterMap_append]
      rfl

/-- When `dispatch_events` returns, the events of each type that were pending or were added
meanwhile have been delivered in this order, each of them once to each of the handlers that
were registered when its delivery started, and no event is pending. -/
theorem dispatchEvents_delivers (before during : List (DelayedAction T H E))
    (pending final : DelayedProgram T H E)
    (beforeRun : run DelayedProgram.step start before = some pending)
    (duringRun : run DelayedProgram.step pending
      (.dispatchEvents :: during ++ [.dispatchReturns]) = some final) :
    (∀ type, eventsOf type final.deliveries =
      eventsOf type pending.deliveries ++
        (pending.dispatcher.events type ++ addedBy type during)) ∧
      (∀ delivery ∈ final.deliveries, delivery.invoked = delivery.live) ∧
      (∀ type, final.dispatcher.events type = []) ∧ final.dispatcher.hasEvents = false := by
  have preserved : ∀ (program : DelayedProgram T H E) action next, program.Inv → True →
      DelayedProgram.step program action = some next → next.Inv :=
    fun _ _ _ inv _ stepEq => inv.step stepEq
  have pendingInv : pending.Inv :=
    run_invariant preserved inv_start (guarded_true _ _ _) beforeRun
  have finalInv : final.Inv :=
    run_invariant preserved pendingInv (guarded_true _ _ _) duringRun
  have idle : pending.phase = .idle := by
    rcases (run_cons_eq_some_iff _ _ _ _ _).mp duringRun with ⟨next, stepEq, _⟩
    cases takes_of_step stepEq with
    | dispatchEvents phaseEq => exact phaseEq
  rcases (run_append_eq_some_iff _ _ _ _ _).mp duringRun with ⟨last, _, returnRun⟩
  rcases (run_cons_eq_some_iff _ _ _ _ _).mp returnRun with ⟨returned, stepEq, endRun⟩
  rw [run_nil, Option.some.injEq] at endRun
  rw [endRun] at stepEq
  have returnedEq : final.dispatcher.handlersWithEvents = [] ∧
      final.dispatcher.hasEvents = false ∧ final.phase = .idle := by
    cases takes_of_step stepEq with
    | dispatchReturns phaseEq noTypes => exact ⟨noTypes, rfl, rfl⟩
  rcases returnedEq with ⟨noTypes, noEvents, finalIdle⟩
  have nothing : ∀ type, final.dispatcher.events type = [] := by
    intro type
    by_contra nonempty
    have phase := finalInv.phase
    rw [finalIdle] at phase
    rcases finalInv.waiting type nonempty with mem | current
    · rw [noTypes] at mem
      cases mem
    · exact absurd (phase.1.symm.trans current) (by simp)
  refine ⟨?_, finalInv.delivered, nothing, noEvents⟩
  intro type
  have all := pendingInv.allEvents_run duringRun type
  have added : addedBy type (DelayedAction.dispatchEvents :: during ++
      [DelayedAction.dispatchReturns] : List (DelayedAction T H E)) = addedBy type during := by
    simp [addedBy]
  rw [added, allEvents, allEvents, nothing type, List.drop_nil, List.append_nil, progress, idle,
    List.drop_zero, List.append_assoc] at all
  exact all

/-- A handler adds an event of its own type and another handler of it. -/
def growing : List (DelayedAction Nat Nat Nat) :=
  [.chooseType 0, .nextEvent, .addEvent 0 8, .addHandler 0 5 1, .handlerReturns, .eventDone,
    .nextEvent, .handlerReturns, .handlerReturns, .eventDone, .nextEvent, .chooseType 0, .nextEvent]

/-- Both events are delivered, the second one to both handlers. -/
theorem dispatchEvents_growing :
    ∃ pending final, run DelayedProgram.step start
        ([.addHandler 0 0 0, .addEvent 0 7] : List (DelayedAction Nat Nat Nat)) = some pending ∧
      run DelayedProgram.step pending (.dispatchEvents :: growing ++ [.dispatchReturns]) =
        some final ∧
      final.deliveries.map Delivery.invoked = [[(0, 0)], [(1, 1), (0, 0)]] ∧
      (∀ type, eventsOf type final.deliveries =
        eventsOf type pending.deliveries ++
          (pending.dispatcher.events type ++ addedBy type growing)) ∧
      (∀ delivery ∈ final.deliveries, delivery.invoked = delivery.live) ∧
      (∀ type, final.dispatcher.events type = []) ∧ final.dispatcher.hasEvents = false := by
  have reached : ((run DelayedProgram.step start
      ([.addHandler 0 0 0, .addEvent 0 7] : List (DelayedAction Nat Nat Nat))).bind
        fun pending => (run DelayedProgram.step pending
          (.dispatchEvents :: growing ++ [.dispatchReturns])).map fun final =>
            final.deliveries.map Delivery.invoked) = some [[(0, 0)], [(1, 1), (0, 0)]] := by
    decide +kernel
  rcases Option.bind_eq_some_iff.mp reached with ⟨pending, beforeRun, rest⟩
  rcases Option.map_eq_some_iff.mp rest with ⟨final, duringRun, invoked⟩
  exact ⟨pending, final, beforeRun, duringRun, invoked,
    dispatchEvents_delivers _ growing pending final beforeRun duringRun⟩

end DelayedProgram

end VoxelEngine.Event
