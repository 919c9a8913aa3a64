import VoxelEngine.ClientServer.CheckedOperations

/-!
# Writes that a remote asks for

A message from a remote is handled together with everything nested inside it; handling
stops where a handler does not return.  The handlers of set, undo and delete messages ask
the validator before they change a component, the handler of partial synchronization
messages does not.  Where the messages of the latter kind only address components that
the remote may change, nothing else changes either, and nothing is sent back from which
an unobservable component could be learned.
-/

namespace VoxelEngine.ClientServer

open VoxelEngine.Ecs

variable {V : Type}

/-- How far the handling of a message got. -/
structure Handling (V : Type) where
  registry : Registry V
  replies : List CoreMessage
  fault : Option Fault

namespace Handling

/-- Nothing was handled yet. -/
def start (registry : Registry V) : Handling V :=
  ⟨registry, [], none⟩

/-- Continue with the registry that was left, unless a handler did not return. -/
def andThen (handling : Handling V) (next : Registry V → Handling V) : Handling V :=
  match handling.fault with
  | some _ => handling
  | none =>
      { next handling.registry with
        replies := handling.replies ++ (next handling.registry).replies }

/-- What one handler did; one that does not return left the registry alone. -/
def ofResult (registry : Registry V) :
    Except Fault (Registry V × List CoreMessage) → Handling V
  | Except.error fault => ⟨registry, [], some fault⟩
  | Except.ok (next, replies) => ⟨next, replies, none⟩

@[simp]
theorem start_andThen (registry : Registry V) (next : Registry V → Handling V) :
    (start registry).andThen next = next registry := by
  simp [start, andThen]

@[simp]
theorem andThen_start (handling : Handling V) : handling.andThen start = handling := by
  rcases handling with ⟨registry, replies, _ | fault⟩ <;> simp [andThen, start]

@[simp]
theorem andThen_assoc (handling : Handling V) (second third : Registry V → Handling V) :
    (handling.andThen second).andThen third =
      handling.andThen fun registry => (second registry).andThen third := by
  rcases handling with ⟨registry, replies, _ | fault⟩
  · rcases result : second registry with ⟨next, more, _ | fault⟩ <;> simp [andThen, result]
  · simp [andThen]

end Handling

namespace Receiver

variable (receiver : Receiver V)

mutual

/-- `message_handler::on_message_received` on a server, for core messages. -/
def receive : CoreMessage → Registry V → Handling V
  | CoreMessage.compound messages, registry => receiveReversed messages registry
  | message, registry => Handling.ofResult registry (receiver.handle registry message)

/-- `on_msg_compound_received`: the messages are taken from the back. -/
def receiveReversed : List CoreMessage → Registry V → Handling V
  | [], registry => Handling.start registry
  | message :: rest, registry =>
      (receiveReversed rest registry).andThen fun next => receive message next

end

/-- Messages that are not compound, one after the other. -/
def handleLeaves : List CoreMessage → Registry V → Handling V
  | [], registry => Handling.start registry
  | leaf :: rest, registry =>
      (Handling.ofResult registry (receiver.handle registry leaf)).andThen fun next =>
        handleLeaves rest next

/-- A sequence of messages from a remote: the registry that is left and what was sent
back.  A message whose handling stops does not keep later ones from being handled. -/
def receiveAll : List CoreMessage → Registry V → Registry V × List CoreMessage
  | [], registry => (registry, [])
  | message :: rest, registry =>
      let handling := receiver.receive message registry
      let later := receiveAll rest handling.registry
      (later.1, handling.replies ++ later.2)

@[simp]
theorem handleLeaves_append (first second : List CoreMessage) (registry : Registry V) :
    receiver.handleLeaves (first ++ second) registry =
      (receiver.handleLeaves first registry).andThen (receiver.handleLeaves second) := by
  induction first generalizing registry with
  | nil => simp [handleLeaves]
  | cons leaf rest ih =>
      simp only [List.cons_append, handleLeaves, Handling.andThen_assoc, ih]

theorem receive_of_not_compound {message : CoreMessage}
    (simple : message.isCompound = false) (registry : Registry V) :
    receiver.receive message registry =
      Handling.ofResult registry (receiver.handle registry message) := by
  cases message with
  | compound messages => cases simple
  | _ => rw [receive]; simp

theorem receive_eq_of_not_compound {message : CoreMessage}
    (simple : message.isCompound = false) (registry : Registry V) :
    receiver.receive message registry = receiver.handleLeaves message.leaves registry := by
  rw [receive_of_not_compound receiver simple, CoreMessage.leaves_of_not_compound simple]
  simp only [handleLeaves]
  exact (Handling.andThen_start _).symm

mutual

/-- A message is handled as its leaves are. -/
theorem receive_eq : (message : CoreMessage) → (registry : Registry V) →
    receiver.receive message registry = receiver.handleLeaves message.leaves registry
  | CoreMessage.compound messages, registry => by
      rw [receive, CoreMessage.leaves_compound]
      exact receiveReversed_eq messages registry
  | CoreMessage.addEntity _, registry => receive_eq_of_not_compound receiver rfl registry
  | CoreMessage.delEntity _, registry => receive_eq_of_not_compound receiver rfl registry
  | CoreMessage.setComponent _ _ _, registry => receive_eq_of_not_compound receiver rfl registry
  | CoreMessage.undoComponent _ _ _, registry => receive_eq_of_not_compound receiver rfl registry
  | CoreMessage.delComponent _ _, registry => receive_eq_of_not_compound receiver rfl registry
  | CoreMessage.partialSync _ _ _, registry => receive_eq_of_not_compound receiver rfl registry

theorem receiveReversed_eq : (messages : List CoreMessage) → (registry : Registry V) →
    receiver.receiveReversed messages registry =
      receiver.handleLeaves (CoreMessage.leavesReversed messages) registry
  | [], registry => by
      rw [receiveReversed, CoreMessage.leavesReversed, handleLeaves]
  | message :: rest, registry => by
      rw [receiveReversed, CoreMessage.leavesReversed, handleLeaves_append,
        receiveReversed_eq rest registry]
      congr
      funext next
      exact receive_eq message next

end

/-! ## Requested changes -/

end Receiver

/-- A change to a component that a message asks for. -/
structure ChangeRequest (V : Type) where
  type : TypeHash
  entity : Entity
  newValue : Option V

namespace Receiver

section Requests

variable (receiver : Receiver V)

/-- The change a message asks for in a registry, if it addresses a component at all. -/
def request (registry : Registry V) : CoreMessage → Option (ChangeRequest V)
  | CoreMessage.setComponent data type entity
  | CoreMessage.undoComponent data type entity =>
      (receiver.componentRegistry type).map fun component =>
        ⟨type, entity, some (component.fromBytes data)⟩
  | CoreMessage.delComponent type entity =>
      (receiver.componentRegistry type).map fun _ => ⟨type, entity, none⟩
  | CoreMessage.partialSync data messageType entity =>
      (receiver.psMessageRegistry messageType).bind fun message =>
        (registry.component message.componentType entity).map fun component =>
          ⟨message.componentType, entity,
            some (message.onMessageReceived component data receiver.remoteId).1⟩
  | _ => none

/-- What the validator says about a change. -/
def resultOf (registry : Registry V) (change : ChangeRequest V) : ChangeResult :=
  receiver.validator.isAllowed receiver.remoteId registry change.type change.entity
    (registry.component change.type change.entity) change.newValue

/-- A partial synchronization message changes only what the remote may change. -/
def PartialSyncAllowed (registry : Registry V) (message : CoreMessage) : Prop :=
  match message with
  | CoreMessage.partialSync _ _ _ =>
      ∀ change, receiver.request registry message = some change →
        receiver.resultOf registry change = ChangeResult.allowed
  | _ => True

/-- The messages that are handled, each with the registry it finds. -/
def steps : List CoreMessage → Registry V → List (Registry V × CoreMessage)
  | [], _ => []
  | leaf :: rest, registry =>
      (registry, leaf) ::
        match receiver.handle registry leaf with
        | Except.ok (next, _) => steps rest next
        | Except.error _ => []

/-- The steps of handling a sequence of messages. -/
def stepsOfAll : List CoreMessage → Registry V → List (Registry V × CoreMessage)
  | [], _ => []
  | message :: rest, registry =>
      receiver.steps message.leaves registry ++
        stepsOfAll rest (receiver.receive message registry).registry

/-- Every partial synchronization message of the sequence changes only what it may. -/
def AllPartialSyncAllowed (messages : List CoreMessage) (registry : Registry V) : Prop :=
  ∀ step ∈ receiver.stepsOfAll messages registry, receiver.PartialSyncAllowed step.1 step.2

end Requests

section Step

variable {receiver : Receiver V} {registry next : Registry V} {message : CoreMessage}
variable {replies : List CoreMessage}

theorem refuse_eq_ok {data : ComponentData V} {type : TypeHash} {entity : Entity}
    (refused : refuse registry data type entity = Except.ok (next, replies)) :
    next = registry := by
  unfold refuse at refused
  split at refused
  · cases refused
    rfl
  · cases refused

theorem setComponent_eq_ok {type : TypeHash} {entity : Entity} {value : V}
    (stored : registry.setComponent type entity value = Except.ok next) :
    next = registry.place type entity (some value) := by
  unfold Registry.setComponent at stored
  split at stored
  · cases stored
    rfl
  · cases stored

theorem removeComponent_eq_ok {type : TypeHash} {entity : Entity}
    (removed : registry.removeComponent type entity = Except.ok next) :
    next = registry.place type entity none := by
  unfold Registry.removeComponent at removed
  split at removed
  · cases removed
    rfl
  · cases removed

theorem map_eq_ok {α β : Type} {result : Except Fault α} {function : α → β} {value : β}
    (mapped : result.map function = Except.ok value) :
    ∃ inner, result = Except.ok inner ∧ function inner = value := by
  cases result with
  | error fault => cases mapped
  | ok inner =>
      cases mapped
      exact ⟨inner, rfl, rfl⟩

theorem onMsgSetComponentReceived_cases {rebroadcast : Bool} {data : Bytes} {type : TypeHash}
    {entity : Entity}
    (handled : receiver.onMsgSetComponentReceived rebroadcast registry data type entity =
      Except.ok (next, replies)) :
    next = registry ∨
      ∃ component, receiver.componentRegistry type = some component ∧
        receiver.resultOf registry ⟨type, entity, some (component.fromBytes data)⟩ =
          ChangeResult.allowed ∧
        next = registry.place type entity (some (component.fromBytes data)) := by
  cases found : receiver.componentRegistry type with
  | none =>
      simp [onMsgSetComponentReceived, getComponentData, found, bind, Except.bind] at handled
  | some component =>
      rw [onMsgSetComponentReceived_eq found] at handled
      split at handled
      · rename_i allowed
        rcases map_eq_ok handled with ⟨stored, storedEq, pairEq⟩
        cases pairEq
        exact Or.inr ⟨component, rfl, allowed, setComponent_eq_ok storedEq⟩
      · rcases map_eq_ok handled with ⟨⟨kept, answers⟩, refused, pairEq⟩
        cases pairEq
        exact Or.inl (refuse_eq_ok refused)
      · cases handled
        exact Or.inl rfl

theorem onMsgDelComponentReceived_cases {type : TypeHash} {entity : Entity}
    (handled : receiver.onMsgDelComponentReceived registry type entity =
      Except.ok (next, replies)) :
    next = registry ∨
      ∃ component, receiver.componentRegistry type = some component ∧
        receiver.resultOf registry ⟨type, entity, none⟩ = ChangeResult.allowed ∧
        next = registry.place type entity none := by
  cases found : receiver.componentRegistry type with
  | none =>
      simp [onMsgDelComponentReceived, getComponentData, found, bind, Except.bind] at handled
  | some component =>
      rw [onMsgDelComponentReceived_eq found] at handled
      split at handled
      · rename_i allowed
        split at handled
        · rcases map_eq_ok handled with ⟨removed, removedEq, pairEq⟩
          cases pairEq
          exact Or.inr ⟨component, rfl, allowed, removeComponent_eq_ok removedEq⟩
        · exact Or.inl (refuse_eq_ok handled)
      · exact Or.inl (refuse_eq_ok handled)
      · cases handled
        exact Or.inl rfl

theorem onMsgPartialSyncReceived_cases {data : Bytes} {messageType : TypeHash} {entity : Entity}
    (handled : receiver.onMsgPartialSyncReceived registry data messageType entity =
      Except.ok (next, replies)) :
    ∃ change,
      receiver.request registry (CoreMessage.partialSync data messageType entity) = some change ∧
        next = registry.place change.type change.entity change.newValue := by
  unfold onMsgPartialSyncReceived at handled
  split at handled
  · cases handled
  · rename_i message known
    split at handled
    · cases handled
    · rename_i component present
      cases handled
      exact ⟨⟨message.componentType, entity,
        some (message.onMessageReceived component data receiver.remoteId).1⟩,
        by simp [request, known, present], rfl⟩

/-- Where partial synchronization messages are allowed, a handler changes nothing but the
component it was asked to change, and that only if the validator allows it. -/
theorem handle_cases (permitted : receiver.PartialSyncAllowed registry message)
    (handled : receiver.handle registry message = Except.ok (next, replies)) :
    next = registry ∨
      ∃ change, receiver.request registry message = some change ∧
        receiver.resultOf registry change = ChangeResult.allowed ∧
        next = registry.place change.type change.entity change.newValue := by
  cases message with
  | setComponent data type entity =>
      rcases onMsgSetComponentReceived_cases handled with same | ⟨component, found, allowed, eq⟩
      · exact Or.inl same
      · exact Or.inr ⟨_, by simp [request, found], allowed, eq⟩
  | undoComponent data type entity =>
      rcases onMsgSetComponentReceived_cases handled with same | ⟨component, found, allowed, eq⟩
      · exact Or.inl same
      · exact Or.inr ⟨_, by simp [request, found], allowed, eq⟩
  | delComponent type entity =>
      rcases onMsgDelComponentReceived_cases handled with same | ⟨component, found, allowed, eq⟩
      · exact Or.inl same
      · exact Or.inr ⟨_, by simp [request, found], allowed, eq⟩
  | partialSync data messageType entity =>
      rcases onMsgPartialSyncReceived_cases handled with ⟨change, asked, eq⟩
      exact Or.inr ⟨change, asked, permitted change asked, eq⟩
  | addEntity changed =>
      cases handled
      exact Or.inl rfl
  | delEntity changed =>
      cases handled
      exact Or.inl rfl
  | compound messages =>
      cases handled
      exact Or.inl rfl

/-- A component that the remote may not change is not changed by a handler. -/
theorem handle_component (permitted : receiver.PartialSyncAllowed registry message)
    (handled : receiver.handle registry message = Except.ok (next, replies))
    {type : TypeHash} {entity : Entity}
    (denied : ∀ change, receiver.request registry message = some change →
      (change.type, change.entity) = (type, entity) →
        receiver.resultOf registry change ≠ ChangeResult.allowed) :
    next.component type entity = registry.component type entity := by
  rcases handle_cases permitted handled with same | ⟨change, asked, allowed, placed⟩
  · rw [same]
  · rw [placed]
    apply Registry.place_component_of_ne
    intro pair_eq
    exact denied change asked pair_eq.symm allowed

end Step

section Run

variable {receiver : Receiver V} {registry : Registry V}

/-- The remote may not make any of the changes to the pair that the steps ask for. -/
def DeniedIn (receiver : Receiver V) (steps : List (Registry V × CoreMessage))
    (type : TypeHash) (entity : Entity) : Prop :=
  ∀ step ∈ steps, ∀ change, receiver.request step.1 step.2 = some change →
    (change.type, change.entity) = (type, entity) →
      receiver.resultOf step.1 change ≠ ChangeResult.allowed

theorem handleLeaves_component {leaves : List CoreMessage} {type : TypeHash} {entity : Entity}
    (permitted : ∀ step ∈ receiver.steps leaves registry,
      receiver.PartialSyncAllowed step.1 step.2)
    (denied : receiver.DeniedIn (receiver.steps leaves registry) type entity) :
    (receiver.handleLeaves leaves registry).registry.component type entity =
      registry.component type entity := by
  induction leaves generalizing registry with
  | nil => rfl
  | cons leaf rest ih =>
      have here : (registry, leaf) ∈ receiver.steps (leaf :: rest) registry := by simp [steps]
      cases handled : receiver.handle registry leaf with
      | error fault => simp [handleLeaves, handled, Handling.ofResult, Handling.andThen]
      | ok result =>
          rcases result with ⟨next, replies⟩
          have later : receiver.steps (leaf :: rest) registry =
              (registry, leaf) :: receiver.steps rest next := by simp [steps, handled]
          rw [later] at permitted denied
          have kept := handle_component (permitted _ List.mem_cons_self) handled
            (denied _ List.mem_cons_self)
          have rest_kept := ih
            (fun step mem => permitted step (List.mem_cons_of_mem _ mem))
            (fun step mem => denied step (List.mem_cons_of_mem _ mem))
          simpa [handleLeaves, handled, Handling.ofResult, Handling.andThen] using
            rest_kept.trans kept

theorem receiveAll_component {messages : List CoreMessage} {type : TypeHash} {entity : Entity}
    (permitted : receiver.AllPartialSyncAllowed messages registry)
    (denied : receiver.DeniedIn (receiver.stepsOfAll messages registry) type entity) :
    (receiver.receiveAll messages registry).1.component type entity =
      registry.component type entity := by
  induction messages generalizing registry with
  | nil => rfl
  | cons message rest ih =>
      have first : (receiver.receive message registry).registry.component type entity =
          registry.component type entity := by
        rw [receive_eq]
        apply handleLeaves_component
        · exact fun step mem => permitted step (List.mem_append_left _ mem)
        · exact fun step mem => denied step (List.mem_append_left _ mem)
      have later := ih
        (fun step mem => permitted step (List.mem_append_right _ mem))
        (fun step mem => denied step (List.mem_append_right _ mem))
      exact later.trans first

end Run

/-! ## Unobservable components -/

/-- Two outcomes of a handler that tell the remote the same and leave registries that
differ at most in one pair. -/
inductive SameOutcome (type : TypeHash) (entity : Entity) :
    Except Fault (Registry V × List CoreMessage) →
      Except Fault (Registry V × List CoreMessage) → Prop where
  | fault (fault : Fault) : SameOutcome type entity (Except.error fault) (Except.error fault)
  | ok {next other : Registry V} (replies : List CoreMessage)
      (agree : Registry.AgreeExcept type entity next other) :
      SameOutcome type entity (Except.ok (next, replies)) (Except.ok (other, replies))

/-- Two handlings that told the remote the same and left registries that differ at most
in one pair. -/
structure SameHandling (type : TypeHash) (entity : Entity) (first second : Handling V) :
    Prop where
  registry : Registry.AgreeExcept type entity first.registry second.registry
  replies : first.replies = second.replies
  fault : first.fault = second.fault

section Secrecy

variable {receiver : Receiver V} {type : TypeHash} {entity : Entity}
variable {registry other : Registry V}

theorem SameOutcome.mapReplies {first second : Except Fault (Registry V × List CoreMessage)}
    (same : SameOutcome type entity first second)
    (function : List CoreMessage → List CoreMessage) :
    SameOutcome type entity (first.map fun answer => (answer.1, function answer.2))
      (second.map fun answer => (answer.1, function answer.2)) := by
  cases same with
  | fault fault => exact SameOutcome.fault fault
  | ok replies agree => exact SameOutcome.ok (function replies) agree

theorem sameOutcome_setComponent (agree : Registry.AgreeExcept type entity registry other)
    (askedType : TypeHash) (asked : Entity) (value : V) :
    SameOutcome type entity
      ((registry.setComponent askedType asked value).map fun next => (next, []))
      ((other.setComponent askedType asked value).map fun next => (next, [])) := by
  unfold Registry.setComponent
  rw [← agree.pool]
  split
  · exact SameOutcome.ok [] (agree.place (some value))
  · exact SameOutcome.fault Fault.invalidEntity

theorem sameOutcome_removeComponent (agree : Registry.AgreeExcept type entity registry other)
    {askedType : TypeHash} {asked : Entity}
    (same : registry.component askedType asked = other.component askedType asked) :
    SameOutcome type entity
      ((registry.removeComponent askedType asked).map fun next => (next, []))
      ((other.removeComponent askedType asked).map fun next => (next, [])) := by
  unfold Registry.removeComponent
  rw [← same]
  split
  · exact SameOutcome.ok [] (agree.place none)
  · exact SameOutcome.fault Fault.absentComponent

theorem sameOutcome_refuse (agree : Registry.AgreeExcept type entity registry other)
    (data : ComponentData V) {askedType : TypeHash} {asked : Entity}
    (same : registry.component askedType asked = other.component askedType asked) :
    SameOutcome type entity (refuse registry data askedType asked)
      (refuse other data askedType asked) := by
  unfold refuse
  rw [← same]
  split
  · exact SameOutcome.ok _ agree
  · exact SameOutcome.fault Fault.absentComponent

/-- The pair is hidden from the remote: the validator calls it unobservable, and no rule
reads its value out of the registry. -/
structure Hidden (receiver : Receiver V) (type : TypeHash) (entity : Entity) : Prop where
  unobservable : receiver.validator.isUnobservable receiver.remoteId type entity = true
  blind : receiver.validator.BlindTo type entity

/-- Asked about a hidden pair, the validator says that it is unobservable. -/
theorem Hidden.isAllowed_eq (hidden : receiver.Hidden type entity) (current : Registry V)
    (oldValue newValue : Option V) :
    receiver.validator.isAllowed receiver.remoteId current type entity oldValue newValue =
      ChangeResult.unobservable :=
  ChangeValidator.isAllowed_eq_unobservable_iff.mpr hidden.unobservable

theorem sameOutcome_onMsgSetComponentReceived (hidden : receiver.Hidden type entity)
    (agree : Registry.AgreeExcept type entity registry other) (rebroadcast : Bool)
    (bytes : Bytes) (askedType : TypeHash) (asked : Entity) :
    SameOutcome type entity
      (receiver.onMsgSetComponentReceived rebroadcast registry bytes askedType asked)
      (receiver.onMsgSetComponentReceived rebroadcast other bytes askedType asked) := by
  cases found : receiver.componentRegistry askedType with
  | none =>
      simp only [onMsgSetComponentReceived, getComponentData, found]
      exact SameOutcome.fault Fault.unknownType
  | some data =>
      rw [onMsgSetComponentReceived_eq found, onMsgSetComponentReceived_eq found]
      by_cases pair_eq : (askedType, asked) = (type, entity)
      · cases pair_eq
        rw [hidden.isAllowed_eq, hidden.isAllowed_eq]
        exact SameOutcome.ok [] agree
      · have same := agree.component askedType asked pair_eq
        rw [← same, ← hidden.blind receiver.remoteId registry other askedType asked
          (registry.component askedType asked) (some (data.fromBytes bytes)) agree]
        split
        · exact sameOutcome_setComponent agree askedType asked (data.fromBytes bytes)
        · exact (sameOutcome_refuse agree data same).mapReplies
            fun replies => if rebroadcast then [] else replies
        · exact SameOutcome.ok [] agree

theorem sameOutcome_onMsgDelComponentReceived (hidden : receiver.Hidden type entity)
    (agree : Registry.AgreeExcept type entity registry other)
    (askedType : TypeHash) (asked : Entity) :
    SameOutcome type entity (receiver.onMsgDelComponentReceived registry askedType asked)
      (receiver.onMsgDelComponentReceived other askedType asked) := by
  cases found : receiver.componentRegistry askedType with
  | none =>
      simp only [onMsgDelComponentReceived, getComponentData, found]
      exact SameOutcome.fault Fault.unknownType
  | some data =>
      rw [onMsgDelComponentReceived_eq found, onMsgDelComponentReceived_eq found]
      by_cases pair_eq : (askedType, asked) = (type, entity)
      · cases pair_eq
        rw [hidden.isAllowed_eq, hidden.isAllowed_eq]
        exact SameOutcome.ok [] agree
      · have same := agree.component askedType asked pair_eq
        rw [← same, ← hidden.blind receiver.remoteId registry other askedType asked
          (registry.component askedType asked) none agree]
        split
        · split
          · exact sameOutcome_removeComponent agree same
          · exact sameOutcome_refuse agree data same
        · exact sameOutcome_refuse agree data same
        · exact SameOutcome.ok [] agree

/-- A partial synchronization message that is allowed does not reach a hidden pair. -/
theorem Hidden.component_eq_none (hidden : receiver.Hidden type entity) {data : Bytes}
    {messageType : TypeHash} {message : PsMessage V}
    (known : receiver.psMessageRegistry messageType = some message)
    (type_eq : message.componentType = type)
    (permitted : receiver.PartialSyncAllowed registry
      (CoreMessage.partialSync data messageType entity)) :
    registry.component type entity = none := by
  cases present : registry.component type entity with
  | none => rfl
  | some component =>
      subst type_eq
      have allowed := permitted ⟨message.componentType, entity,
        some (message.onMessageReceived component data receiver.remoteId).1⟩
        (by simp [request, known, present])
      rw [resultOf, hidden.isAllowed_eq] at allowed
      cases allowed

theorem sameOutcome_onMsgPartialSyncReceived (hidden : receiver.Hidden type entity)
    (agree : Registry.AgreeExcept type entity registry other) {data : Bytes}
    {messageType : TypeHash} {asked : Entity}
    (permitted : receiver.PartialSyncAllowed registry
      (CoreMessage.partialSync data messageType asked))
    (otherPermitted : receiver.PartialSyncAllowed other
      (CoreMessage.partialSync data messageType asked)) :
    SameOutcome type entity (receiver.onMsgPartialSyncReceived registry data messageType asked)
      (receiver.onMsgPartialSyncReceived other data messageType asked) := by
  unfold onMsgPartialSyncReceived
  cases known : receiver.psMessageRegistry messageType with
  | none => exact SameOutcome.fault Fault.unknownType
  | some message =>
      have same : registry.component message.componentType asked =
          other.component message.componentType asked := by
        by_cases pair_eq : (message.componentType, asked) = (type, entity)
        · cases pair_eq
          rw [hidden.component_eq_none known rfl permitted,
            hidden.component_eq_none known rfl otherPermitted]
        · exact agree.component message.componentType asked pair_eq
      simp only [← same]
      split
      · exact SameOutcome.fault Fault.absentComponent
      · exact SameOutcome.ok _ (agree.place _)

/-- The value of a hidden pair does not show in what a handler does. -/
theorem sameOutcome_handle (hidden : receiver.Hidden type entity)
    (agree : Registry.AgreeExcept type entity registry other) {message : CoreMessage}
    (permitted : receiver.PartialSyncAllowed registry message)
    (otherPermitted : receiver.PartialSyncAllowed other message) :
    SameOutcome type entity (receiver.handle registry message)
      (receiver.handle other message) := by
  cases message with
  | setComponent data askedType asked =>
      exact sameOutcome_onMsgSetComponentReceived hidden agree false data askedType asked
  | undoComponent data askedType asked =>
      exact sameOutcome_onMsgSetComponentReceived hidden agree true data askedType asked
  | delComponent askedType asked =>
      exact sameOutcome_onMsgDelComponentReceived hidden agree askedType asked
  | partialSync data messageType asked =>
      exact sameOutcome_onMsgPartialSyncReceived hidden agree permitted otherPermitted
  | addEntity changed => exact SameOutcome.ok [] agree
  | delEntity changed => exact SameOutcome.ok [] agree
  | compound messages => exact SameOutcome.ok [] agree

/-- Nor does it show in what is done about the leaves of a message. -/
theorem sameHandling_handleLeaves (hidden : receiver.Hidden type entity)
    {leaves : List CoreMessage} (agree : Registry.AgreeExcept type entity registry other)
    (permitted : ∀ step ∈ receiver.steps leaves registry,
      receiver.PartialSyncAllowed step.1 step.2)
    (otherPermitted : ∀ step ∈ receiver.steps leaves other,
      receiver.PartialSyncAllowed step.1 step.2) :
    SameHandling type entity (receiver.handleLeaves leaves registry)
      (receiver.handleLeaves leaves other) := by
  induction leaves generalizing registry other with
  | nil => exact ⟨agree, rfl, rfl⟩
  | cons leaf rest ih =>
      rw [steps, List.forall_mem_cons] at permitted otherPermitted
      have same := sameOutcome_handle hidden agree permitted.1 otherPermitted.1
      rw [handleLeaves, handleLeaves]
      generalize receiver.handle registry leaf = first at same permitted
      generalize receiver.handle other leaf = second at same otherPermitted
      cases same with
      | fault fault => exact ⟨agree, rfl, rfl⟩
      | ok replies nextAgree =>
          have later := ih nextAgree permitted.2 otherPermitted.2
          constructor
          · exact later.registry
          · simp only [Handling.ofResult, Handling.andThen, later.replies]
          · exact later.fault

/-- Nor in what is done about a sequence of messages. -/
theorem receiveAll_replies (hidden : receiver.Hidden type entity) {messages : List CoreMessage}
    (agree : Registry.AgreeExcept type entity registry other)
    (permitted : receiver.AllPartialSyncAllowed messages registry)
    (otherPermitted : receiver.AllPartialSyncAllowed messages other) :
    (receiver.receiveAll messages registry).2 = (receiver.receiveAll messages other).2 := by
  induction messages generalizing registry other with
  | nil => rfl
  | cons message rest ih =>
      have same : SameHandling type entity (receiver.receive message registry)
          (receiver.receive message other) := by
        rw [receive_eq, receive_eq]
        apply sameHandling_handleLeaves hidden agree
        · exact fun step mem => permitted step (List.mem_append_left _ mem)
        · exact fun step mem => otherPermitted step (List.mem_append_left _ mem)
      have later := ih same.registry
        (fun step mem => permitted step (List.mem_append_right _ mem))
        (fun step mem => otherPermitted step (List.mem_append_right _ mem))
      simp only [receiveAll, same.replies, later]

end Secrecy

/-- Where partial synchronization messages only change components that the remote may
change, a sequence of messages leaves every component alone that the remote may not
change, and is answered in the same way whatever the value of a hidden component. -/
theorem validatorRespected_of_allowed {receiver : Receiver V} {registry : Registry V}
    {messages : List CoreMessage}
    (permitted : receiver.AllPartialSyncAllowed messages registry) :
    (∀ type entity, receiver.DeniedIn (receiver.stepsOfAll messages registry) type entity →
      (receiver.receiveAll messages registry).1.component type entity =
        registry.component type entity) ∧
      ∀ type entity other, receiver.Hidden type entity →
        Registry.AgreeExcept type entity registry other →
        receiver.AllPartialSyncAllowed messages other →
          (receiver.receiveAll messages other).2 = (receiver.receiveAll messages registry).2 := by
  constructor
  · intro type entity denied
    exact receiveAll_component permitted denied
  · intro type entity other hidden agree otherPermitted
    exact (receiveAll_replies hidden agree permitted otherPermitted).symm

section Example

/-- Components of type 1 may be seen but not changed, those of type 2 may be changed, and
those of type 3 are not observable.  Messages of type 5 replace a component of type 2. -/
def guardedReceiver : Receiver UInt8 where
  componentRegistry _ := some byteComponent
  psMessageRegistry type :=
    if type = 5 then some ⟨2, fun _ data _ => (data.headD 0, [])⟩ else none
  validator :=
    { rules := fun type =>
        if type = 1 then some ⟨[], some ChangeResult.forbidden⟩
        else if type = 2 then some ⟨[], some ChangeResult.allowed⟩ else none
      defaultBehaviour := ChangeResult.unobservable
      checkVisibility := none }
  remoteId := 7

/-- An entity with a component of each of the three types. -/
def threeComponents (secret : UInt8) : Registry UInt8 :=
  ((bareRegistry.place 1 ⟨0, 0⟩ (some 11)).place 2 ⟨0, 0⟩ (some 12)).place 3 ⟨0, 0⟩ (some secret)

/-- Attempts on all three components, some of them nested. -/
def attempts : List CoreMessage :=
  [CoreMessage.compound
      [CoreMessage.setComponent [22] 1 ⟨0, 0⟩,
        CoreMessage.compound [CoreMessage.partialSync [23] 5 ⟨0, 0⟩,
          CoreMessage.delComponent 3 ⟨0, 0⟩]],
    CoreMessage.undoComponent [24] 3 ⟨0, 0⟩, CoreMessage.delComponent 1 ⟨0, 0⟩]

theorem validatorRespected_attempts :
    (guardedReceiver.receiveAll attempts (threeComponents 13)).1.component 1 ⟨0, 0⟩ = some 11 ∧
      (guardedReceiver.receiveAll attempts (threeComponents 14)).2 =
        (guardedReceiver.receiveAll attempts (threeComponents 13)).2 := by
  have permitted : ∀ secret,
      guardedReceiver.AllPartialSyncAllowed attempts (threeComponents secret) := by
    intro secret step _
    rcases step with ⟨registry, message⟩
    cases message with
    | partialSync data messageType entity =>
        intro change asked
        have type_eq : change.type = 2 := by
          simp only [request, guardedReceiver] at asked
          split at asked
          · rcases Option.map_eq_some_iff.mp asked with ⟨component, _, rfl⟩
            rfl
          · cases asked
        simp [resultOf, ChangeValidator.isAllowed, ChangeValidator.hides, guardedReceiver,
          type_eq, PerComponentData.behaviour]
    | _ => trivial
  have denied : guardedReceiver.DeniedIn
      (guardedReceiver.stepsOfAll attempts (threeComponents 13)) 1 ⟨0, 0⟩ := by
    intro step _ change _ pair_eq
    have type_eq : change.type = 1 := (Prod.mk.inj pair_eq).1
    simp [resultOf, ChangeValidator.isAllowed, ChangeValidator.hides, guardedReceiver,
      type_eq, PerComponentData.behaviour]
  have hidden : guardedReceiver.Hidden 3 ⟨0, 0⟩ := by
    constructor
    · decide
    · apply ChangeValidator.blindTo_of_noRules
      intro type data found
      simp only [guardedReceiver] at found
      split at found
      · cases found
        rfl
      · split at found <;> cases found
        rfl
  have agree : Registry.AgreeExcept 3 ⟨0, 0⟩ (threeComponents 13) (threeComponents 14) := by
    constructor
    · rfl
    · intro type entity ne
      rw [threeComponents, threeComponents, Registry.place_component_of_ne _ _ ne,
        Registry.place_component_of_ne _ _ ne]
  have respected := validatorRespected_of_allowed (permitted 13)
  exact ⟨respected.1 1 ⟨0, 0⟩ denied,
    respected.2 3 ⟨0, 0⟩ (threeComponents 14) hidden agree (permitted 14)⟩

/-- As `guardedReceiver`, but no component may be changed. -/
def forbiddingReceiver : Receiver UInt8 :=
  { guardedReceiver with
    validator :=
      { rules := fun _ => none, defaultBehaviour := ChangeResult.forbidden,
        checkVisibility := none } }

/-- A partial synchronization message changes a component that the remote may not change. -/
theorem partialSync_unchecked :
    forbiddingReceiver.DeniedIn
        (forbiddingReceiver.stepsOfAll [CoreMessage.partialSync [22] 5 ⟨0, 0⟩] (threeComponents 13))
        2 ⟨0, 0⟩ ∧
      (threeComponents 13).component 2 ⟨0, 0⟩ = some 12 ∧
      (forbiddingReceiver.receiveAll [CoreMessage.partialSync [22] 5 ⟨0, 0⟩]
        (threeComponents 13)).1.component 2 ⟨0, 0⟩ = some 22 := by
  refine ⟨?_, by decide, by decide +kernel⟩
  intro step _ change _ _
  simp [resultOf, ChangeValidator.isAllowed, ChangeValidator.hides, forbiddingReceiver]

end Example

end Receiver

end VoxelEngine.ClientServer
