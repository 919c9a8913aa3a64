import VoxelEngine.ClientServer.MessageHandler
import VoxelEngine.Transition.Run

/-!
# Agreement on message types

Both sides of a connection register message types under names, together with the hash of
the data type.  The hashes are not compared when handlers are added, nor when the remote
announces its types.  A handler is given messages of its own type only as long as no name is
registered for different data types; a local registry must also not hand out a number
twice, since handlers are found by the number of their type.

A queued message counts as received when it is replayed.
-/

namespace VoxelEngine.ClientServer

open VoxelEngine.Transition

/-- A handler that was given a message, with the registrations of the message's type on the
side of the sender and on the side of the receiver. -/
structure Invocation where
  handler : AddedHandler
  sender : MessageType
  receiver : MessageType
  deriving DecidableEq

/-- The message has the type the handler was added for. -/
structure Invocation.Agrees (invocation : Invocation) : Prop where
  name : invocation.sender.name = invocation.handler.name
  type : invocation.sender.typeHash = invocation.handler.type
  registered : invocation.receiver.typeHash = invocation.sender.typeHash

/-- A message handler and what its handlers were given so far. -/
structure Endpoint where
  handler : MessageHandler
  invocations : List Invocation

/-- What can happen to a message handler. -/
inductive EndpointAction where
  /-- A local type is registered, possibly for another connection. -/
  | registerLocal (name : String) (typeHash : TypeHash)
  | addHandler (name : String) (id : HandlerId) (type : TypeHash)
  | addHandlerById (localId : MtrId) (id : HandlerId) (type : TypeHash)
  /-- The remote announces a type. -/
  | syncMtr (name : String) (typeHash : TypeHash) (id : MtrId)
  /-- The remote sends a message. -/
  | receive (id : MtrId)

namespace MessageHandler

/-- What `on_message_received_common` invokes. -/
def invocationsFor (handler : MessageHandler) (id : MtrId) : List Invocation :=
  match handler.remoteMtr.tryGetTypeById id with
  | none => []
  | some sender =>
      match handler.localMtr.tryGetType sender.name with
      | none => []
      | some receiver =>
          match handler.handlers receiver.id with
          | none => []
          | some data => data.handlers.map fun added => ⟨added, sender, receiver⟩

theorem mem_invocationsFor {handler : MessageHandler} {id : MtrId} {invocation : Invocation}
    (mem : invocation ∈ handler.invocationsFor id) :
    ∃ data, handler.remoteMtr.tryGetTypeById id = some invocation.sender ∧
      handler.localMtr.tryGetType invocation.sender.name = some invocation.receiver ∧
      handler.handlers invocation.receiver.id = some data ∧
      invocation.handler ∈ data.handlers := by
  unfold invocationsFor at mem
  split at mem
  · cases mem
  · rename_i sender senderFound
    split at mem
    · cases mem
    · rename_i receiver receiverFound
      split at mem
      · cases mem
      · rename_i data dataFound
        rcases List.mem_map.mp mem with ⟨added, addedMem, rfl⟩
        exact ⟨data, senderFound, receiverFound, dataFound, addedMem⟩

/-- The number the name would be registered under is free, if it has to be registered. -/
def HasRoom (handler : MessageHandler) (name : String) : Prop :=
  handler.localMtr.tryGetType name = none → handler.localMtr.types.length < 65536

/-- A type that the remote can send messages of. -/
def Announced (handler : MessageHandler) (sender : MessageType) : Prop :=
  ∃ id, handler.remoteMtr.tryGetTypeById id = some sender

/-- Everything a message handler relies on to find the right handlers. -/
structure Agreeing (handler : MessageHandler) : Prop where
  numbered : handler.localMtr.Numbered
  few : handler.localMtr.types.length ≤ 65536
  /-- Handlers are stored for local types and keep their name. -/
  stored : ∀ id data, handler.handlers id = some data →
    ∃ type ∈ handler.localMtr.types, type.id = id ∧
      ∀ added ∈ data.handlers, added.name = type.name
  /-- The handlers for a type the remote sends were added for that type. -/
  agreed : ∀ sender, handler.Announced sender →
    ∀ receiver data, handler.localMtr.tryGetType sender.name = some receiver →
      handler.handlers receiver.id = some data →
        receiver.typeHash = sender.typeHash ∧
          ∀ added ∈ data.handlers, added.type = sender.typeHash

theorem few_start (typeHash : String → TypeHash) :
    (start typeHash).localMtr.types.length ≤ 65536 := by
  have bound := MessageTypeRegistry.length_registerCoreMessages MessageTypeRegistry.empty
    typeHash
  have none_yet : MessageTypeRegistry.empty.types.length = 0 := rfl
  have core : MessageTypeRegistry.coreMessageNames.length = 9 := rfl
  rw [none_yet, core] at bound
  rw [start_localMtr]
  omega

theorem agreeing_start (typeHash : String → TypeHash) : Agreeing (start typeHash) := by
  constructor
  · rw [start_localMtr]
    exact MessageTypeRegistry.numbered_empty.registerCoreMessages typeHash
  · exact few_start typeHash
  · intro id data found
    rw [start_handlers] at found
    cases found
  · intro sender _ receiver data _ found
    rw [start_handlers] at found
    cases found

/-- A message that is received is given to handlers of its own type. -/
theorem Agreeing.invocation {handler : MessageHandler} (agreeing : handler.Agreeing)
    {id : MtrId} {invocation : Invocation} (mem : invocation ∈ handler.invocationsFor id) :
    invocation.Agrees := by
  rcases mem_invocationsFor mem with ⟨data, senderFound, receiverFound, dataFound, addedMem⟩
  rcases agreeing.stored _ data dataFound with ⟨type, typeMem, id_eq, names⟩
  rcases MessageTypeRegistry.tryGetType_name receiverFound with ⟨receiverMem, receiverName⟩
  have same : type = invocation.receiver :=
    agreeing.numbered.eq_of_id_eq agreeing.few typeMem receiverMem id_eq
  rcases agreeing.agreed _ ⟨id, senderFound⟩ _ data receiverFound dataFound with
    ⟨registered, types⟩
  constructor
  · rw [names _ addedMem, same, receiverName]
  · exact (types _ addedMem).symm
  · exact registered

/-- Local registrations keep the agreement as long as there are numbers left. -/
theorem Agreeing.registerMessageTypeLocal {handler : MessageHandler}
    (agreeing : handler.Agreeing) {name : String} (room : handler.HasRoom name)
    (typeHash : TypeHash) : (handler.registerMessageTypeLocal name typeHash).Agreeing := by
  unfold MessageHandler.registerMessageTypeLocal
  cases registered : handler.localMtr.registerType name typeHash false with
  | none => exact agreeing
  | some next =>
      rcases MessageTypeRegistry.registerType_eq_some registered with ⟨fresh, types, _⟩
      have few := room fresh
      constructor
      · exact agreeing.numbered.registerType registered
      · simp only [Option.getD_some, types, List.length_append, List.length_singleton]
        omega
      · intro id data found
        rcases agreeing.stored id data found with ⟨type, mem, id_eq, names⟩
        refine ⟨type, ?_, id_eq, names⟩
        rw [Option.getD_some, types]
        exact List.mem_append_left _ mem
      · intro sender announced receiver data receiverFound dataFound
        rw [Option.getD_some, MessageTypeRegistry.tryGetType_register types] at receiverFound
        cases known : handler.localMtr.tryGetType sender.name with
        | some old =>
            rw [known, Option.some_or] at receiverFound
            exact agreeing.agreed sender announced receiver data (known.trans receiverFound)
              dataFound
        | none =>
            rw [known, Option.none_or] at receiverFound
            split at receiverFound
            · cases receiverFound
              rcases agreeing.stored _ data dataFound with ⟨type, mem, id_eq, _⟩
              exact absurd id_eq (agreeing.numbered.id_ne_nextId few mem)
            · cases receiverFound

/-- A name keeps its data type, and gets the given one if it had none. -/
theorem typeHash_of_registered {handler : MessageHandler} {name : String}
    {typeHash : TypeHash} {type : MessageType}
    (found : (handler.registerMessageTypeLocal name typeHash).localMtr.tryGetType name =
      some type)
    (earlier : ∀ known, handler.localMtr.tryGetType name = some known →
      known.typeHash = typeHash) : type.typeHash = typeHash := by
  unfold registerMessageTypeLocal at found
  cases registered : handler.localMtr.registerType name typeHash false with
  | none =>
      rw [registered, Option.getD_none] at found
      exact earlier type found
  | some next =>
      rcases MessageTypeRegistry.registerType_eq_some registered with ⟨fresh, types, _⟩
      rw [registered, Option.getD_some, MessageTypeRegistry.tryGetType_register types, fresh,
        Option.none_or, if_pos rfl] at found
      cases found
      rfl

/-- A handler can be added for the type that the name is registered for. -/
theorem Agreeing.insertHandler {handler : MessageHandler} (agreeing : handler.Agreeing)
    {type : MessageType} (typeMem : type ∈ handler.localMtr.types) {added : AddedHandler}
    (name : added.name = type.name)
    (agrees : ∀ sender, handler.Announced sender → sender.name = type.name →
      sender.typeHash = added.type ∧ type.typeHash = added.type) :
    (handler.insertHandler type.id added).Agreeing := by
  refine { agreeing with stored := ?_, agreed := ?_ }
  · intro id data found
    by_cases same : id = type.id
    · subst same
      rw [insertHandler_self, Option.some.injEq] at found
      refine ⟨type, typeMem, rfl, ?_⟩
      subst found
      intro other otherMem
      rcases HandlerData.mem_pushBack otherMem with ⟨known, knownFound, knownMem⟩ | rfl
      · rcases agreeing.stored _ known knownFound with ⟨storedType, storedMem, id_eq, names⟩
        rw [names other knownMem,
          agreeing.numbered.eq_of_id_eq agreeing.few storedMem typeMem id_eq]
      · exact name
    · rw [insertHandler_of_ne _ same] at found
      exact agreeing.stored id data found
  · intro sender announced receiver data receiverFound found
    rcases MessageTypeRegistry.tryGetType_name receiverFound with ⟨receiverMem, receiverName⟩
    by_cases same : receiver.id = type.id
    · have receiver_eq : receiver = type :=
        agreeing.numbered.eq_of_id_eq agreeing.few receiverMem typeMem same
      subst receiver_eq
      rcases agrees sender announced receiverName.symm with ⟨senderType, receiverType⟩
      rw [insertHandler_self, Option.some.injEq] at found
      subst found
      refine ⟨receiverType.trans senderType.symm, ?_⟩
      intro other otherMem
      rcases HandlerData.mem_pushBack otherMem with ⟨known, knownFound, knownMem⟩ | rfl
      · exact (agreeing.agreed sender announced receiver known receiverFound knownFound).2
          other knownMem
      · exact senderType.symm
    · rw [insertHandler_of_ne _ same] at found
      exact agreeing.agreed sender announced receiver data receiverFound found

/-- A type can be announced if the handlers under its name were added for it. -/
theorem Agreeing.onMsgSyncMtrReceived {handler : MessageHandler}
    (agreeing : handler.Agreeing) {name : String} {typeHash : TypeHash} {id : MtrId}
    (agrees : handler.remoteMtr.tryGetType name = none →
      handler.remoteMtr.tryGetTypeById id = none →
        ∀ receiver data, handler.localMtr.tryGetType name = some receiver →
          handler.handlers receiver.id = some data →
            receiver.typeHash = typeHash ∧ ∀ added ∈ data.handlers, added.type = typeHash) :
    (handler.onMsgSyncMtrReceived name typeHash id).Agreeing := by
  refine { agreeing with agreed := ?_ }
  rintro sender ⟨senderId, senderFound⟩ receiver data receiverFound dataFound
  unfold MessageHandler.onMsgSyncMtrReceived at senderFound
  cases registered : handler.remoteMtr.register ⟨name, typeHash, id, false⟩ with
  | none =>
      rw [registered] at senderFound
      exact agreeing.agreed sender ⟨senderId, senderFound⟩ receiver data receiverFound
        dataFound
  | some next =>
      rw [registered] at senderFound
      rcases MessageTypeRegistry.register_eq_some registered with ⟨fresh, types, _⟩
      rw [Option.getD_some, MessageTypeRegistry.tryGetTypeById_register types] at senderFound
      cases known : handler.remoteMtr.tryGetTypeById senderId with
      | some old =>
          rw [known, Option.some_or] at senderFound
          cases senderFound
          exact agreeing.agreed _ ⟨senderId, known⟩ receiver data receiverFound dataFound
      | none =>
          rw [known, Option.none_or] at senderFound
          split at senderFound
          · rename_i id_eq
            cases senderFound
            cases id_eq
            exact agrees fresh known receiver data receiverFound dataFound
          · cases senderFound

end MessageHandler

namespace Endpoint

/-- What `on_message_received` and the functions that register types and handlers do. -/
def step (endpoint : Endpoint) : EndpointAction → Option Endpoint
  | EndpointAction.registerLocal name typeHash =>
      some { endpoint with
        handler := endpoint.handler.registerMessageTypeLocal name typeHash }
  | EndpointAction.addHandler name id type =>
      (endpoint.handler.addHandler name id type).map fun handler =>
        { endpoint with handler := handler }
  | EndpointAction.addHandlerById localId id type =>
      (endpoint.handler.addHandlerById localId id type).map fun handler =>
        { endpoint with handler := handler }
  | EndpointAction.syncMtr name typeHash id =>
      some { endpoint with handler := endpoint.handler.onMsgSyncMtrReceived name typeHash id }
  | EndpointAction.receive id =>
      some { endpoint with
        invocations := endpoint.invocations ++ endpoint.handler.invocationsFor id }

/-- A connection before anything happened. -/
def start (typeHash : String → TypeHash) : Endpoint :=
  ⟨MessageHandler.start typeHash, []⟩

/-- No name is registered for different data types, and the local numbers do not run out. -/
def Consistent (endpoint : Endpoint) : EndpointAction → Prop
  | EndpointAction.registerLocal name _ => endpoint.handler.HasRoom name
  | EndpointAction.addHandler name _ type =>
      endpoint.handler.HasRoom name ∧
        ∀ sender, endpoint.handler.Announced sender → sender.name = name →
          sender.typeHash = type ∧
            ∀ receiver, endpoint.handler.localMtr.tryGetType name = some receiver →
              receiver.typeHash = type
  | EndpointAction.addHandlerById localId _ type =>
      ∀ receiver, endpoint.handler.localMtr.tryGetTypeById localId = some receiver →
        ∀ sender, endpoint.handler.Announced sender → sender.name = receiver.name →
          sender.typeHash = type ∧ receiver.typeHash = type
  | EndpointAction.syncMtr name typeHash id =>
      endpoint.handler.remoteMtr.tryGetType name = none →
        endpoint.handler.remoteMtr.tryGetTypeById id = none →
          ∀ receiver data, endpoint.handler.localMtr.tryGetType name = some receiver →
            endpoint.handler.handlers receiver.id = some data →
              receiver.typeHash = typeHash ∧ ∀ added ∈ data.handlers, added.type = typeHash
  | EndpointAction.receive _ => True

/-- The invariant of consistent runs. -/
structure Safe (endpoint : Endpoint) : Prop where
  agreeing : endpoint.handler.Agreeing
  invoked : ∀ invocation ∈ endpoint.invocations, invocation.Agrees

theorem safe_start (typeHash : String → TypeHash) : Safe (start typeHash) :=
  ⟨MessageHandler.agreeing_start typeHash, fun _ mem => absurd mem List.not_mem_nil⟩

/-- Every consistent step keeps the invariant. -/
theorem Safe.step {endpoint next : Endpoint} (safe : Safe endpoint) {action : EndpointAction}
    (consistent : Consistent endpoint action) (stepEq : endpoint.step action = some next) :
    Safe next := by
  cases action with
  | registerLocal name typeHash =>
      cases stepEq
      exact ⟨safe.agreeing.registerMessageTypeLocal consistent typeHash, safe.invoked⟩
  | addHandler name id type =>
      rcases consistent with ⟨room, agrees⟩
      rcases Option.map_eq_some_iff.mp stepEq with ⟨handler, added, rfl⟩
      rcases Option.map_eq_some_iff.mp added with ⟨known, found, rfl⟩
      have registered := safe.agreeing.registerMessageTypeLocal room type
      rcases MessageTypeRegistry.tryGetType_name found with ⟨knownMem, knownName⟩
      refine ⟨registered.insertHandler knownMem knownName.symm ?_, safe.invoked⟩
      intro sender announced senderName
      rcases agrees sender announced (senderName.trans knownName) with ⟨senderType, earlier⟩
      exact ⟨senderType,
        MessageHandler.typeHash_of_registered found earlier⟩
  | addHandlerById localId id type =>
      rcases Option.map_eq_some_iff.mp stepEq with ⟨handler, added, rfl⟩
      rcases Option.map_eq_some_iff.mp added with ⟨known, found, rfl⟩
      rcases MessageTypeRegistry.tryGetTypeById_id found with ⟨knownMem, rfl⟩
      exact ⟨safe.agreeing.insertHandler knownMem rfl (consistent known found), safe.invoked⟩
  | syncMtr name typeHash id =>
      cases stepEq
      exact ⟨safe.agreeing.onMsgSyncMtrReceived consistent, safe.invoked⟩
  | receive id =>
      cases stepEq
      refine ⟨safe.agreeing, ?_⟩
      intro invocation mem
      rcases List.mem_append.mp mem with old | new
      · exact safe.invoked invocation old
      · exact safe.agreeing.invocation new

/-- In a run in which no name is registered for different data types, handlers are only
given messages of their type. -/
theorem invocations_agree {typeHash : String → TypeHash} {actions : List EndpointAction}
    {final : Endpoint} (consistent : Guarded step Consistent (start typeHash) actions)
    (runEq : run step (start typeHash) actions = some final) :
    ∀ invocation ∈ final.invocations, invocation.Agrees := by
  have safe : Safe final :=
    run_invariant (fun _ _ _ safe here stepEq => safe.step here stepEq)
      (safe_start typeHash) consistent runEq
  exact safe.invoked

section Example

/-- The data types of the core messages, told apart by the length of their names. -/
def coreTypeHash (name : String) : TypeHash :=
  UInt64.ofNat name.length

/-- The remote announces "chat" with another data type than the handler takes. -/
def mismatchedChat : List EndpointAction :=
  [EndpointAction.addHandler "chat" 1 100, EndpointAction.syncMtr "chat" 200 20,
    EndpointAction.receive 20]

theorem hash_mismatch_handled :
    ¬ ∀ (typeHash : String → TypeHash) (actions : List EndpointAction) (final : Endpoint),
      run step (start typeHash) actions = some final →
        ∀ invocation ∈ final.invocations, invocation.Agrees := by
  intro claimed
  have handled : (run step (start coreTypeHash) mismatchedChat).map Endpoint.invocations =
      some [⟨⟨1, 100, "chat"⟩, ⟨"chat", 200, 20, false⟩, ⟨"chat", 100, 9, false⟩⟩] := by
    decide +kernel
  rcases Option.map_eq_some_iff.mp handled with ⟨final, runEq, invocations⟩
  have agrees := claimed coreTypeHash mismatchedChat final runEq _
    (invocations ▸ List.mem_singleton_self _)
  exact absurd agrees.type (by decide)

/-- The remote announces "chat" with the data type the handler takes. -/
def matchingChat : List EndpointAction :=
  [EndpointAction.syncMtr "chat" 100 20, EndpointAction.addHandler "chat" 1 100,
    EndpointAction.receive 20]

theorem matchingChat_consistent : Guarded step Consistent (start coreTypeHash) matchingChat := by
  have unknown : (start coreTypeHash).handler.localMtr.tryGetType "chat" = none := by
    decide +kernel
  have few : (start coreTypeHash).handler.localMtr.types.length < 65536 := by
    decide +kernel
  have announced : ∀ sender ∈
      ((start coreTypeHash).handler.onMsgSyncMtrReceived "chat" 100 20).remoteMtr.types,
        sender.name = "chat" → sender.typeHash = 100 := by
    decide +kernel
  rw [matchingChat, guarded_cons_iff]
  constructor
  · intro _ _ receiver data receiverFound
    rw [unknown] at receiverFound
    cases receiverFound
  · intro next stepEq
    cases stepEq
    rw [guarded_cons_iff]
    constructor
    · constructor
      · exact fun _ => few
      · rintro sender ⟨id, found⟩ senderName
        constructor
        · exact announced sender (MessageTypeRegistry.tryGetTypeById_id found).1 senderName
        · intro receiver receiverFound
          exact absurd (unknown.symm.trans receiverFound) (Option.some_ne_none receiver).symm
    · exact fun _ _ => guarded_cons_iff.mpr ⟨trivial, fun _ _ => guarded_nil _ _ _⟩

theorem invocations_agree_matchingChat :
    ∃ final, run step (start coreTypeHash) matchingChat = some final ∧
      final.invocations =
        [⟨⟨1, 100, "chat"⟩, ⟨"chat", 100, 20, false⟩, ⟨"chat", 100, 9, false⟩⟩] ∧
      ∀ invocation ∈ final.invocations, invocation.Agrees := by
  have handled : (run step (start coreTypeHash) matchingChat).map Endpoint.invocations =
      some [⟨⟨1, 100, "chat"⟩, ⟨"chat", 100, 20, false⟩, ⟨"chat", 100, 9, false⟩⟩] := by
    decide +kernel
  rcases Option.map_eq_some_iff.mp handled with ⟨final, runEq, invocations⟩
  exact ⟨final, runEq, invocations, invocations_agree matchingChat_consistent runEq⟩

end Example

end Endpoint

end VoxelEngine.ClientServer
