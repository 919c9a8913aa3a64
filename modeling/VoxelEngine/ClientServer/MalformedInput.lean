import VoxelEngine.ClientServer.MessageHandler
import VoxelEngine.Serialize.Shape

/-!
# Malformed input

The remote chooses every size that is read from a message: its type number, the element
counts of its containers, and in a compound message the sizes of the messages inside.  None
of the readers checks that there is enough to read.  Reading beyond the start of a span is
avoided exactly on well formed input: messages that end in a number, and, where they are
decoded at all, in the layout of the data type and, for a compound message, consist of
frames that are well formed in turn.
-/

namespace VoxelEngine.ClientServer

open VoxelEngine.Serialize

/-- `compound_message` has a single member, a vector of bytes. -/
def compoundShape : Shape :=
  Shape.product [Shape.pushBack (Shape.scalar 1)]

/-- `compound_message::data` -/
def compoundData {placements : Placements} (value : compoundShape.Value placements) : Bytes :=
  (value.1.val : List (Codec.ObjectBytes 1)).flatMap Subtype.val

/-- The byte string ends in the layout of a value of the type. -/
def EndsIn (placements : Placements) (shape : Shape) (source : Bytes) : Prop :=
  ∃ value rest used, shape.layout placements value used ∧ source = rest ++ used

@[simp]
theorem fromBytes_isSome_iff (placements : Placements) (shape : Shape) (source : Bytes) :
    (shape.fromBytes placements source).isSome = true ↔ EndsIn placements shape source :=
  (shape.recognizes_fromBytes placements).isSome_iff source

/-- Take the type number from the back of a message. -/
def popId : Reader UInt8 MtrId := fun source =>
  (popInteger 2 source).map fun result => (UInt16.ofNat result.1, result.2)

theorem recognizes_popId :
    Recognizes popId (fun id used => used = MessageHandler.idBytes id) := by
  have step := (recognizes_popInteger 2).map UInt16.ofNat
  intro source id rest
  apply (step source id rest).trans
  constructor
  · rintro ⟨used, ⟨value, ⟨fits, rfl⟩, rfl⟩, rfl⟩
    refine ⟨toLittleEndian 2 value, ?_, rfl⟩
    change toLittleEndian 2 value = MessageHandler.idBytes (UInt16.ofNat value)
    rw [MessageHandler.idBytes, UInt16.toNat_ofNat',
      Nat.mod_eq_of_lt (Nat.lt_of_lt_of_eq fits (by decide))]
  · rintro ⟨used, rfl, rfl⟩
    exact ⟨_, ⟨id.toNat, ⟨Nat.lt_of_lt_of_eq id.toNat_lt (by decide), rfl⟩,
      UInt16.ofNat_toNat⟩, rfl⟩

/-- One turn of the loop of `on_msg_compound_received`: the number and the data of the last
message. -/
def popFrame : Reader UInt8 (MtrId × Bytes) := fun span =>
  (decodeVariableLength span).bind fun size =>
    (popId size.2).bind fun type =>
      (takeBackN size.1.toNat type.2).map fun message => ((type.1, message.1), message.2)

/-- A message in a compound message is followed by the number of its type and its size. -/
theorem popFrame_eq_some_iff {span rest message : Bytes} {id : MtrId} :
    popFrame span = some ((id, message), rest) ↔
      ∃ length size, LengthField length size ∧ message.length = length.toNat ∧
        span = rest ++ message ++ MessageHandler.idBytes id ++ size := by
  have step := recognizes_decodeVariableLength.bind fun length : UInt64 =>
    recognizes_popId.bind fun id : MtrId =>
      (recognizes_takeBackN (β := UInt8) length.toNat).map fun message => (id, message)
  apply (step span (id, message) rest).trans
  constructor
  · rintro ⟨used, ⟨length, size, _, sized, ⟨_, _, _, rfl, ⟨inner, ⟨rfl, fits⟩, pair⟩, rfl⟩, rfl⟩,
      rfl⟩
    cases pair
    exact ⟨length, size, sized, fits, by simp⟩
  · rintro ⟨length, size, sized, fits, rfl⟩
    exact ⟨_, ⟨length, size, _, sized, ⟨id, _, message, rfl, ⟨message, ⟨rfl, fits⟩, rfl⟩, rfl⟩,
      rfl⟩, by simp⟩

section Frames

variable {σ : Type}

/-- The loop of `on_msg_compound_received`. -/
def forEachFrame (handle : MtrId → Bytes → σ → Option σ) :
    (limit : Nat) → Bytes → σ → Option σ
  | 0, span, state => if span.isEmpty then some state else none
  | limit + 1, span, state =>
      if span.isEmpty then some state
      else
        (popFrame span).bind fun frame =>
          (handle frame.1.1 frame.1.2 state).bind fun next =>
            forEachFrame handle limit frame.2 next

/-- The data of a compound message is a sequence of accepted messages, of which the last one
is handled first. -/
inductive Frames (accepts : MtrId → Bytes → σ → σ → Prop) : Bytes → σ → σ → Prop
  | done {state : σ} : Frames accepts [] state state
  | frame {rest message size : Bytes} {id : MtrId} {length : UInt64} {state next final : σ} :
      LengthField length size → message.length = length.toNat → accepts id message state next →
        Frames accepts rest next final →
          Frames accepts (rest ++ message ++ MessageHandler.idBytes id ++ size) state final

@[simp]
theorem frames_nil_iff {accepts : MtrId → Bytes → σ → σ → Prop} {state final : σ} :
    Frames accepts [] state final ↔ state = final := by
  constructor
  · intro frames
    generalize spanEq : ([] : Bytes) = span at frames
    cases frames with
    | done => rfl
    | frame sized => exact absurd spanEq (by simp [MessageHandler.idBytes, toLittleEndian])
  · rintro rfl
    exact Frames.done

/-- The loop gets through exactly the sequences of accepted messages. -/
theorem forEachFrame_eq_some_iff {handle : MtrId → Bytes → σ → Option σ}
    {accepts : MtrId → Bytes → σ → σ → Prop} {bound : Nat}
    (handles : ∀ id message state next, message.length < bound →
      (handle id message state = some next ↔ accepts id message state next))
    {limit : Nat} {span : Bytes} (enough : span.length ≤ limit) (short : span.length ≤ bound)
    {state final : σ} :
    forEachFrame handle limit span state = some final ↔ Frames accepts span state final := by
  induction limit generalizing span state with
  | zero =>
      rw [List.eq_nil_of_length_eq_zero (Nat.le_zero.mp enough), frames_nil_iff, forEachFrame,
        List.isEmpty_nil, if_pos rfl, Option.some.injEq]
  | succ limit ih =>
      rw [forEachFrame]
      by_cases empty : span = []
      · subst empty
        rw [List.isEmpty_nil, if_pos rfl, Option.some.injEq, frames_nil_iff]
      · rw [List.isEmpty_eq_false_iff.mpr empty, if_neg Bool.false_ne_true]
        constructor
        · intro result
          rcases Option.bind_eq_some_iff.mp result with ⟨⟨⟨id, message⟩, rest⟩, popped, handled⟩
          rcases Option.bind_eq_some_iff.mp handled with ⟨next, handleEq, loop⟩
          rcases popFrame_eq_some_iff.mp popped with ⟨length, size, sized, fits, rfl⟩
          have size_pos := sized.length_pos
          simp only [List.length_append] at enough short
          have rest_enough : rest.length ≤ limit := by omega
          have rest_short : rest.length ≤ bound := by omega
          apply Frames.frame sized fits
          · exact (handles id message state next (by omega)).mp handleEq
          · exact (ih rest_enough rest_short).mp loop
        · intro frames
          cases frames with
          | done => exact absurd rfl empty
          | @frame rest message size id length _ next _ sized fits accepted later =>
              have size_pos := sized.length_pos
              simp only [List.length_append] at enough short
              rw [popFrame_eq_some_iff.mpr ⟨length, size, sized, fits, rfl⟩, Option.bind_some,
                (handles id message state next (by omega)).mpr accepted, Option.bind_some]
              have rest_enough : rest.length ≤ limit := by omega
              have rest_short : rest.length ≤ bound := by omega
              exact (ih rest_enough rest_short).mpr later

end Frames

theorem length_flatMap_of_laid {size : Nat} {elements : List (Codec.ObjectBytes size)}
    {pieces : List Bytes}
    (laid : List.Forall₂ (fun value piece => piece = value.val) elements pieces) :
    (elements.flatMap Subtype.val).length = pieces.reverse.flatten.length := by
  induction laid with
  | nil => rfl
  | cons head _ ih =>
      rw [List.flatMap_cons, List.length_append, ih, head]
      simp [Nat.add_comm]

/-- A compound message is longer than the data it carries. -/
theorem compoundData_length_lt {placements : Placements}
    {value : compoundShape.Value placements} {used : Bytes}
    (laid : compoundShape.layout placements value used) :
    (compoundData value).length < used.length := by
  rcases laid with ⟨dataUsed, noneUsed, dataLaid, noneLaid, rfl⟩
  rcases dataLaid with ⟨elements, short, size, body, sized, ⟨pieces, laid, rfl⟩, rfl, built⟩
  have value_eq : value.1.val = elements := by
    rw [← built]
    exact (Codec.foldl_push_back [] elements).trans (List.nil_append _)
  have data_eq : compoundData value =
      (elements : List (Codec.ObjectBytes 1)).flatMap Subtype.val :=
    congrArg (fun values : List (Codec.ObjectBytes 1) => values.flatMap Subtype.val) value_eq
  have lengths := length_flatMap_of_laid laid
  have size_pos := sized.length_pos
  rw [data_eq, lengths]
  simp only [List.length_append]
  omega

/-- The program around a message handler: its data types, what its handlers do and which
byte strings inside a message they decode in turn, and the transport. -/
structure Application (W : Type) where
  placements : Placements
  compoundType : TypeHash
  otherShape : TypeHash → Shape
  compoundHandler : HandlerId
  nestedData : HandlerId → Bytes → MessageHandler × W → List (Shape × Bytes)
  behaviour : HandlerId → Bytes → MessageHandler × W → MessageHandler × W
  sendMessage : Bytes → MessageHandler × W → MessageHandler × W

/-- The message handler and the rest of the program. -/
def Connection.state {V W : Type} (connection : Connection V W) : MessageHandler × W :=
  (connection.handler, connection.rest)

/-- The first handler acts before the others do. -/
theorem invokeAll_cons {V W : Type} (environment : Environment V W) (value : V)
    (added : AddedHandler) (others : List AddedHandler) (connection : Connection V W) :
    (Connection.invokeAll environment value (added :: others) connection).map
        Connection.state =
      (environment.behaviour added.id value connection.state).bind fun next =>
        (Connection.invokeAll environment value others
          ⟨next.1, next.2, connection.invoked ++ [(added.id, value)]⟩).map Connection.state := by
  rw [Connection.invokeAll, Connection.act, Option.bind_map, Option.map_bind]
  rfl

/-- `on_message_received(id, std::span<const u8>)`, without keeping track of the handlers that
are invoked. -/
def Environment.receive {V W : Type} (environment : Environment V W) (id : MtrId)
    (message : Bytes) (state : MessageHandler × W) : Option (MessageHandler × W) :=
  (Connection.onBytesReceived environment id message ⟨state.1, state.2, []⟩).map
    Connection.state

namespace Application

variable {W : Type} (application : Application W)

/-- The data of a compound message, for the handler that goes through it. -/
def carriedTo (id : HandlerId) (carried : Option Bytes) : Option Bytes :=
  if id = application.compoundHandler then carried else none

/-- What handlers do with a message, given what is done with the data of a compound message.
Reading beyond the start of a span is a failure. -/
def environmentWith (onCompound : Bytes → MessageHandler × W → Option (MessageHandler × W)) :
    Environment (Bytes × Option Bytes) W where
  fromBytes type source :=
    if type = application.compoundType then
      (compoundShape.fromBytes application.placements source).map fun value =>
        ((source, some (compoundData value.1)), value.2)
    else
      ((application.otherShape type).fromBytes application.placements source).map fun value =>
        ((source, none), value.2)
  behaviour id value state :=
    match application.carriedTo id value.2 with
    | some data => onCompound data state
    | none =>
        if (application.nestedData id value.1 state).all fun nested =>
            (nested.1.fromBytes application.placements nested.2).isSome then
          some (application.behaviour id value.1 state)
        else none
  sendMessage message state := some (application.sendMessage message state)

/-- What handlers do with a message in which compound messages are nested to some depth. -/
def environment : (depth : Nat) → Environment (Bytes × Option Bytes) W
  | 0 => application.environmentWith fun _ _ => none
  | depth + 1 =>
      application.environmentWith fun data state =>
        forEachFrame (environment depth).receive data.length data state

/-- `on_message_received(std::span<const u8>)`.  The nesting of compound messages is bounded
by their length. -/
def onMessageReceived (data : Bytes) (connection : Connection (Bytes × Option Bytes) W) :
    Option (Connection (Bytes × Option Bytes) W) :=
  Connection.onMessageReceived (application.environment data.length) data connection

/-- The message ends in the layout of its data type; a compound message carries data. -/
inductive Decoded (type : TypeHash) (message : Bytes) : Option Bytes → Prop
  | compound {value : compoundShape.Value application.placements} {rest used : Bytes} :
      type = application.compoundType →
        compoundShape.layout application.placements value used → message = rest ++ used →
          Decoded type message (some (compoundData value))
  | other :
      type ≠ application.compoundType →
        EndsIn application.placements (application.otherShape type) message →
          Decoded type message none

mutual

/-- The data of a message is well formed for the state in which it arrives; handling it
leads to another state. -/
inductive Accepted : MtrId → Bytes → MessageHandler × W → MessageHandler × W → Prop
  | queued {id : MtrId} {message : Bytes} {state : MessageHandler × W} :
      state.1.useQueue = true →
        Accepted id message state
          ({ state.1 with
            readQueue := MessageHandler.enqueue state.1.readQueue message id }, state.2)
  | ignored {id : MtrId} {message : Bytes} {state : MessageHandler × W} :
      state.1.useQueue = false → state.1.handlersFor id = none →
        Accepted id message state state
  | handled {id : MtrId} {message : Bytes} {state final : MessageHandler × W}
      {data : HandlerData} {carried : Option Bytes} :
      state.1.useQueue = false → state.1.handlersFor id = some data →
        application.Decoded data.dataType message carried →
          Invoked message carried data.handlers state final → Accepted id message state final

/-- The handlers of a message can all decode what they decode of it. -/
inductive Invoked :
    Bytes → Option Bytes → List AddedHandler → MessageHandler × W → MessageHandler × W → Prop
  | done {message : Bytes} {carried : Option Bytes} {state : MessageHandler × W} :
      Invoked message carried [] state state
  | compound {message data : Bytes} {carried : Option Bytes} {added : AddedHandler}
      {others : List AddedHandler} {state next final : MessageHandler × W} :
      application.carriedTo added.id carried = some data → Frames Accepted data state next →
        Invoked message carried others next final →
          Invoked message carried (added :: others) state final
  | other {message : Bytes} {carried : Option Bytes} {added : AddedHandler}
      {others : List AddedHandler} {state final : MessageHandler × W} :
      application.carriedTo added.id carried = none →
        (∀ nested ∈ application.nestedData added.id message state,
          EndsIn application.placements nested.1 nested.2) →
          Invoked message carried others (application.behaviour added.id message state) final →
            Invoked message carried (added :: others) state final

end

variable {application}

theorem carriedTo_eq_some {id : HandlerId} {carried : Option Bytes} {data : Bytes}
    (carriedEq : application.carriedTo id carried = some data) : carried = some data := by
  unfold carriedTo at carriedEq
  split at carriedEq
  · exact carriedEq
  · cases carriedEq

/-- Decoding succeeds exactly on messages that end in the layout of their data type. -/
theorem fromBytes_eq_some_iff
    {onCompound : Bytes → MessageHandler × W → Option (MessageHandler × W)} {type : TypeHash}
    {source message : Bytes} {carried : Option Bytes} :
    (∃ left, (application.environmentWith onCompound).fromBytes type source =
        some ((message, carried), left)) ↔
      message = source ∧ application.Decoded type source carried := by
  by_cases compound : type = application.compoundType
  · simp only [environmentWith, if_pos compound, Option.map_eq_some_iff]
    constructor
    · rintro ⟨left, ⟨value, rest⟩, decoded, same⟩
      cases same
      rcases (compoundShape.recognizes_fromBytes application.placements _ _ _).mp decoded with
        ⟨used, laid, eq⟩
      exact ⟨rfl, Decoded.compound compound laid eq⟩
    · rintro ⟨rfl, decoded⟩
      cases decoded with
      | @compound value rest used _ laid eq =>
          exact ⟨rest, (value, rest),
            (compoundShape.recognizes_fromBytes application.placements _ _ _).mpr
              ⟨used, laid, eq⟩, rfl⟩
      | other ne => exact absurd compound ne
  · simp only [environmentWith, if_neg compound, Option.map_eq_some_iff]
    constructor
    · rintro ⟨left, result, decoded, same⟩
      cases same
      refine ⟨rfl, Decoded.other compound ?_⟩
      rw [← fromBytes_isSome_iff, decoded]
      rfl
    · rintro ⟨rfl, decoded⟩
      cases decoded with
      | compound eq => exact absurd eq compound
      | other _ ends =>
          rw [← fromBytes_isSome_iff, Option.isSome_iff_exists] at ends
          rcases ends with ⟨result, decoded⟩
          exact ⟨result.2, result, decoded, rfl⟩

theorem Decoded.length_lt {type : TypeHash} {message : Bytes} {carried : Option Bytes}
    (decoded : application.Decoded type message carried) {data : Bytes}
    (same : carried = some data) : data.length < message.length := by
  cases decoded with
  | @compound value rest used _ laid eq =>
      cases same
      have shorter := compoundData_length_lt laid
      rw [eq, List.length_append]
      omega
  | other => cases same

/-- A handler goes through the data of a compound message, or decodes what it decodes. -/
theorem behaviour_eq_some_iff
    {onCompound : Bytes → MessageHandler × W → Option (MessageHandler × W)} {id : HandlerId}
    {message : Bytes} {carried : Option Bytes} {state next : MessageHandler × W} :
    (application.environmentWith onCompound).behaviour id (message, carried) state = some next ↔
      (∃ data, application.carriedTo id carried = some data ∧ onCompound data state = some next) ∨
        application.carriedTo id carried = none ∧
          (∀ nested ∈ application.nestedData id message state,
            EndsIn application.placements nested.1 nested.2) ∧
            application.behaviour id message state = next := by
  cases carriedEq : application.carriedTo id carried with
  | some data => simp [environmentWith, carriedEq]
  | none => simp [environmentWith, carriedEq, ← fromBytes_isSome_iff]

/-- Invoking the handlers succeeds exactly when all of them can decode what they decode. -/
theorem invokeAll_eq_some_iff
    {onCompound : Bytes → MessageHandler × W → Option (MessageHandler × W)}
    {message : Bytes} {carried : Option Bytes}
    (frames : ∀ data, carried = some data → ∀ state next,
      onCompound data state = some next ↔ Frames application.Accepted data state next)
    {handlers : List AddedHandler} {connection : Connection (Bytes × Option Bytes) W}
    {final : MessageHandler × W} :
    (Connection.invokeAll (application.environmentWith onCompound) (message, carried) handlers
        connection).map Connection.state = some final ↔
      application.Invoked message carried handlers connection.state final := by
  induction handlers generalizing connection with
  | nil =>
      constructor
      · intro invoked
        cases invoked
        exact Invoked.done
      · intro invoked
        cases invoked
        rfl
  | cons added others ih =>
      rw [invokeAll_cons, Option.bind_eq_some_iff]
      simp only [behaviour_eq_some_iff]
      constructor
      · rintro ⟨next, ⟨data, carriedEq, framesEq⟩ | ⟨carriedEq, decoded, rfl⟩, rest⟩
        · apply Invoked.compound carriedEq
          · exact (frames data (carriedTo_eq_some carriedEq) _ _).mp framesEq
          · exact ih.mp rest
        · exact Invoked.other carriedEq decoded (ih.mp rest)
      · intro invoked
        cases invoked with
        | compound carriedEq framesEq rest =>
            refine ⟨_, Or.inl ⟨_, carriedEq, ?_⟩, ih.mpr rest⟩
            exact (frames _ (carriedTo_eq_some carriedEq) _ _).mpr framesEq
        | other carriedEq decoded rest =>
            exact ⟨_, Or.inr ⟨carriedEq, decoded, rfl⟩, ih.mpr rest⟩

/-- Receiving a message succeeds exactly when it is accepted, if this is so for the data of
compound messages in it. -/
theorem onBytesReceived_of_frames
    {onCompound : Bytes → MessageHandler × W → Option (MessageHandler × W)} {message : Bytes}
    (frames : ∀ data : Bytes, data.length < message.length → ∀ state next,
      onCompound data state = some next ↔ Frames application.Accepted data state next)
    {id : MtrId} {connection : Connection (Bytes × Option Bytes) W}
    {final : MessageHandler × W} :
    (Connection.onBytesReceived (application.environmentWith onCompound) id message
        connection).map Connection.state = some final ↔
      application.Accepted id message connection.state final := by
  unfold Connection.onBytesReceived
  by_cases queueing : connection.handler.useQueue = true
  · rw [if_pos queueing]
    constructor
    · intro received
      cases received
      exact Accepted.queued queueing
    · intro accepted
      cases accepted with
      | queued => rfl
      | ignored off => exact absurd (queueing.symm.trans off) (by decide)
      | handled off => exact absurd (queueing.symm.trans off) (by decide)
  · rw [if_neg queueing, Connection.onMessageReceivedCommon]
    have off : connection.state.1.useQueue = false := Bool.eq_false_iff.mpr queueing
    cases found : connection.handler.handlersFor id with
    | none =>
        constructor
        · intro received
          cases received
          exact Accepted.ignored off found
        · intro accepted
          cases accepted with
          | queued on => exact absurd (on.symm.trans off) (by decide)
          | ignored => rfl
          | handled _ handlers => exact absurd (found.symm.trans handlers) (by simp)
    | some data =>
        dsimp only
        rw [Connection.handleBytes, Option.map_bind, Option.bind_eq_some_iff]
        constructor
        · rintro ⟨⟨⟨source, carried⟩, left⟩, decoded, invoked⟩
          rcases fromBytes_eq_some_iff.mp ⟨left, decoded⟩ with ⟨rfl, decoded⟩
          apply Accepted.handled off found decoded
          exact (invokeAll_eq_some_iff
            (fun _ same => frames _ (decoded.length_lt same))).mp invoked
        · intro accepted
          cases accepted with
          | queued on => exact absurd (on.symm.trans off) (by decide)
          | ignored _ missing => exact absurd (found.symm.trans missing) (by simp)
          | handled _ handlers decoded invoked =>
              cases Option.some.inj (found.symm.trans handlers)
              rcases fromBytes_eq_some_iff.mpr ⟨rfl, decoded⟩ with ⟨left, decodeEq⟩
              refine ⟨_, decodeEq, ?_⟩
              exact (invokeAll_eq_some_iff
                (fun _ same => frames _ (decoded.length_lt same))).mpr invoked

/-- Messages are accepted whatever the nesting, as long as the bound on it is not less than
their length. -/
theorem onBytesReceived_eq_some_iff {depth : Nat} {message : Bytes}
    (enough : message.length ≤ depth) {id : MtrId}
    {connection : Connection (Bytes × Option Bytes) W} {final : MessageHandler × W} :
    (Connection.onBytesReceived (application.environment depth) id message connection).map
        Connection.state = some final ↔
      application.Accepted id message connection.state final := by
  induction depth generalizing message id connection final with
  | zero =>
      apply onBytesReceived_of_frames
      intro data shorter
      omega
  | succ depth ih =>
      apply onBytesReceived_of_frames
      intro data shorter state next
      refine forEachFrame_eq_some_iff ?_ (Nat.le_refl data.length) (Nat.le_refl data.length)
      intro innerId inner before after innerShorter
      exact ih (by omega)

/-- No byte is read beyond the start of a span exactly when the input ends in a number and
what stands before it is well formed. -/
theorem onMessageReceived_isSome_iff (data : Bytes)
    (connection : Connection (Bytes × Option Bytes) W) :
    (application.onMessageReceived data connection).isSome = true ↔
      ∃ message id final, data = message ++ MessageHandler.idBytes id ∧
        application.Accepted id message connection.state final := by
  rw [onMessageReceived, Connection.onMessageReceived, Option.isSome_iff_exists]
  constructor
  · rintro ⟨received, receivedEq⟩
    rcases Option.bind_eq_some_iff.mp receivedEq with ⟨⟨value, message⟩, popped, handled⟩
    rcases (recognizes_popId data (UInt16.ofNat value) message).mp
      (by rw [popId, popped, Option.map_some]) with ⟨used, rfl, rfl⟩
    refine ⟨message, UInt16.ofNat value, received.state, rfl, ?_⟩
    apply (onBytesReceived_eq_some_iff _).mp
    · rw [handled, Option.map_some]
    · simp
  · rintro ⟨message, id, final, rfl, accepted⟩
    have enough : message.length ≤ (message ++ MessageHandler.idBytes id).length := by simp
    rcases Option.map_eq_some_iff.mp ((onBytesReceived_eq_some_iff enough).mpr accepted) with
      ⟨received, receivedEq, _⟩
    refine ⟨received, Option.bind_eq_some_iff.mpr ⟨(id.toNat, message), ?_, ?_⟩⟩
    · exact popInteger_append (Nat.lt_of_lt_of_eq id.toNat_lt (by decide)) message
    · rw [UInt16.ofNat_toNat]
      exact receivedEq

section Example

/-- Nothing but compound messages is handled. -/
def compoundApplication : Application Unit where
  placements _ _ := Codec.Placement.atEnd
  compoundType := 11
  otherShape _ := Shape.product []
  compoundHandler := 2
  nestedData _ _ _ := []
  behaviour _ _ state := state
  sendMessage _ state := state

/-- A connection as it is after its construction, with the handler for compound messages. -/
def compoundConnection : Connection (Bytes × Option Bytes) Unit where
  handler :=
    ((MessageHandler.start fun name => UInt64.ofNat name.length).addHandler
      "ve.compound" 2 11).getD (MessageHandler.start fun _ => 0)
  rest := ()
  invoked := []

/-- A compound message with the single byte 5, which does not end a size. -/
theorem endless_size_read :
    ¬ ∀ (W : Type) (application : Application W) (data : Bytes)
        (connection : Connection (Bytes × Option Bytes) W),
      (application.onMessageReceived data connection).isSome = true := by
  intro claimed
  have received := claimed Unit compoundApplication [5, 129, 2, 0] compoundConnection
  have beyond : (compoundApplication.onMessageReceived [5, 129, 2, 0]
      compoundConnection).isSome = false := by
    decide +kernel
  rw [beyond] at received
  cases received

/-- An empty message inside a compound message is well formed. -/
example : (compoundApplication.onMessageReceived [128, 0, 1, 131, 2, 0]
    compoundConnection).isSome = true := by
  decide +kernel

end Example

end Application

end VoxelEngine.ClientServer
