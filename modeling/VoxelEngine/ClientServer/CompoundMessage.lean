import VoxelEngine.ClientServer.MalformedInput

/-!
# Compound messages

A compound message is a byte string to whose end messages are added: the bytes of the message,
the number of its type and its size.  It is read in two places, both from the back: by the
handler for compound messages, which takes message after message, and by `pop_message`, which
computes how much is left without the last one.
-/

namespace VoxelEngine.ClientServer

open VoxelEngine.Serialize

/-- The size of a vector of bytes is below this. -/
def vectorLimit : Nat :=
  2 ^ 63

/-- A message that is added to a compound message, in serialized form. -/
structure SubMessage where
  id : MtrId
  body : Bytes
  addressable : body.length < vectorLimit

/-- What is added for a message. -/
def SubMessage.frame (message : SubMessage) : Bytes :=
  message.body ++ MessageHandler.idBytes message.id ++
    encodeVariableLength (UInt64.ofNat message.body.length)

/-- `compound_message` -/
@[ext]
structure CompoundMessage where
  data : Bytes
  addressable : data.length < vectorLimit

namespace CompoundMessage

/-- A message without parts. -/
def empty : CompoundMessage :=
  ⟨[], by decide⟩

/-- `push_message` of a message whose type has the number `id`; growing the vector beyond its
limit throws. -/
def pushMessage (compound : CompoundMessage) (message : SubMessage) : Option CompoundMessage :=
  if fits : (compound.data ++ message.frame).length < vectorLimit then
    some ⟨compound.data ++ message.frame, fits⟩
  else none

/-- Several calls of `push_message`. -/
def pushMessages (compound : CompoundMessage) (messages : List SubMessage) :
    Option CompoundMessage :=
  messages.foldlM pushMessage compound

theorem length_resized (data : Bytes) (size : Nat) :
    (data.take size ++ List.replicate (size - data.length) 0).length = size := by
  rw [List.length_append, List.length_take, List.length_replicate]
  omega

/-- `std::vector::resize` -/
def resize (compound : CompoundMessage) (size : UInt64) : Option CompoundMessage :=
  if fits : size.toNat < vectorLimit then
    some ⟨compound.data.take size.toNat ++
        List.replicate (size.toNat - compound.data.length) 0,
      by rw [length_resized]; exact fits⟩
  else none

/-- `pop_message`, whose arithmetic wraps around at 64 bits. -/
def popMessage (compound : CompoundMessage) : Option CompoundMessage :=
  (decodeVariableLength compound.data).bind fun size =>
    compound.resize (UInt64.ofNat compound.data.length - size.1 -
      UInt64.ofNat (compound.data.length - size.2.length) - 2)

/-- `on_msg_compound_received`, given what `on_message_received` does. -/
def onMsgCompoundReceived {σ : Type} (onMessageReceived : MtrId → Bytes → σ → Option σ)
    (compound : CompoundMessage) (state : σ) : Option σ :=
  forEachFrame onMessageReceived compound.data.length compound.data state

/-! ## Frames -/

/-- The frame at the end is the one that is read. -/
@[simp]
theorem popFrame_frame (rest : Bytes) (message : SubMessage) :
    popFrame (rest ++ message.frame) = some ((message.id, message.body), rest) := by
  have fits : message.body.length = (UInt64.ofNat message.body.length).toNat := by
    rw [UInt64.toNat_ofNat', Nat.mod_eq_of_lt]
    exact Nat.lt_trans message.addressable (by decide)
  apply popFrame_eq_some_iff.mpr
  refine ⟨_, _, lengthField_encodeVariableLength _, fits, ?_⟩
  rw [SubMessage.frame, List.append_assoc, List.append_assoc, List.append_assoc]

theorem length_frame_pos (message : SubMessage) : 0 < message.frame.length := by
  have size_pos := (lengthField_encodeVariableLength
    (UInt64.ofNat message.body.length)).length_pos
  rw [SubMessage.frame, List.length_append]
  omega

/-- The messages of a sequence of frames are handled from the last one to the first. -/
theorem forEachFrame_flatMap {σ : Type} (handle : MtrId → Bytes → σ → Option σ)
    (messages : List SubMessage) {limit : Nat}
    (enough : (messages.flatMap SubMessage.frame).length ≤ limit) (state : σ) :
    forEachFrame handle limit (messages.flatMap SubMessage.frame) state =
      messages.reverse.foldlM (fun current message => handle message.id message.body current)
        state := by
  induction messages using List.reverseRecOn generalizing limit state with
  | nil =>
      cases limit with
      | zero => rfl
      | succ limit => rfl
  | append_singleton messages message ih =>
      have frame_pos := length_frame_pos message
      rw [List.flatMap_append, List.flatMap_singleton, List.length_append] at enough
      cases limit with
      | zero => omega
      | succ limit =>
          have full : (messages.flatMap SubMessage.frame ++ message.frame).isEmpty = false := by
            rw [List.isEmpty_eq_false_iff]
            intro nothing
            have lengths := congrArg List.length nothing
            rw [List.length_append, List.length_nil] at lengths
            omega
          rw [List.flatMap_append, List.flatMap_singleton, forEachFrame, full,
            if_neg Bool.false_ne_true, popFrame_frame, Option.bind_some, List.reverse_append,
            List.reverse_singleton, List.singleton_append, List.foldlM_cons,
            Option.bind_eq_bind]
          apply congrArg
          funext next
          exact ih (by omega) next

/-! ## Adding and removing messages -/

theorem data_pushMessage {compound pushed : CompoundMessage} {message : SubMessage}
    (pushEq : compound.pushMessage message = some pushed) :
    pushed.data = compound.data ++ message.frame := by
  rw [pushMessage, Option.dite_none_right_eq_some] at pushEq
  rcases pushEq with ⟨fits, ⟨⟩⟩
  rfl

/-- A compound message holds the frames of the messages that were added, in order. -/
theorem data_pushMessages {compound pushed : CompoundMessage} {messages : List SubMessage}
    (pushEq : compound.pushMessages messages = some pushed) :
    pushed.data = compound.data ++ messages.flatMap SubMessage.frame := by
  rw [pushMessages] at pushEq
  induction messages generalizing compound with
  | nil =>
      cases pushEq
      rw [List.flatMap_nil, List.append_nil]
  | cons message messages ih =>
      rw [List.foldlM_cons, Option.bind_eq_bind] at pushEq
      rcases Option.bind_eq_some_iff.mp pushEq with ⟨next, first, rest⟩
      rw [ih rest, data_pushMessage first, List.append_assoc, List.flatMap_cons]

/-- Messages can be added as long as there is room for their frames. -/
theorem exists_pushMessages {compound : CompoundMessage} {messages : List SubMessage}
    (room : (compound.data ++ messages.flatMap SubMessage.frame).length < vectorLimit) :
    ∃ pushed, compound.pushMessages messages = some pushed := by
  induction messages generalizing compound with
  | nil => exact ⟨compound, rfl⟩
  | cons message messages ih =>
      rw [List.flatMap_cons, ← List.append_assoc] at room
      have fits : (compound.data ++ message.frame).length < vectorLimit := by
        rw [List.length_append] at room
        omega
      have first : compound.pushMessage message = some ⟨_, fits⟩ := dif_pos fits
      rcases @ih ⟨_, fits⟩ room with ⟨pushed, rest⟩
      refine ⟨pushed, ?_⟩
      rw [pushMessages, List.foldlM_cons, first]
      exact rest

/-- Shrinking keeps the front. -/
theorem resize_eq_some {compound rest : CompoundMessage} {gone : Bytes} {size : UInt64}
    (data_eq : compound.data = rest.data ++ gone) (left : size.toNat = rest.data.length) :
    compound.resize size = some rest := by
  have short : size.toNat < vectorLimit := by
    rw [left]
    exact rest.addressable
  rw [resize, dif_pos short, Option.some.injEq]
  ext1
  simp only [left, data_eq, List.take_left, List.length_append]
  simp

/-- Nothing wraps around as long as there is enough to remove. -/
theorem toNat_sub_sub_sub {total left size : Nat} {length : UInt64}
    (addressable : total < vectorLimit) (total_eq : total = left + length.toNat + 2 + size) :
    (UInt64.ofNat total - length - UInt64.ofNat size - 2).toNat = left := by
  have limit : vectorLimit = 2 ^ 63 := rfl
  rw [UInt64.toNat_sub, UInt64.toNat_sub, UInt64.toNat_sub, UInt64.toNat_ofNat',
    UInt64.toNat_ofNat']
  change (2 ^ 64 - 2 + _) % 2 ^ 64 = _
  omega

/-- Wherever the handler for compound messages can take a message, `pop_message` leaves what
the handler leaves. -/
theorem popMessage_of_popFrame {compound rest : CompoundMessage} {frame : MtrId × Bytes}
    (popped : popFrame compound.data = some (frame, rest.data)) :
    compound.popMessage = some rest := by
  rcases frame with ⟨id, message⟩
  rcases popFrame_eq_some_iff.mp popped with ⟨length, size, sized, fits, data_eq⟩
  have decoded : decodeVariableLength compound.data =
      some (length, rest.data ++ message ++ MessageHandler.idBytes id) := by
    rw [data_eq]
    exact recognizes_decodeVariableLength.read_append sized _
  have total : compound.data.length = rest.data.length + length.toNat + 2 + size.length := by
    rw [data_eq, List.length_append, List.length_append, List.length_append, fits,
      MessageHandler.idBytes, length_toLittleEndian]
  have taken : compound.data.length -
      (rest.data ++ message ++ MessageHandler.idBytes id).length = size.length := by
    rw [data_eq, List.length_append]
    omega
  rw [popMessage, decoded, Option.bind_some, taken]
  rw [List.append_assoc, List.append_assoc] at data_eq
  exact resize_eq_some data_eq (toNat_sub_sub_sub compound.addressable total)

/-- A message that was just added is the one that is read next, and removing it leaves what was
there before. -/
theorem popFrame_of_pushMessage {compound pushed : CompoundMessage} {message : SubMessage}
    (pushEq : compound.pushMessage message = some pushed) :
    popFrame pushed.data = some ((message.id, message.body), compound.data) ∧
      pushed.popMessage = some compound := by
  have popped : popFrame pushed.data = some ((message.id, message.body), compound.data) := by
    rw [data_pushMessage pushEq]
    exact popFrame_frame compound.data message
  exact ⟨popped, popMessage_of_popFrame popped⟩

/-- Whatever is done with received messages, a compound message hands over the messages that
were added to it, each once, with its number and its bytes, the last one first; and removing a
message that was just added restores the bytes that were there before. -/
theorem compound_laws :
    (∀ (σ : Type) (onMessageReceived : MtrId → Bytes → σ → Option σ)
        (messages : List SubMessage) (compound : CompoundMessage) (state : σ),
      empty.pushMessages messages = some compound →
        compound.onMsgCompoundReceived onMessageReceived state =
          messages.reverse.foldlM
            (fun current message => onMessageReceived message.id message.body current) state) ∧
    ∀ (compound pushed : CompoundMessage) (message : SubMessage),
      compound.pushMessage message = some pushed → pushed.popMessage = some compound := by
  constructor
  · intro σ onMessageReceived messages compound state pushEq
    have data : compound.data = messages.flatMap SubMessage.frame := data_pushMessages pushEq
    rw [CompoundMessage.onMsgCompoundReceived, data]
    exact forEachFrame_flatMap onMessageReceived messages (Nat.le_refl _) state
  · intro compound pushed message pushEq
    exact (popFrame_of_pushMessage pushEq).2

/-- Two messages, of which the first one is empty. -/
theorem compound_laws_two :
    ∃ compound single : CompoundMessage,
      empty.pushMessages [⟨4, [], by decide⟩, ⟨9, [1, 2], by decide⟩] = some compound ∧
        compound.onMsgCompoundReceived
            (fun id body handled => some (handled ++ [(id, body)])) [] =
          some [(9, [1, 2]), (4, [])] ∧
        empty.pushMessage ⟨4, [], by decide⟩ = some single ∧ single.popMessage = some empty := by
  rcases @exists_pushMessages empty [⟨4, [], by decide⟩, ⟨9, [1, 2], by decide⟩]
    (by decide +kernel) with ⟨compound, pushEq⟩
  have fits : (empty.data ++ SubMessage.frame ⟨4, [], by decide⟩).length < vectorLimit := by
    decide +kernel
  have singleEq : empty.pushMessage ⟨4, [], by decide⟩ = some ⟨_, fits⟩ := dif_pos fits
  refine ⟨compound, ⟨_, fits⟩, pushEq, ?_, singleEq, ?_⟩
  · exact compound_laws.1 _ (fun id body handled => some (handled ++ [(id, body)])) _ compound []
      pushEq
  · exact compound_laws.2 empty _ _ singleEq

end CompoundMessage

end VoxelEngine.ClientServer
