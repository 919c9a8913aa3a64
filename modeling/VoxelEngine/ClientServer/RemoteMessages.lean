import VoxelEngine.ClientServer.MessageHandler
import VoxelEngine.ClientServer.MessageTypeTables
import VoxelEngine.Serialize.Containers

/-!
# Messages for a remote

What a message handler hands to its session.  A type that the remote cannot know is announced
before its first message.  The list of all that was handed over can be read from front to back:
the type of each message is a core type or was announced before.
-/

namespace VoxelEngine.ClientServer

open VoxelEngine.Serialize

/-! ## Announcements -/

/-- The codec of a `mtr_sync_message`. -/
abbrev mtrSyncCodec :
    Codec
      (Codec.Sized (Codec.ObjectBytes 1) × Codec.ObjectBytes 8 × Codec.ObjectBytes 2 × Unit) :=
  Codec.member (Codec.container (Codec.pushBack (Codec.scalar 1)))
    (Codec.member (Codec.scalar 8) (Codec.member (Codec.scalar 2) Codec.noMembers))

/-- The characters of a `std::string`. -/
def nameCharacters (name : String) : List (Codec.ObjectBytes 1) :=
  name.toUTF8.data.toList.map fun byte => ⟨[byte], rfl⟩

/-- The name with these characters. -/
def ofCharacters (characters : List (Codec.ObjectBytes 1)) : Option String :=
  String.fromUTF8? ⟨(characters.flatMap Subtype.val).toArray⟩

/-- The name is short enough for a `std::string`. -/
def ShortName (name : String) : Prop :=
  (nameCharacters name).length < 2 ^ 64

instance (name : String) : Decidable (ShortName name) :=
  inferInstanceAs (Decidable (_ < _))

namespace MtrSyncMessage

/-- The members of an announcement.  A longer name does not exist. -/
def members (msg : MtrSyncMessage) :
    Codec.Sized (Codec.ObjectBytes 1) × Codec.ObjectBytes 8 × Codec.ObjectBytes 2 × Unit :=
  (if short : ShortName msg.name then ⟨nameCharacters msg.name, short⟩
    else ⟨[], Nat.two_pow_pos 64⟩,
    ⟨toLittleEndian 8 msg.typeHash.toNat, length_toLittleEndian 8 _⟩,
    ⟨toLittleEndian 2 msg.id.toNat, length_toLittleEndian 2 _⟩, ())

/-- `to_bytes` -/
def toBytes (msg : MtrSyncMessage) : Bytes :=
  mtrSyncCodec.toBytes msg.members

/-- `from_bytes` -/
def fromBytes (data : Bytes) : Option MtrSyncMessage :=
  (mtrSyncCodec.fromBytes data).bind fun result =>
    (ofCharacters result.1.1.val).map fun name =>
      ⟨name, UInt64.ofNat (ofLittleEndian result.1.2.1.val),
        UInt16.ofNat (ofLittleEndian result.1.2.2.1.val)⟩

end MtrSyncMessage

@[simp]
theorem ofCharacters_nameCharacters (name : String) :
    ofCharacters (nameCharacters name) = some name := by
  have bytes_eq : (nameCharacters name).flatMap Subtype.val = name.toByteArray.data.toList := by
    rw [nameCharacters, List.flatMap_map]
    exact List.flatMap_singleton' _
  rw [ofCharacters, bytes_eq, Array.toArray_toList]
  exact dif_pos name.isValidUTF8

/-- Characters that are the same one by one. -/
theorem eq_of_sameSequence_scalar {size : Nat} {firsts seconds : List (Codec.ObjectBytes size)}
    (same : Codec.sameSequence (Codec.scalar size) firsts seconds = true) : firsts = seconds := by
  rw [Codec.sameSequence_iff] at same
  rw [← List.forall₂_eq_eq_eq]
  apply same.imp
  intro first second equal
  exact Subtype.ext (beq_iff_eq.mp equal)

/-- An announcement is read as it was written. -/
theorem MtrSyncMessage.fromBytes_toBytes {msg : MtrSyncMessage} (short : ShortName msg.name) :
    fromBytes msg.toBytes = some msg := by
  rcases mtrSyncCodec.fromBytes_append_toBytes msg.members [] with ⟨decoded, read, same⟩
  have decoded_eq : decoded = msg.members := by
    rcases decoded with ⟨name, typeHash, id, _⟩
    simp only [Codec.member, Bool.and_eq_true] at same
    rcases same with ⟨nameSame, hashSame, idSame, _⟩
    have name_eq : msg.members.1 = name := Subtype.ext (eq_of_sameSequence_scalar nameSame)
    have hash_eq : msg.members.2.1 = typeHash := Subtype.ext (beq_iff_eq.mp hashSame)
    have id_eq : msg.members.2.2.1 = id := Subtype.ext (beq_iff_eq.mp idSame)
    rw [← name_eq, ← hash_eq, ← id_eq]
  rw [List.nil_append, decoded_eq] at read
  rw [fromBytes, toBytes, read, Option.bind_some]
  have hash_lt : msg.typeHash.toNat < 256 ^ 8 :=
    Nat.lt_of_lt_of_eq msg.typeHash.toNat_lt (by decide)
  have id_lt : msg.id.toNat < 256 ^ 2 := Nat.lt_of_lt_of_eq msg.id.toNat_lt (by decide)
  simp only [members, dif_pos short, ofCharacters_nameCharacters, ofLittleEndian_toLittleEndian,
    Option.map_some, Option.some.injEq]
  rw [Nat.mod_eq_of_lt hash_lt, Nat.mod_eq_of_lt id_lt, UInt64.ofNat_toNat, UInt16.ofNat_toNat]

/-- Types are not removed. -/
theorem length_registerType_le (registry : MessageTypeRegistry) (name : String)
    (typeHash : TypeHash) :
    registry.types.length ≤
      ((registry.registerType name typeHash false).getD registry).types.length := by
  cases registered : registry.registerType name typeHash false with
  | none => exact Nat.le_refl _
  | some next =>
      rw [Option.getD_some, (MessageTypeRegistry.registerType_eq_some registered).2.1,
        List.length_append]
      exact Nat.le_add_right _ _

/-! ## Sending -/

/-- The name of the type of announcements. -/
def mtrSyncName : String :=
  "ve.sync_mtr"

/-- The part of a `message_handler` that sends. -/
structure MessageSender where
  localMtr : MessageTypeRegistry
  publishedTypes : List MtrId

/-- The bytes of a message: those of its value, and the number of its type. -/
def packMessage (data : Bytes) (id : MtrId) : Bytes :=
  data ++ MessageHandler.idBytes id

namespace MessageSender

/-- `register_message_type_local` -/
def registerMessageTypeLocal (sender : MessageSender) (name : String) (typeHash : TypeHash) :
    MessageSender :=
  { sender with
    localMtr := (sender.localMtr.registerType name typeHash false).getD sender.localMtr }

/-- `register_message_type_remote`, with the messages that it sends. -/
def registerMessageTypeRemote (sender : MessageSender) (id : MtrId) :
    Option (MessageSender × List Bytes) :=
  (sender.localMtr.tryGetTypeById id).bind fun type =>
    if type.id ∈ sender.publishedTypes then some (sender, [])
    else if type.isCore then some (sender, [])
    else
      (sender.localMtr.tryGetType mtrSyncName).map fun mtrSync =>
        ({ sender with publishedTypes := type.id :: sender.publishedTypes },
          [packMessage (MtrSyncMessage.toBytes ⟨type.name, type.typeHash, type.id⟩) mtrSync.id])

/-- `send_message` under a number. -/
def sendMessageById (sender : MessageSender) (id : MtrId) (data : Bytes) :
    Option (MessageSender × List Bytes) :=
  (sender.registerMessageTypeRemote id).map fun announced =>
    (announced.1, announced.2 ++ [packMessage data id])

/-- `send_message` under a name. -/
def sendMessage (sender : MessageSender) (name : String) (typeHash : TypeHash) (data : Bytes) :
    Option (MessageSender × List Bytes) :=
  let registered := sender.registerMessageTypeLocal name typeHash
  (registered.localMtr.tryGetType name).bind fun type => registered.sendMessageById type.id data

end MessageSender

/-! ## What was handed over -/

/-- A message that was handed to the session. -/
inductive WrittenMessage where
  | announce (type : MessageType)
  | carry (type : MessageType) (data : Bytes)

namespace WrittenMessage

/-- Announcements have the number of the first core type. -/
def bytes : WrittenMessage → Bytes
  | announce type =>
      packMessage (MtrSyncMessage.toBytes ⟨type.name, type.typeHash, type.id⟩) 0
  | carry type data => packMessage data type.id

def announced : WrittenMessage → Option MessageType
  | announce type => some type
  | carry _ _ => none

def carried : WrittenMessage → Option (String × Bytes)
  | announce _ => none
  | carry type data => some (type.name, data)

/-- Whoever knows some types can read a list of messages. -/
def Readable (known : List MessageType) : List WrittenMessage → Prop
  | [] => True
  | announce type :: rest =>
      type.isCore = false ∧ type.name ∉ known.map MessageType.name ∧
        Readable (known ++ [type]) rest
  | carry type _ :: rest => type ∈ known ∧ type.name ≠ mtrSyncName ∧ Readable known rest

@[simp]
theorem readable_append (known : List MessageType) (first second : List WrittenMessage) :
    Readable known (first ++ second) ↔
      Readable known first ∧ Readable (known ++ first.filterMap announced) second := by
  induction first generalizing known with
  | nil => simp [Readable]
  | cons item rest ih =>
      cases item with
      | announce type =>
          rw [List.cons_append, Readable, Readable, ih, List.filterMap_cons, announced,
            List.append_assoc, List.singleton_append, and_assoc, and_assoc]
      | carry type data =>
          rw [List.cons_append, Readable, Readable, ih, List.filterMap_cons, announced, and_assoc,
            and_assoc]

@[simp]
theorem mem_filterMap_announced {type : MessageType} {outbox : List WrittenMessage} :
    type ∈ outbox.filterMap announced ↔ announce type ∈ outbox := by
  rw [List.mem_filterMap]
  constructor
  · rintro ⟨item, mem, announcedEq⟩
    cases item with
    | announce other =>
        cases announcedEq
        exact mem
    | carry other data => cases announcedEq
  · intro mem
    exact ⟨_, mem, rfl⟩

end WrittenMessage

namespace MessageSender

/-- What a sender knows about its remote, whose types are the core types at first. -/
structure Announces (core : List MessageType) (outbox : List WrittenMessage)
    (sender : MessageSender) : Prop where
  numbered : sender.localMtr.Numbered
  core_prefix : core <+: sender.localMtr.types
  isCore_iff : ∀ type ∈ sender.localMtr.types, type.isCore = true ↔ type ∈ core
  sync : ∃ mtrSync ∈ core, mtrSync.name = mtrSyncName ∧ mtrSync.id = 0
  published : ∀ id, id ∈ sender.publishedTypes ↔
    ∃ type ∈ outbox.filterMap WrittenMessage.announced, type.id = id
  known : ∀ type ∈ outbox.filterMap WrittenMessage.announced, type ∈ sender.localMtr.types
  readable : WrittenMessage.Readable core outbox

variable {core : List MessageType} {outbox : List WrittenMessage} {sender next : MessageSender}
  {messages : List Bytes}

/-- All that the remote may know is known here. -/
theorem Announces.mem_types (announces : sender.Announces core outbox) {type : MessageType}
    (mem : type ∈ core ++ outbox.filterMap WrittenMessage.announced) :
    type ∈ sender.localMtr.types := by
  rcases List.mem_append.mp mem with inCore | later
  · exact announces.core_prefix.subset inCore
  · exact announces.known type later

/-- A registered name is found. -/
theorem tryGetType_of_mem {registry : MessageTypeRegistry} {type : MessageType}
    (mem : type ∈ registry.types) : registry.tryGetType type.name = some type := by
  cases found : registry.tryGetType type.name with
  | none =>
      rw [MessageTypeRegistry.tryGetType_eq_none_iff] at found
      exact absurd (List.mem_map_of_mem mem) found
  | some other =>
      rcases MessageTypeRegistry.tryGetType_name found with ⟨otherMem, name_eq⟩
      rw [List.inj_on_of_nodup_map registry.distinct otherMem mem name_eq]

theorem Announces.registerMessageTypeLocal (announces : sender.Announces core outbox)
    (name : String) (typeHash : TypeHash) :
    (sender.registerMessageTypeLocal name typeHash).Announces core outbox := by
  rw [MessageSender.registerMessageTypeLocal]
  cases registered : sender.localMtr.registerType name typeHash false with
  | none => exact announces
  | some registry =>
      rcases MessageTypeRegistry.registerType_eq_some registered with ⟨fresh, types_eq, _⟩
      rw [MessageTypeRegistry.tryGetType_eq_none_iff] at fresh
      rw [Option.getD_some]
      refine { announces with
        numbered := announces.numbered.registerType registered, core_prefix := ?_, isCore_iff := ?_,
        known := ?_ }
      · simp only [types_eq]
        exact announces.core_prefix.trans (List.prefix_append _ _)
      · intro type mem
        simp only [types_eq] at mem
        rcases List.mem_append.mp mem with old | new
        · exact announces.isCore_iff type old
        · rw [List.mem_singleton.mp new]
          apply iff_of_false Bool.false_ne_true
          intro inCore
          exact fresh (List.mem_map_of_mem (announces.core_prefix.subset inCore))
      · intro type mem
        simp only [types_eq]
        exact List.mem_append_left _ (announces.known type mem)

/-- Once a type is published, its messages can be read. -/
theorem Announces.registerMessageTypeRemote (announces : sender.Announces core outbox)
    (few : sender.localMtr.types.length ≤ 65536) {id : MtrId}
    (registerEq : sender.registerMessageTypeRemote id = some (next, messages)) :
    ∃ type items, sender.localMtr.tryGetTypeById id = some type ∧
      messages = items.map WrittenMessage.bytes ∧ items.filterMap WrittenMessage.carried = [] ∧
      next.localMtr = sender.localMtr ∧ next.Announces core (outbox ++ items) ∧
      type ∈ core ++ (outbox ++ items).filterMap WrittenMessage.announced := by
  rw [MessageSender.registerMessageTypeRemote] at registerEq
  rcases Option.bind_eq_some_iff.mp registerEq with ⟨type, typeEq, registerEq⟩
  rcases MessageTypeRegistry.tryGetTypeById_id typeEq with ⟨mem, _⟩
  split at registerEq
  · rename_i published
    cases registerEq
    rcases (announces.published type.id).mp published with ⟨other, otherMem, id_eq⟩
    have other_eq : other = type :=
      announces.numbered.eq_of_id_eq few (announces.known other otherMem) mem id_eq
    refine ⟨type, [], typeEq, rfl, rfl, rfl, ?_, ?_⟩
    · rw [List.append_nil]
      exact announces
    · rw [List.append_nil]
      exact List.mem_append_right _ (other_eq ▸ otherMem)
  · rename_i unpublished
    split at registerEq
    · rename_i isCore
      cases registerEq
      refine ⟨type, [], typeEq, rfl, rfl, rfl, ?_, ?_⟩
      · rw [List.append_nil]
        exact announces
      · exact List.mem_append_left _ ((announces.isCore_iff type mem).mp isCore)
    · rename_i notCore
      rcases announces.sync with ⟨mtrSync, syncMem, syncName, syncId⟩
      have syncEq := tryGetType_of_mem (announces.core_prefix.subset syncMem)
      rw [syncName] at syncEq
      rw [syncEq, Option.map_some, syncId] at registerEq
      cases registerEq
      have fresh : type.name ∉
          (core ++ outbox.filterMap WrittenMessage.announced).map MessageType.name := by
        intro named
        rcases List.mem_map.mp named with ⟨other, otherMem, name_eq⟩
        have other_eq : other = type :=
          List.inj_on_of_nodup_map sender.localMtr.distinct (announces.mem_types otherMem) mem
            name_eq
        rw [other_eq] at otherMem
        rcases List.mem_append.mp otherMem with inCore | later
        · exact notCore ((announces.isCore_iff type mem).mpr inCore)
        · exact unpublished ((announces.published type.id).mpr ⟨type, later, rfl⟩)
      have announced_eq :
          (outbox ++ [WrittenMessage.announce type]).filterMap WrittenMessage.announced =
            outbox.filterMap WrittenMessage.announced ++ [type] :=
        List.filterMap_append
      refine ⟨type, [WrittenMessage.announce type], typeEq, rfl, rfl, rfl, ?_, ?_⟩
      · constructor
        · exact announces.numbered
        · exact announces.core_prefix
        · exact announces.isCore_iff
        · exact announces.sync
        · intro id
          rw [announced_eq, List.mem_cons, announces.published]
          constructor
          · rintro (rfl | ⟨other, otherMem, id_eq⟩)
            · exact ⟨type, List.mem_append_right _ (List.mem_singleton_self type), rfl⟩
            · exact ⟨other, List.mem_append_left _ otherMem, id_eq⟩
          · rintro ⟨other, otherMem, id_eq⟩
            rcases List.mem_append.mp otherMem with old | new
            · exact Or.inr ⟨other, old, id_eq⟩
            · rw [List.mem_singleton.mp new] at id_eq
              exact Or.inl id_eq.symm
        · intro other otherMem
          rw [announced_eq] at otherMem
          rcases List.mem_append.mp otherMem with old | new
          · exact announces.known other old
          · rw [List.mem_singleton.mp new]
            exact mem
        · rw [WrittenMessage.readable_append]
          exact ⟨announces.readable, eq_false_of_ne_true notCore, fresh, trivial⟩
      · rw [announced_eq]
        exact List.mem_append_right _ (List.mem_append_right _ (List.mem_singleton_self type))

/-- A message is sent behind the announcement of its type. -/
theorem Announces.sendMessageById (announces : sender.Announces core outbox)
    (few : sender.localMtr.types.length ≤ 65536) {id : MtrId} (id_ne : id ≠ 0) {data : Bytes}
    (sendEq : sender.sendMessageById id data = some (next, messages)) :
    ∃ type items, sender.localMtr.tryGetTypeById id = some type ∧
      messages = items.map WrittenMessage.bytes ∧
      items.filterMap WrittenMessage.carried = [(type.name, data)] ∧
      next.localMtr = sender.localMtr ∧ next.Announces core (outbox ++ items) := by
  rw [MessageSender.sendMessageById] at sendEq
  rcases Option.map_eq_some_iff.mp sendEq with ⟨announced, announcedEq, sentEq⟩
  cases sentEq
  rcases announces.registerMessageTypeRemote few announcedEq with
    ⟨type, items, typeEq, messages_eq, carried_eq, localMtr_eq, later, readable⟩
  rcases MessageTypeRegistry.tryGetTypeById_id typeEq with ⟨mem, rfl⟩
  have name_ne : type.name ≠ mtrSyncName := by
    intro name_eq
    rcases announces.sync with ⟨mtrSync, syncMem, syncName, syncId⟩
    have same := List.inj_on_of_nodup_map sender.localMtr.distinct
      (announces.core_prefix.subset syncMem) mem (syncName.trans name_eq.symm)
    exact id_ne (same ▸ syncId)
  have announced_eq : (outbox ++ (items ++ [WrittenMessage.carry type data])).filterMap
      WrittenMessage.announced = (outbox ++ items).filterMap WrittenMessage.announced := by
    rw [← List.append_assoc, List.filterMap_append]
    exact List.append_nil _
  refine ⟨type, items ++ [WrittenMessage.carry type data], typeEq, ?_, ?_, localMtr_eq, ?_⟩
  · rw [messages_eq, List.map_append]
    rfl
  · rw [List.filterMap_append, carried_eq]
    rfl
  · constructor
    · exact later.numbered
    · exact later.core_prefix
    · exact later.isCore_iff
    · exact later.sync
    · rw [announced_eq]
      exact later.published
    · rw [announced_eq]
      exact later.known
    · rw [← List.append_assoc, WrittenMessage.readable_append]
      exact ⟨later.readable, readable, name_ne, trivial⟩

/-- A message that is sent under a name is carried under this name. -/
theorem Announces.sendMessage (announces : sender.Announces core outbox) {name : String}
    {typeHash : TypeHash}
    (few : (sender.registerMessageTypeLocal name typeHash).localMtr.types.length ≤ 65536)
    (name_ne : name ≠ mtrSyncName) {data : Bytes}
    (sendEq : sender.sendMessage name typeHash data = some (next, messages)) :
    ∃ items, messages = items.map WrittenMessage.bytes ∧
      items.filterMap WrittenMessage.carried = [(name, data)] ∧
      next.localMtr = (sender.registerMessageTypeLocal name typeHash).localMtr ∧
      next.Announces core (outbox ++ items) := by
  have registered := announces.registerMessageTypeLocal name typeHash
  rw [MessageSender.sendMessage] at sendEq
  rcases Option.bind_eq_some_iff.mp sendEq with ⟨type, typeEq, sendEq⟩
  rcases MessageTypeRegistry.tryGetType_name typeEq with ⟨mem, name_eq⟩
  have id_ne : type.id ≠ 0 := by
    intro zero
    rcases registered.sync with ⟨mtrSync, syncMem, syncName, syncId⟩
    have same := registered.numbered.eq_of_id_eq few (registered.core_prefix.subset syncMem) mem
      (syncId.trans zero.symm)
    exact name_ne (name_eq.symm.trans ((congrArg MessageType.name same).symm.trans syncName))
  rcases registered.sendMessageById few id_ne sendEq with
    ⟨found, items, foundEq, messages_eq, carried_eq, localMtr_eq, later⟩
  rcases MessageTypeRegistry.tryGetTypeById_id foundEq with ⟨foundMem, id_eq⟩
  rw [registered.numbered.eq_of_id_eq few foundMem mem id_eq, name_eq] at carried_eq
  exact ⟨items, messages_eq, carried_eq, localMtr_eq, later⟩

/-- A message handler that was just created. -/
def start (typeHash : String → TypeHash) : MessageSender :=
  ⟨MessageTypeRegistry.registerCoreMessages typeHash MessageTypeRegistry.empty, []⟩

end MessageSender

end VoxelEngine.ClientServer
