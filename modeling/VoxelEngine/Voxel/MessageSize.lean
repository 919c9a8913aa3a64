import Mathlib.Data.FinEnum
import VoxelEngine.ClientServer.MessageHandler
import VoxelEngine.ClientServer.SizeLimit
import VoxelEngine.Data.Encoding
import VoxelEngine.Voxel.VoxelComponent

/-!
# The size of voxel messages

The messages of a voxel component are copied byte by byte and travel inside the message of
the component they are for.  The one that loads a chunk contains all of its tiles, which is
twice the number of bytes that a session reads.  No compression makes all of these messages
small.
-/

namespace VoxelEngine.Voxel

open VoxelEngine.ClientServer
open VoxelEngine.Data
open VoxelEngine.Serialize
open VoxelEngine.Transition

/-! ## What is sent for a voxel message -/

/-- A coordinate, a 32 bit integer. -/
def coordinateBytes (coordinate : Int) : Bytes :=
  toLittleEndian 4 (BitVec.ofInt 32 coordinate).toNat

/-- A `tilepos` in memory. -/
def positionBytes (pos : TilePos) : Bytes :=
  coordinateBytes pos.x ++ coordinateBytes pos.y ++ coordinateBytes pos.z

/-- A `tile_data` in memory. -/
def tileBytes (td : TileData) : Bytes :=
  toLittleEndian 2 td.tileId.toNat ++ toLittleEndian 2 td.metadata.toNat

/-- `to_bytes` of the messages of a voxel component, which are trivial types without
padding. -/
def VoxelMessage.toBytes : VoxelMessage → Bytes
  | chunkLoad pos data => positionBytes pos ++ places.flatMap fun place => tileBytes (data place)
  | chunkUnload pos => positionBytes pos
  | setVoxel worldpos td => positionBytes worldpos ++ tileBytes td

/-- `to_bytes` of a `partial_sync_message`: the entity, the message type and the data with its
size. -/
def partialSyncBytes (entity : UInt32) (messageType : TypeHash) (data : Bytes) : Bytes :=
  toLittleEndian 4 entity.toNat ++ toLittleEndian 8 messageType.toNat ++
    (data ++ encodeVariableLength (UInt64.ofNat data.length))

/-- Where a voxel component sends its messages: its entity, the type hash of each kind of
message, and the number of the partial synchronization message. -/
structure VoxelChannel where
  entity : UInt32
  chunkLoadType : TypeHash
  chunkUnloadType : TypeHash
  setVoxelType : TypeHash
  id : MtrId

/-- `type_hash<type_pair<voxel_component, Msg>>()` -/
def VoxelChannel.messageType (channel : VoxelChannel) : VoxelMessage → TypeHash
  | .chunkLoad _ _ => channel.chunkLoadType
  | .chunkUnload _ => channel.chunkUnloadType
  | .setVoxel _ _ => channel.setVoxelType

/-- `send_message` of a component and of the handler of a remote: what is passed to `write`. -/
def VoxelChannel.sendMessage (channel : VoxelChannel) (message : VoxelMessage) : Bytes :=
  partialSyncBytes channel.entity (channel.messageType message) message.toBytes ++
    MessageHandler.idBytes channel.id

/-! ## Messages that load chunks -/

@[simp]
theorem length_tileBytes (td : TileData) : (tileBytes td).length = 4 := by
  rw [tileBytes, List.length_append, length_toLittleEndian, length_toLittleEndian]

@[simp]
theorem length_positionBytes (pos : TilePos) : (positionBytes pos).length = 12 := by
  simp only [positionBytes, coordinateBytes, List.length_append, length_toLittleEndian]

/-- The bytes of an integer of a fixed width determine it. -/
theorem toLittleEndian_inj {size first second : Nat} (firstFits : first < 256 ^ size)
    (secondFits : second < 256 ^ size)
    (same : toLittleEndian size first = toLittleEndian size second) : first = second := by
  have numbers := congrArg ofLittleEndian same
  rw [ofLittleEndian_toLittleEndian, ofLittleEndian_toLittleEndian, Nat.mod_eq_of_lt firstFits,
    Nat.mod_eq_of_lt secondFits] at numbers
  exact numbers

theorem tileBytes_injective : Function.Injective tileBytes := by
  intro first second same
  have sizes : (toLittleEndian 2 first.tileId.toNat).length =
      (toLittleEndian 2 second.tileId.toNat).length := by
    rw [length_toLittleEndian, length_toLittleEndian]
  rcases List.append_inj same sizes with ⟨ids, metadata⟩
  have tileId := toLittleEndian_inj first.tileId.toNat_lt second.tileId.toNat_lt ids
  have tileMetadata := toLittleEndian_inj first.metadata.toNat_lt second.metadata.toNat_lt metadata
  rcases first with ⟨firstId, firstMetadata⟩
  rcases second with ⟨secondId, secondMetadata⟩
  rw [TileData.mk.injEq]
  exact ⟨UInt16.toNat.inj tileId, UInt16.toNat.inj tileMetadata⟩

@[simp]
theorem length_places : places.length = 32768 := by
  simp only [places, List.length_flatMap, List.length_map, List.length_finRange, List.map_const',
    List.sum_replicate]
  rfl

@[simp]
theorem length_chunkLoad (pos : TilePos) (data : ChunkData) :
    (VoxelMessage.chunkLoad pos data).toBytes.length = 131084 := by
  have tiles : (places.flatMap fun place => tileBytes (data place)).length = 131072 := by
    simp only [List.length_flatMap, length_tileBytes, List.map_const', List.sum_replicate,
      length_places]
    rfl
  rw [VoxelMessage.toBytes, List.length_append, length_positionBytes, tiles]

@[simp]
theorem length_sendMessage (channel : VoxelChannel) (pos : TilePos) (data : ChunkData) :
    (channel.sendMessage (VoxelMessage.chunkLoad pos data)).length = 131101 := by
  have size : (encodeVariableLength 131084).length = 3 := by
    decide +kernel
  simp only [VoxelChannel.sendMessage, partialSyncBytes, MessageHandler.idBytes,
    List.length_append, length_toLittleEndian, length_chunkLoad]
  exact congrArg (fun length => 4 + 8 + (131084 + length) + 2) size

/-- A message that loads a chunk tells all tiles of the chunk. -/
theorem chunkLoad_injective (channel : VoxelChannel) (pos : TilePos) :
    Function.Injective fun data : ChunkData =>
      channel.sendMessage (VoxelMessage.chunkLoad pos data) := by
  intro first second same
  have sizes : (VoxelMessage.chunkLoad pos first).toBytes.length =
      (VoxelMessage.chunkLoad pos second).toBytes.length := by
    rw [length_chunkLoad, length_chunkLoad]
  simp only [VoxelChannel.sendMessage, partialSyncBytes, sizes] at same
  have synced := List.append_cancel_left (List.append_cancel_right same)
  have messages := List.append_cancel_right synced
  have tiles := eq_of_flatMap_eq (fun place => length_tileBytes (first place))
    (fun place => length_tileBytes (second place)) (List.append_cancel_left messages)
  funext place
  exact tileBytes_injective (tiles place (mem_places place))

/-- The places of a chunk and the coordinates of each. -/
def localPosEquiv : LocalPos ≃ Fin chunkSize × Fin chunkSize × Fin chunkSize where
  toFun place := (place.x, place.y, place.z)
  invFun coordinates := ⟨coordinates.1, coordinates.2.1, coordinates.2.2⟩
  left_inv _ := rfl
  right_inv _ := rfl

instance : Fintype LocalPos :=
  Fintype.ofEquiv _ localPosEquiv.symm

@[simp]
theorem card_localPos : Fintype.card LocalPos = 32768 := by
  rw [Fintype.card_congr localPosEquiv]
  simp only [Fintype.card_prod, Fintype.card_fin]
  rfl

/-- A tile and the two numbers it consists of. -/
def tileDataEquiv : TileData ≃ UInt16 × UInt16 where
  toFun td := (td.tileId, td.metadata)
  invFun numbers := ⟨numbers.1, numbers.2⟩
  left_inv _ := rfl
  right_inv _ := rfl

instance : Fintype TileData :=
  Fintype.ofEquiv _ tileDataEquiv.symm

theorem card_tileData : Fintype.card TileData = 2 ^ 32 := by
  rw [Fintype.card_congr tileDataEquiv, Fintype.card_prod, ← FinEnum.card_eq_fintypeCard,
    FinEnum.card_UInt16, ← pow_add]

/-- There are more chunks than messages that a session reads. -/
theorem many_chunks :
    (Fintype.card UInt8 + 1) ^ messageSizeLimit < Fintype.card ChunkData := by
  have bytes : Fintype.card UInt8 + 1 = 257 := by
    rw [← FinEnum.card_eq_fintypeCard, FinEnum.card_UInt8]
    rfl
  rw [Fintype.card_fun, card_localPos, card_tileData, bytes]
  have halved : (2 ^ 32) ^ 32768 = (2 ^ 16) ^ messageSizeLimit := by
    rw [← pow_mul, ← pow_mul, messageSizeLimit]
  rw [halved]
  exact Nat.pow_lt_pow_left (by decide) (by decide)

/-- However messages are compressed, some chunk does not fit. -/
theorem exists_chunk_large {compression : Compression} (lossless : compression.Lossless)
    (channel : VoxelChannel) (pos : TilePos) :
    ∃ data : ChunkData, messageSizeLimit <
      (compression.compress (channel.sendMessage (VoxelMessage.chunkLoad pos data))).length := by
  have compress_injective : Function.Injective compression.compress := by
    intro first second same
    have restored := lossless first
    rw [same, lossless second] at restored
    exact (Option.some.inj restored).symm
  exact exists_length_gt (compress_injective.comp (chunkLoad_injective channel pos)) many_chunks

/-- Where nothing is compressed a chunk ends the session of the peer, and whatever the
compression, there is a chunk whose message exceeds the limit. -/
theorem chunkLoad_ends_session :
    tagging.Lossless ∧ (∃ (actions : List LinkAction) (link : SessionLink),
      actions.filterMap LinkAction.message =
          [VoxelChannel.sendMessage ⟨0, 0, 0, 0, 0⟩
            (VoxelMessage.chunkLoad ⟨0, 0, 0⟩ fun _ => ⟨0, 0⟩)] ∧
        run (SessionLink.step tagging) SessionLink.start actions = some link ∧
          link.peer = ⟨ReadPhase.closed, [SessionEvent.sessionError, SessionEvent.sessionEnd]⟩ ∧
            link.sender.events = []) ∧
      ∀ compression : Compression, compression.Lossless →
        ∀ (channel : VoxelChannel) (pos : TilePos), ∃ data : ChunkData,
          messageSizeLimit < (compression.compress
            (channel.sendMessage (VoxelMessage.chunkLoad pos data))).length := by
  refine ⟨tagging_restores, ?_, ?_⟩
  · have size := length_sendMessage ⟨0, 0, 0, 0, 0⟩ ⟨0, 0, 0⟩ fun _ => ⟨0, 0⟩
    apply SessionLink.exists_ended
    · rw [tagging, List.length_cons]
      omega
    · rw [tagging, List.length_cons, messageSizeLimit]
      omega
  · intro compression lossless channel pos
    exact exists_chunk_large lossless channel pos

end VoxelEngine.Voxel
