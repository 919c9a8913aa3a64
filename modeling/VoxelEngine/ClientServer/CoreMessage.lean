import VoxelEngine.Ecs.Entity

/-!
# Core messages

The messages instances exchange to keep their registries in step.  Component and
message types travel as type hashes and component values as serialized bytes.  A
compound message carries further messages and is handled from its back, that is,
in the reverse of the order in which they were pushed.
-/

namespace VoxelEngine.ClientServer

open VoxelEngine.Ecs

/-- Serialized data, `std::vector<u8>`. -/
abbrev Bytes := List UInt8

/-- `type_hash<T>()`, which stands for the type itself. -/
abbrev TypeHash := UInt64

/-- The identifier of an instance. -/
structure InstanceId where
  uuid : BitVec 128
  deriving DecidableEq

instance (n : Nat) : OfNat InstanceId n where
  ofNat := ⟨BitVec.ofNat 128 n⟩

/-- The core messages that act on a registry. -/
inductive CoreMessage where
  /-- `MSG_ADD_ENTITY` -/
  | addEntity (changed : List Entity)
  /-- `MSG_DEL_ENTITY` -/
  | delEntity (changed : List Entity)
  /-- `MSG_SET_COMPONENT` -/
  | setComponent (componentData : Bytes) (componentType : TypeHash) (entity : Entity)
  /-- `MSG_UNDO_COMPONENT` -/
  | undoComponent (componentData : Bytes) (componentType : TypeHash) (entity : Entity)
  /-- `MSG_DEL_COMPONENT` -/
  | delComponent (componentType : TypeHash) (entity : Entity)
  /-- `MSG_PARTIAL_SYNC` -/
  | partialSync (data : Bytes) (messageType : TypeHash) (entity : Entity)
  /-- `MSG_COMPOUND`, with its messages in the order in which they were pushed. -/
  | compound (messages : List CoreMessage)

namespace CoreMessage

mutual

/-- The messages that are handled when this one is received, in that order. -/
def leaves : CoreMessage → List CoreMessage
  | compound messages => leavesReversed messages
  | message => [message]

/-- The messages inside a compound message, last pushed first. -/
def leavesReversed : List CoreMessage → List CoreMessage
  | [] => []
  | message :: rest => leavesReversed rest ++ leaves message

end

@[simp]
theorem leaves_compound (messages : List CoreMessage) :
    leaves (compound messages) = leavesReversed messages := by
  rw [leaves]

/-- Compound messages are the only ones that contain others. -/
def isCompound : CoreMessage → Bool
  | compound _ => true
  | _ => false

theorem leaves_of_not_compound {message : CoreMessage} (simple : message.isCompound = false) :
    leaves message = [message] := by
  cases message with
  | compound messages => cases simple
  | _ => rw [leaves]; simp

/-- A compound message of plain messages is handled in reverse. -/
theorem leavesReversed_of_simple {messages : List CoreMessage}
    (simple : ∀ message ∈ messages, message.isCompound = false) :
    leavesReversed messages = messages.reverse := by
  induction messages with
  | nil => rfl
  | cons message rest ih =>
      have restSimple : ∀ other ∈ rest, other.isCompound = false := fun other mem =>
        simple other (List.mem_cons_of_mem message mem)
      rw [leavesReversed, ih restSimple,
        leaves_of_not_compound (simple message List.mem_cons_self), List.reverse_cons]

end CoreMessage

end VoxelEngine.ClientServer
