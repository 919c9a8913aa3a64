import Mathlib.Data.List.Nodup
import VoxelEngine.ClientServer.CoreMessage

/-!
# Message type registries

Message types have a name, which both sides of a connection use, the hash of the data type
of their messages, and a number, which may differ from side to side.  A registry is looked
up by name and by number.  Names are unique; of several types with the same number only
the one that was registered first is found by it.
-/

namespace VoxelEngine.ClientServer

/-- `mtr_id` -/
abbrev MtrId := UInt16

/-- `message_type` -/
structure MessageType where
  name : String
  typeHash : TypeHash
  id : MtrId
  isCore : Bool
  deriving DecidableEq

/-- `message_type_registry`, with its types in the order of their registration. -/
structure MessageTypeRegistry where
  types : List MessageType
  nextId : MtrId
  distinct : (types.map MessageType.name).Nodup

namespace MessageTypeRegistry

/-- No types are registered. -/
def empty : MessageTypeRegistry where
  types := []
  nextId := 0
  distinct := List.nodup_nil

/-- `try_get_type` by name. -/
def tryGetType (registry : MessageTypeRegistry) (name : String) : Option MessageType :=
  registry.types.find? fun type => type.name = name

/-- `try_get_type` by number. -/
def tryGetTypeById (registry : MessageTypeRegistry) (id : MtrId) : Option MessageType :=
  registry.types.find? fun type => type.id = id

/-- `register_type` with a given number; re-registering a name throws. -/
def register (registry : MessageTypeRegistry) (type : MessageType) :
    Option MessageTypeRegistry :=
  if known : type.name ∈ registry.types.map MessageType.name then none
  else
    some {
      types := registry.types ++ [type]
      nextId := registry.nextId
      distinct := by
        rw [List.map_append, List.nodup_append]
        refine ⟨registry.distinct, List.nodup_singleton _, ?_⟩
        rintro name old other new rfl
        rw [List.map_singleton, List.mem_singleton] at new
        exact known (new ▸ old)
    }

/-- `register_type` of a local type, which gets the next number. -/
def registerType (registry : MessageTypeRegistry) (name : String) (typeHash : TypeHash)
    (isCore : Bool) : Option MessageTypeRegistry :=
  (registry.register ⟨name, typeHash, registry.nextId, isCore⟩).map fun next =>
    { next with nextId := registry.nextId + 1 }

theorem tryGetType_name {registry : MessageTypeRegistry} {name : String} {type : MessageType}
    (found : registry.tryGetType name = some type) :
    type ∈ registry.types ∧ type.name = name :=
  ⟨List.mem_of_find?_eq_some found, by simpa using List.find?_some found⟩

theorem tryGetTypeById_id {registry : MessageTypeRegistry} {id : MtrId} {type : MessageType}
    (found : registry.tryGetTypeById id = some type) :
    type ∈ registry.types ∧ type.id = id :=
  ⟨List.mem_of_find?_eq_some found, by simpa using List.find?_some found⟩

theorem tryGetType_eq_none_iff {registry : MessageTypeRegistry} {name : String} :
    registry.tryGetType name = none ↔ name ∉ registry.types.map MessageType.name := by
  simp [tryGetType, List.find?_eq_none]

/-- Everything a successful registration does. -/
theorem register_eq_some {registry next : MessageTypeRegistry} {type : MessageType}
    (registered : registry.register type = some next) :
    registry.tryGetType type.name = none ∧ next.types = registry.types ++ [type] ∧
      next.nextId = registry.nextId := by
  unfold register at registered
  split at registered
  · cases registered
  · rename_i fresh
    cases registered
    exact ⟨tryGetType_eq_none_iff.mpr fresh, rfl, rfl⟩

/-- A name that is not known yet can be registered. -/
theorem exists_register {registry : MessageTypeRegistry} {type : MessageType}
    (fresh : registry.tryGetType type.name = none) :
    ∃ next, registry.register type = some next := by
  rw [tryGetType_eq_none_iff] at fresh
  exact ⟨_, dif_neg fresh⟩

/-- Lookups by name after a registration. -/
theorem tryGetType_register {registry next : MessageTypeRegistry} {type : MessageType}
    (types : next.types = registry.types ++ [type]) (name : String) :
    next.tryGetType name =
      (registry.tryGetType name).or (if type.name = name then some type else none) := by
  rw [tryGetType, types, List.find?_append, List.find?_singleton, ← tryGetType]
  simp only [decide_eq_true_eq]

/-- Lookups by number after a registration. -/
theorem tryGetTypeById_register {registry next : MessageTypeRegistry} {type : MessageType}
    (types : next.types = registry.types ++ [type]) (id : MtrId) :
    next.tryGetTypeById id =
      (registry.tryGetTypeById id).or (if type.id = id then some type else none) := by
  rw [tryGetTypeById, types, List.find?_append, List.find?_singleton, ← tryGetTypeById]
  simp only [decide_eq_true_eq]

/-- The names of the core messages, in the order in which they are registered. -/
def coreMessageNames : List String :=
  ["ve.sync_mtr", "ve.ignore_this", "ve.compound", "ve.ecs.add_entity", "ve.ecs.del_entity",
    "ve.ecs.set_component", "ve.ecs.del_component", "ve.ecs.undo_set_component",
    "ve.ecs.partial_sync"]

/-- `register_core_messages`, given the hashes of the data types of the core messages. -/
def registerCoreMessages (typeHash : String → TypeHash) (registry : MessageTypeRegistry) :
    MessageTypeRegistry :=
  coreMessageNames.foldl
    (fun current name => (current.registerType name (typeHash name) true).getD current) registry

/-- Local types are numbered in the order of their registration. -/
structure Numbered (registry : MessageTypeRegistry) : Prop where
  ids : registry.types.map MessageType.id =
    (List.range registry.types.length).map UInt16.ofNat
  next : registry.nextId = UInt16.ofNat registry.types.length

theorem numbered_empty : Numbered empty :=
  ⟨rfl, rfl⟩

/-- Everything a successful registration of a local type does. -/
theorem registerType_eq_some {registry next : MessageTypeRegistry} {name : String}
    {typeHash : TypeHash} {isCore : Bool}
    (registered : registry.registerType name typeHash isCore = some next) :
    registry.tryGetType name = none ∧
      next.types = registry.types ++ [⟨name, typeHash, registry.nextId, isCore⟩] ∧
      next.nextId = registry.nextId + 1 := by
  rcases Option.map_eq_some_iff.mp registered with ⟨middle, stored, rfl⟩
  rcases register_eq_some stored with ⟨fresh, types, _⟩
  exact ⟨fresh, types, rfl⟩

theorem Numbered.registerType {registry next : MessageTypeRegistry} {name : String}
    {typeHash : TypeHash} {isCore : Bool} (numbered : Numbered registry)
    (registered : registry.registerType name typeHash isCore = some next) : Numbered next := by
  rcases registerType_eq_some registered with ⟨_, types, nextId⟩
  constructor
  · rw [types, List.map_append, numbered.ids, List.length_append, List.length_singleton,
      List.range_succ, List.map_append, List.map_singleton, List.map_singleton, numbered.next]
  · rw [nextId, types, numbered.next, List.length_append, List.length_singleton]
    exact (UInt16.ofNat_add _ _).symm

theorem Numbered.registerCoreMessages {registry : MessageTypeRegistry}
    (numbered : Numbered registry) (typeHash : String → TypeHash) :
    Numbered (MessageTypeRegistry.registerCoreMessages typeHash registry) := by
  unfold MessageTypeRegistry.registerCoreMessages
  induction coreMessageNames generalizing registry with
  | nil => exact numbered
  | cons name names ih =>
      apply ih
      change Numbered ((registry.registerType name (typeHash name) true).getD registry)
      cases registered : registry.registerType name (typeHash name) true with
      | none => exact numbered
      | some next => exact numbered.registerType registered

theorem length_registerCoreMessages (registry : MessageTypeRegistry)
    (typeHash : String → TypeHash) :
    (registerCoreMessages typeHash registry).types.length ≤
      registry.types.length + coreMessageNames.length := by
  unfold registerCoreMessages
  induction coreMessageNames generalizing registry with
  | nil => exact Nat.le_refl _
  | cons name names ih =>
      have later := ih ((registry.registerType name (typeHash name) true).getD registry)
      rw [List.foldl_cons, List.length_cons]
      cases registered : registry.registerType name (typeHash name) true with
      | none =>
          rw [registered, Option.getD_none] at later
          rw [Option.getD_none]
          omega
      | some next =>
          rw [registered, Option.getD_some] at later
          have types := (registerType_eq_some registered).2.1
          rw [types, List.length_append, List.length_singleton] at later
          rw [Option.getD_some]
          omega

/-- As long as the numbers do not wrap around, the next number is not in use. -/
theorem Numbered.id_ne_nextId {registry : MessageTypeRegistry} (numbered : Numbered registry)
    (few : registry.types.length < 65536) {type : MessageType} (mem : type ∈ registry.types) :
    type.id ≠ registry.nextId := by
  have idMem := List.mem_map_of_mem (f := MessageType.id) mem
  rw [numbered.ids, List.mem_map] at idMem
  rcases idMem with ⟨index, indexMem, index_eq⟩
  rw [List.mem_range] at indexMem
  rw [← index_eq, numbered.next]
  intro same
  have values := congrArg UInt16.toNat same
  rw [UInt16.toNat_ofNat', UInt16.toNat_ofNat'] at values
  omega

/-- As long as the numbers do not wrap around, a type is determined by its number. -/
theorem Numbered.eq_of_id_eq {registry : MessageTypeRegistry} (numbered : Numbered registry)
    (few : registry.types.length ≤ 65536) {first second : MessageType}
    (firstMem : first ∈ registry.types) (secondMem : second ∈ registry.types)
    (id_eq : first.id = second.id) : first = second := by
  have distinct : (registry.types.map MessageType.id).Nodup := by
    rw [numbered.ids]
    apply List.Nodup.map_on
    · intro left leftMem right rightMem same
      rw [List.mem_range] at leftMem rightMem
      have values := congrArg UInt16.toNat same
      rw [UInt16.toNat_ofNat', UInt16.toNat_ofNat'] at values
      omega
    · exact List.nodup_range
  exact List.inj_on_of_nodup_map distinct firstMem secondMem id_eq

end MessageTypeRegistry

end VoxelEngine.ClientServer
