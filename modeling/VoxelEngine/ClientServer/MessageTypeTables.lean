import VoxelEngine.ClientServer.MessageTypeRegistry
import VoxelEngine.Transition.Run

/-!
# The two tables of a message type registry

A registry stores its types in a table by name, and for every number a pointer to the entry of
a name.  Types registered locally get the next number of a 16-bit counter; types of the other
side come with the number they were announced with.  Neither way of registering looks at the
table by number first, which keeps the entry it already has.
-/

namespace VoxelEngine.ClientServer

/-- `message_type_registry`.  An entry is stored under its own name, and a number points to an
entry with that number. -/
structure MessageTypeTables where
  typesByName : String → Option MessageType
  typesById : MtrId → Option String
  nextId : MtrId
  numCoreTypes : MtrId
  named : ∀ name type, typesByName name = some type → type.name = name
  pointed : ∀ id name, typesById id = some name →
    ∃ type, typesByName name = some type ∧ type.id = id

/-- Why a registration does not return: the name is taken, for which it throws, or a core
message type does not come before all others, for which the program is ended. -/
inductive RegistrationFailure
  | reRegistered
  | lateCoreType
  deriving DecidableEq

/-- `mtr_sync_message` -/
structure MtrSyncMessage where
  name : String
  typeHash : TypeHash
  id : MtrId
  deriving DecidableEq

namespace MessageTypeTables

/-- `try_get_type` by name. -/
def tryGetType (tables : MessageTypeTables) (name : String) : Option MessageType :=
  tables.typesByName name

/-- `try_get_type` by number. -/
def tryGetTypeById (tables : MessageTypeTables) (id : MtrId) : Option MessageType :=
  (tables.typesById id).bind tables.typesByName

/-- `contains` a name. -/
def contains (tables : MessageTypeTables) (name : String) : Bool :=
  (tables.typesByName name).isSome

/-- `contains` a number. -/
def containsId (tables : MessageTypeTables) (id : MtrId) : Bool :=
  (tables.typesById id).isSome

/-- The table by name after an entry was added to it. -/
def addName (byName : String → Option MessageType) (type : MessageType) :
    String → Option MessageType :=
  fun name => (byName name).or (if type.name = name then some type else none)

/-- The table by number after an entry was added to it: a number that is known keeps its
entry. -/
def addId (byId : MtrId → Option String) (type : MessageType) : MtrId → Option String :=
  fun id => (byId id).or (if type.id = id then some type.name else none)

theorem addName_named {byName : String → Option MessageType}
    (named : ∀ name type, byName name = some type → type.name = name) (added : MessageType) :
    ∀ name type, addName byName added name = some type → type.name = name := by
  intro name type found
  rcases Option.or_eq_some_iff.mp found with old | ⟨_, new⟩
  · exact named name type old
  · rcases Option.ite_none_right_eq_some.mp new with ⟨name_eq, same⟩
    rw [← Option.some.inj same]
    exact name_eq

theorem addId_pointed {byName : String → Option MessageType} {byId : MtrId → Option String}
    (pointed : ∀ id name, byId id = some name → ∃ type, byName name = some type ∧ type.id = id)
    (added : MessageType) (fresh : byName added.name = none) :
    ∀ id name, addId byId added id = some name →
      ∃ type, addName byName added name = some type ∧ type.id = id := by
  intro id name found
  rcases Option.or_eq_some_iff.mp found with old | ⟨_, new⟩
  · rcases pointed id name old with ⟨type, stored, id_eq⟩
    exact ⟨type, by rw [addName, stored, Option.some_or], id_eq⟩
  · rcases Option.ite_none_right_eq_some.mp new with ⟨id_eq, same⟩
    rw [← Option.some.inj same]
    exact ⟨added, by rw [addName, fresh, Option.none_or, if_pos rfl], id_eq⟩

/-- An empty registry. -/
def empty : MessageTypeTables where
  typesByName _ := none
  typesById _ := none
  nextId := 0
  numCoreTypes := 0
  named := by simp
  pointed := by simp

/-- `register_type` with a given number. -/
def register (tables : MessageTypeTables) (type : MessageType) :
    Except RegistrationFailure MessageTypeTables :=
  if fresh : tables.typesByName type.name = none then
    -- the assertion on core types is checked when both tables hold the entry already
    if type.isCore ∧ tables.numCoreTypes ≠ type.id then .error .lateCoreType
    else
      .ok {
        typesByName := addName tables.typesByName type
        typesById := addId tables.typesById type
        nextId := tables.nextId
        numCoreTypes := if type.isCore then tables.numCoreTypes + 1 else tables.numCoreTypes
        named := addName_named tables.named type
        pointed := addId_pointed tables.pointed type fresh
      }
  else .error .reRegistered

/-- The registry after `next_id++`. -/
def advanceId (tables : MessageTypeTables) : MessageTypeTables :=
  { tables with nextId := tables.nextId + 1 }

/-- `register_type` of a local type: the number is taken before the name is looked up. -/
def registerType (tables : MessageTypeTables) (name : String) (typeHash : TypeHash)
    (isCore : Bool) : Except RegistrationFailure MessageTypeTables :=
  tables.advanceId.register ⟨name, typeHash, tables.nextId, isCore⟩

/-- `on_msg_sync_mtr_received`: names that are known are only reported. -/
def onMsgSyncMtrReceived (tables : MessageTypeTables) (msg : MtrSyncMessage) :
    Except RegistrationFailure MessageTypeTables :=
  if tables.contains msg.name then .ok tables
  else tables.register ⟨msg.name, msg.typeHash, msg.id, false⟩

/-- Everything a registration that returns does. -/
theorem register_eq_ok {tables next : MessageTypeTables} {type : MessageType}
    (registered : tables.register type = .ok next) :
    tables.typesByName type.name = none ∧
      next.typesByName = addName tables.typesByName type ∧
      next.typesById = addId tables.typesById type ∧ next.nextId = tables.nextId := by
  unfold register at registered
  split at registered
  · rename_i fresh
    split at registered
    · cases registered
    · cases registered
      exact ⟨fresh, rfl, rfl, rfl⟩
  · cases registered

/-- A name is taken if its registration throws. -/
theorem contains_of_reRegistered {tables : MessageTypeTables} {name : String}
    {typeHash : TypeHash} {isCore : Bool}
    (failed : tables.registerType name typeHash isCore = .error .reRegistered) :
    tables.contains name = true := by
  unfold registerType register at failed
  split at failed
  · split at failed
    · cases failed
    · cases failed
  · rename_i taken
    exact Option.isSome_iff_ne_none.mpr taken

theorem tryGetType_register {tables next : MessageTypeTables} {type : MessageType}
    (registered : tables.register type = .ok next) (name : String) :
    next.tryGetType name =
      (tables.tryGetType name).or (if type.name = name then some type else none) := by
  rw [tryGetType, (register_eq_ok registered).2.1]
  rfl

theorem tryGetTypeById_register {tables next : MessageTypeTables} {type : MessageType}
    (registered : tables.register type = .ok next) (id : MtrId) :
    next.tryGetTypeById id =
      (tables.tryGetTypeById id).or (if type.id = id then some type else none) := by
  rcases register_eq_ok registered with ⟨fresh, byName, byId, _⟩
  rw [tryGetTypeById, tryGetTypeById, byId, byName]
  cases known : tables.typesById id with
  | some name =>
      rcases tables.pointed id name known with ⟨stored, found, _⟩
      simp only [addId, addName, known, found, Option.some_or, Option.bind_some]
  | none =>
      by_cases id_eq : type.id = id
      · simp only [addId, addName, known, id_eq, fresh, Option.none_or, Option.bind_some,
          Option.bind_none, if_true]
      · simp only [addId, known, id_eq, if_false, Option.or_none, Option.bind_none]

/-- Looking up the number stored for a name gives the entry of that name, the entry found by
a number has that number and is the entry of its name, and no two names share a number. -/
structure Bijective (tables : MessageTypeTables) : Prop where
  byId : ∀ name type, tables.tryGetType name = some type →
    tables.tryGetTypeById type.id = some type
  byName : ∀ id type, tables.tryGetTypeById id = some type →
    type.id = id ∧ tables.tryGetType type.name = some type
  distinct : ∀ first second firstType secondType, tables.tryGetType first = some firstType →
    tables.tryGetType second = some secondType → firstType.id = secondType.id → first = second

/-- It is enough that the number stored for a name leads back to the entry of the name. -/
theorem bijective_of_byId {tables : MessageTypeTables}
    (byId : ∀ name type, tables.tryGetType name = some type →
      tables.tryGetTypeById type.id = some type) : Bijective tables := by
  constructor
  · exact byId
  · intro id type found
    rcases Option.bind_eq_some_iff.mp found with ⟨name, known, stored⟩
    rcases tables.pointed id name known with ⟨other, otherStored, id_eq⟩
    rw [← Option.some.inj (stored.symm.trans otherStored)] at id_eq
    rw [tables.named name type stored]
    exact ⟨id_eq, stored⟩
  · intro first second firstType secondType firstFound secondFound id_eq
    have firstBack := byId first firstType firstFound
    rw [id_eq, byId second secondType secondFound] at firstBack
    rw [← tables.named first firstType firstFound, ← tables.named second secondType secondFound,
      Option.some.inj firstBack]

theorem bijective_empty : Bijective empty := by
  apply bijective_of_byId
  intro name type found
  cases found

/-- A number is known exactly when an entry is found by it. -/
theorem containsId_eq (tables : MessageTypeTables) (id : MtrId) :
    tables.containsId id = (tables.tryGetTypeById id).isSome := by
  rw [containsId, tryGetTypeById]
  cases known : tables.typesById id with
  | none => rfl
  | some name =>
      rcases tables.pointed id name known with ⟨type, stored, _⟩
      rw [Option.bind_some, stored]
      rfl

/-- A registration keeps the tables mutually inverse exactly when its number was not known. -/
theorem bijective_register_iff {tables next : MessageTypeTables} {type : MessageType}
    (bijective : Bijective tables) (registered : tables.register type = .ok next) :
    Bijective next ↔ tables.containsId type.id = false := by
  have fresh : tables.tryGetType type.name = none := (register_eq_ok registered).1
  rw [containsId_eq]
  constructor
  · intro nextBijective
    have stored : next.tryGetType type.name = some type := by
      rw [tryGetType_register registered, fresh, Option.none_or, if_pos rfl]
    have back := nextBijective.byId type.name type stored
    rw [tryGetTypeById_register registered] at back
    cases known : tables.tryGetTypeById type.id with
    | none => rfl
    | some other =>
        -- the number still leads to its old entry, which has another name
        rw [known, Option.some_or] at back
        have other_eq := Option.some.inj back
        have otherStored := (bijective.byName type.id other known).2
        rw [other_eq, fresh] at otherStored
        cases otherStored
  · intro free
    rw [Option.isSome_eq_false_iff, Option.isNone_iff_eq_none] at free
    apply bijective_of_byId
    intro name found stored
    rw [tryGetType_register registered] at stored
    rw [tryGetTypeById_register registered]
    rcases Option.or_eq_some_iff.mp stored with old | ⟨_, new⟩
    · rw [bijective.byId name found old, Option.some_or]
    · rcases Option.ite_none_right_eq_some.mp new with ⟨_, same⟩
      rw [← Option.some.inj same, free, Option.none_or, if_pos rfl]

theorem containsId_register {tables next : MessageTypeTables} {type : MessageType}
    (registered : tables.register type = .ok next) (id : MtrId) :
    next.containsId id = (tables.containsId id || decide (type.id = id)) := by
  rw [containsId, containsId, (register_eq_ok registered).2.2.1, addId, Option.isSome_or]
  by_cases id_eq : type.id = id
  · simp [id_eq]
  · simp [id_eq]

end MessageTypeTables

/-- A registry and the numbers it has handed out to local types. -/
structure MessageTypeHistory where
  tables : MessageTypeTables
  handedOut : List MtrId

/-- What can be asked of a registry. -/
inductive MessageTypeRequest
  | registerType (name : String) (typeHash : TypeHash) (isCore : Bool)
  | received (msg : MtrSyncMessage)

namespace MessageTypeHistory

open MessageTypeTables Transition

/-- An empty registry, which has handed out nothing. -/
def start : MessageTypeHistory :=
  ⟨MessageTypeTables.empty, []⟩

/-- One request; the program does not go on after a core type that came too late. -/
def step (history : MessageTypeHistory) : MessageTypeRequest → Option MessageTypeHistory
  | .registerType name typeHash isCore =>
      match history.tables.registerType name typeHash isCore with
      | .ok next => some ⟨next, history.handedOut ++ [history.tables.nextId]⟩
      | .error .reRegistered => some { history with tables := history.tables.advanceId }
      | .error .lateCoreType => none
  | .received msg =>
      match history.tables.onMsgSyncMtrReceived msg with
      | .ok next => some { history with tables := next }
      | .error _ => none

/-- The registry is a bijection, and no number was handed out twice. -/
structure Unambiguous (history : MessageTypeHistory) : Prop where
  bijective : Bijective history.tables
  handedOut : history.handedOut.Nodup

/-- A new name does not come with a number that is known. -/
def FreshId (history : MessageTypeHistory) : MessageTypeRequest → Prop
  | .registerType name _ _ =>
      history.tables.contains name = true ∨
        history.tables.containsId history.tables.nextId = false
  | .received msg =>
      history.tables.contains msg.name = true ∨ history.tables.containsId msg.id = false

instance (history : MessageTypeHistory) (request : MessageTypeRequest) :
    Decidable (FreshId history request) :=
  match request with
  | .registerType _ _ _ => instDecidableOr
  | .received _ => instDecidableOr

/-- Numbers that were handed out are known. -/
def Recorded (history : MessageTypeHistory) : Prop :=
  ∀ id ∈ history.handedOut, history.tables.containsId id = true

/-- What a request does: it registers a new type, which a local request also hands a number
to, or leaves the entries as they are because the name is known. -/
theorem step_eq_some {history next : MessageTypeHistory} {request : MessageTypeRequest}
    (stepped : history.step request = some next) :
    (∃ name typeHash isCore, request = .registerType name typeHash isCore ∧
      history.tables.registerType name typeHash isCore = .ok next.tables ∧
      next.handedOut = history.handedOut ++ [history.tables.nextId]) ∨
    (∃ name typeHash isCore, request = .registerType name typeHash isCore ∧
      history.tables.contains name = true ∧ next.tables = history.tables.advanceId ∧
      next.handedOut = history.handedOut) ∨
    (∃ msg, request = .received msg ∧ history.tables.contains msg.name = false ∧
      history.tables.register ⟨msg.name, msg.typeHash, msg.id, false⟩ = .ok next.tables ∧
      next.handedOut = history.handedOut) ∨
    (∃ msg, request = .received msg ∧ history.tables.contains msg.name = true ∧
      next = history) := by
  cases request with
  | registerType name typeHash isCore =>
      rw [step] at stepped
      cases registered : history.tables.registerType name typeHash isCore with
      | ok tables =>
          rw [registered] at stepped
          cases stepped
          exact Or.inl ⟨name, typeHash, isCore, rfl, registered, rfl⟩
      | error failure =>
          rw [registered] at stepped
          cases failure with
          | lateCoreType => cases stepped
          | reRegistered =>
              cases stepped
              exact Or.inr (Or.inl ⟨name, typeHash, isCore, rfl,
                contains_of_reRegistered registered, rfl, rfl⟩)
  | received msg =>
      rw [step, onMsgSyncMtrReceived] at stepped
      cases known : history.tables.contains msg.name with
      | true =>
          rw [known, if_pos rfl] at stepped
          cases stepped
          exact Or.inr (Or.inr (Or.inr ⟨msg, rfl, known, rfl⟩))
      | false =>
          rw [known, if_neg Bool.false_ne_true] at stepped
          cases registered :
              history.tables.register ⟨msg.name, msg.typeHash, msg.id, false⟩ with
          | error failure =>
              rw [registered] at stepped
              cases stepped
          | ok tables =>
              rw [registered] at stepped
              cases stepped
              exact Or.inr (Or.inr (Or.inl ⟨msg, rfl, known, registered, rfl⟩))

theorem recorded_start : Recorded start := by
  intro id mem
  cases mem

theorem Recorded.step {history next : MessageTypeHistory} {request : MessageTypeRequest}
    (recorded : Recorded history) (stepped : history.step request = some next) :
    Recorded next := by
  rcases step_eq_some stepped with ⟨name, typeHash, isCore, _, registered, handedOut⟩ |
    ⟨_, _, _, _, _, tables, handedOut⟩ | ⟨msg, _, _, registered, handedOut⟩ | ⟨_, _, _, rfl⟩
  · intro id mem
    rw [containsId_register registered]
    rw [handedOut, List.mem_append, List.mem_singleton] at mem
    rcases mem with old | rfl
    · have known : history.tables.advanceId.containsId id = true := recorded id old
      rw [known, Bool.true_or]
    · rw [decide_eq_true rfl, Bool.or_true]
  · intro id mem
    rw [tables]
    exact recorded id (handedOut ▸ mem)
  · intro id mem
    rw [containsId_register registered, recorded id (handedOut ▸ mem), Bool.true_or]
  · exact recorded

/-- A request keeps the registry unambiguous exactly when a new name does not come with a
number that is known. -/
theorem unambiguous_step_iff {history next : MessageTypeHistory} {request : MessageTypeRequest}
    (recorded : Recorded history) (unambiguous : Unambiguous history)
    (stepped : history.step request = some next) :
    Unambiguous next ↔ FreshId history request := by
  rcases step_eq_some stepped with ⟨name, typeHash, isCore, rfl, registered, handedOut⟩ |
    ⟨name, _, _, rfl, known, tables, handedOut⟩ | ⟨msg, rfl, unknown, registered, handedOut⟩ |
    ⟨msg, rfl, known, rfl⟩
  · have advanced : Bijective history.tables.advanceId :=
      ⟨unambiguous.bijective.byId, unambiguous.bijective.byName, unambiguous.bijective.distinct⟩
    have exactly : Bijective next.tables ↔
        history.tables.containsId history.tables.nextId = false :=
      bijective_register_iff advanced registered
    have unknown : ¬ history.tables.contains name = true := by
      rw [contains, show history.tables.typesByName name = none from
        (register_eq_ok registered).1]
      exact Bool.false_ne_true
    constructor
    · intro nextUnambiguous
      exact Or.inr (exactly.mp nextUnambiguous.bijective)
    · intro fresh
      have free := fresh.resolve_left unknown
      refine ⟨exactly.mpr free, ?_⟩
      rw [handedOut, List.nodup_append]
      refine ⟨unambiguous.handedOut, List.nodup_singleton _, ?_⟩
      rintro id old other new rfl
      rw [List.mem_singleton] at new
      rw [← new, recorded id old] at free
      cases free
  · apply iff_of_true _ (Or.inl known)
    constructor
    · rw [tables]
      exact ⟨unambiguous.bijective.byId, unambiguous.bijective.byName,
        unambiguous.bijective.distinct⟩
    · rw [handedOut]
      exact unambiguous.handedOut
  · have exactly : Bijective next.tables ↔ history.tables.containsId msg.id = false :=
      bijective_register_iff unambiguous.bijective registered
    constructor
    · intro nextUnambiguous
      exact Or.inr (exactly.mp nextUnambiguous.bijective)
    · intro fresh
      have free := fresh.resolve_left (by rw [unknown]; exact Bool.false_ne_true)
      exact ⟨exactly.mpr free, handedOut ▸ unambiguous.handedOut⟩
  · exact iff_of_true unambiguous (Or.inl known)

/-- The tables of a registry are inverse to each other, and numbers are handed out at most
once, in every state that is reached exactly when no new name ever came with a number that was
known already. -/
theorem unambiguous_throughout_iff {final : MessageTypeHistory}
    {requests : List MessageTypeRequest} (reached : run step start requests = some final) :
    (∀ before after middle, requests = before ++ after →
        run step start before = some middle → Unambiguous middle) ↔
      Guarded step FreshId start requests := by
  apply @throughout_iff_guarded _ _ step FreshId Recorded
  · intro history request next recorded stepped
    exact recorded.step stepped
  · intro history request next recorded unambiguous stepped
    exact unambiguous_step_iff recorded unambiguous stepped
  · exact recorded_start
  · exact ⟨bijective_empty, List.nodup_nil⟩
  · exact reached

/-- A local type and a type announced with another number. -/
theorem unambiguous_throughout_chat_pose :
    ∃ final, run step start [.registerType "chat" 1 false, .received ⟨"pose", 2, 7⟩] =
      some final ∧ Unambiguous final := by
  have reached : (run step start
      [.registerType "chat" 1 false, .received ⟨"pose", 2, 7⟩]).isSome := by decide +kernel
  rcases Option.isSome_iff_exists.mp reached with ⟨final, runEq⟩
  have guarded : Guarded step FreshId start
      [.registerType "chat" 1 false, .received ⟨"pose", 2, 7⟩] := by decide +kernel
  exact ⟨final, runEq, (unambiguous_throughout_iff runEq).mpr guarded _ [] final
    (List.append_nil _).symm runEq⟩

/-- Two types announced with the same number: the number of the second one leads to the
first. -/
theorem announced_twice :
    ∃ final, run step start [.received ⟨"chat", 1, 5⟩, .received ⟨"pose", 2, 5⟩] = some final ∧
      final.tables.tryGetType "chat" = some ⟨"chat", 1, 5, false⟩ ∧
      final.tables.tryGetType "pose" = some ⟨"pose", 2, 5, false⟩ ∧
      final.tables.tryGetTypeById 5 = some ⟨"chat", 1, 5, false⟩ ∧ ¬ Unambiguous final := by
  rcases Option.map_eq_some_iff.mp (by decide +kernel : (run step start
      [.received ⟨"chat", 1, 5⟩, .received ⟨"pose", 2, 5⟩]).map (fun final =>
        (final.tables.tryGetType "chat", final.tables.tryGetType "pose",
          final.tables.tryGetTypeById 5)) =
      some (some ⟨"chat", 1, 5, false⟩, some ⟨"pose", 2, 5, false⟩,
        some ⟨"chat", 1, 5, false⟩)) with ⟨final, runEq, found⟩
  rcases Prod.mk.inj found with ⟨chat, others⟩
  rcases Prod.mk.inj others with ⟨pose, byId⟩
  refine ⟨final, runEq, chat, pose, byId, ?_⟩
  intro unambiguous
  have same := unambiguous.bijective.distinct "chat" "pose" _ _ chat pose rfl
  exact absurd same (by decide)

end MessageTypeHistory

end VoxelEngine.ClientServer
