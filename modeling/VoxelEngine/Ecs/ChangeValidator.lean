import VoxelEngine.Ecs.Entity
import VoxelEngine.ClientServer.CoreMessage

/-!
# The change validator

A change that a remote asks for is checked before it is made.  The validator holds rules
for each component type, a default for component types without rules and, optionally, a
visibility system.  A rule sees the registry together with the old and the new value of
the component; it can permit or forbid a change, but only the visibility system and the
defaults can make a component unobservable.
-/

namespace VoxelEngine.Ecs

open VoxelEngine.ClientServer

/-- The entities of a registry and the values of their components. -/
structure Registry (V : Type) where
  pool : EntityPool
  component : TypeHash → Entity → Option V

/-- `change_result` -/
inductive ChangeResult where
  | allowed
  | forbidden
  | unobservable
  deriving DecidableEq

/-- A rule: the remote, the registry, the entity, the old and the new value. -/
abbrev Rule (V : Type) :=
  InstanceId → Registry V → Entity → Option V → Option V → Bool

/-- `change_validator::per_component_data`; a removed rule leaves an empty slot behind. -/
structure PerComponentData (V : Type) where
  rulesForComponent : List (Option (Rule V))
  defaultBehaviour : Option ChangeResult

/-- `change_validator` -/
structure ChangeValidator (V : Type) where
  rules : TypeHash → Option (PerComponentData V)
  defaultBehaviour : ChangeResult
  checkVisibility : Option (Entity → InstanceId → Bool)

variable {V : Type}

namespace PerComponentData

/-- The result for a component type that has an entry but no rules in it. -/
def behaviour (data : PerComponentData V) (otherwise : ChangeResult) : ChangeResult :=
  data.defaultBehaviour.getD otherwise

/-- All rules that are still there permit the change. -/
def passes (data : PerComponentData V) (remote : InstanceId) (registry : Registry V)
    (entity : Entity) (oldValue newValue : Option V) : Bool :=
  data.rulesForComponent.all fun rule =>
    match rule with
    | some rule => rule remote registry entity oldValue newValue
    | none => true

end PerComponentData

namespace ChangeValidator

/-- The visibility system, if there is one, hides the entity from the remote. -/
def hides (validator : ChangeValidator V) (remote : InstanceId) (entity : Entity) : Bool :=
  match validator.checkVisibility with
  | some isVisible => !isVisible entity remote
  | none => false

/-- `change_validator::is_allowed` -/
def isAllowed (validator : ChangeValidator V) (remote : InstanceId) (registry : Registry V)
    (type : TypeHash) (entity : Entity) (oldValue newValue : Option V) : ChangeResult :=
  if validator.hides remote entity then ChangeResult.unobservable
  else
    match validator.rules type with
    | some data =>
        if data.rulesForComponent.isEmpty then data.behaviour validator.defaultBehaviour
        else if data.passes remote registry entity oldValue newValue then ChangeResult.allowed
        else ChangeResult.forbidden
    | none => validator.defaultBehaviour

/-- The pair is unobservable for the remote, whatever its value. -/
def isUnobservable (validator : ChangeValidator V) (remote : InstanceId) (type : TypeHash)
    (entity : Entity) : Bool :=
  validator.hides remote entity ||
    match validator.rules type with
    | some data =>
        data.rulesForComponent.isEmpty &&
          data.behaviour validator.defaultBehaviour == ChangeResult.unobservable
    | none => validator.defaultBehaviour == ChangeResult.unobservable

/-- Whether a pair is unobservable does not depend on values. -/
@[simp]
theorem isAllowed_eq_unobservable_iff {validator : ChangeValidator V} {remote : InstanceId}
    {registry : Registry V} {type : TypeHash} {entity : Entity} {oldValue newValue : Option V} :
    validator.isAllowed remote registry type entity oldValue newValue =
        ChangeResult.unobservable ↔
      validator.isUnobservable remote type entity = true := by
  unfold isAllowed isUnobservable
  cases validator.hides remote entity with
  | true => simp
  | false =>
      cases validator.rules type with
      | none => simp
      | some data =>
          by_cases noRules : data.rulesForComponent = []
          · simp [noRules]
          · cases passed : data.passes remote registry entity oldValue newValue <;>
              simp [noRules, passed]

end ChangeValidator

namespace Registry

/-- Store a value for a pair, or none. -/
def place (registry : Registry V) (type : TypeHash) (entity : Entity) (value : Option V) :
    Registry V :=
  { registry with
    component := Function.update registry.component type
      (Function.update (registry.component type) entity value) }

@[simp]
theorem place_component_self (registry : Registry V) (type : TypeHash) (entity : Entity)
    (value : Option V) : (registry.place type entity value).component type entity = value := by
  simp [place]

theorem place_component_of_ne (registry : Registry V) {type otherType : TypeHash}
    {entity other : Entity} (value : Option V) (ne : (otherType, other) ≠ (type, entity)) :
    (registry.place type entity value).component otherType other =
      registry.component otherType other := by
  by_cases type_eq : otherType = type
  · subst type_eq
    have entity_ne : other ≠ entity := fun equal => ne (equal ▸ rfl)
    simp [place, entity_ne]
  · simp [place, type_eq]

/-- Two registries differ at most in the value of one pair. -/
structure AgreeExcept (type : TypeHash) (entity : Entity) (registry other : Registry V) :
    Prop where
  pool : registry.pool = other.pool
  component : ∀ otherType otherEntity, (otherType, otherEntity) ≠ (type, entity) →
    registry.component otherType otherEntity = other.component otherType otherEntity

/-- Storing the same value in both keeps two registries in agreement. -/
theorem AgreeExcept.place {type placedType : TypeHash} {entity placed : Entity}
    {registry other : Registry V} (agree : AgreeExcept type entity registry other)
    (value : Option V) :
    AgreeExcept type entity (registry.place placedType placed value)
      (other.place placedType placed value) where
  pool := agree.pool
  component := by
    intro otherType otherEntity ne
    by_cases placed_eq : (otherType, otherEntity) = (placedType, placed)
    · cases placed_eq
      simp
    · rw [place_component_of_ne registry value placed_eq,
        place_component_of_ne other value placed_eq]
      exact agree.component otherType otherEntity ne

end Registry

/-- No rule reads the value of this pair out of the registry. -/
def ChangeValidator.BlindTo (validator : ChangeValidator V) (type : TypeHash)
    (entity : Entity) : Prop :=
  ∀ (remote : InstanceId) (registry other : Registry V) (askedType : TypeHash)
    (asked : Entity) (oldValue newValue : Option V),
    Registry.AgreeExcept type entity registry other →
    validator.isAllowed remote registry askedType asked oldValue newValue =
      validator.isAllowed remote other askedType asked oldValue newValue

/-- Without rules nothing is read out of the registry. -/
theorem ChangeValidator.blindTo_of_noRules {validator : ChangeValidator V}
    (noRules : ∀ type data, validator.rules type = some data → data.rulesForComponent = [])
    (type : TypeHash) (entity : Entity) : validator.BlindTo type entity := by
  intro remote registry other askedType asked oldValue newValue _
  unfold isAllowed
  cases found : validator.rules askedType with
  | none => rfl
  | some data => simp [noRules askedType data found]

end VoxelEngine.Ecs
