import VoxelEngine.Ecs.Entity
import VoxelEngine.Transition.Run

/-!
# Static entities

A static entity is an object that owns an entity of a registry.  It knows the entity by its
identifier, and a component of the entity points back to the object, so that both have to be
rewritten whenever the object is moved.  Assigning to an object destroys the entity that it
owned before, which may in turn destroy an object that is stored in the registry.
-/

namespace VoxelEngine.Ecs

open VoxelEngine.Transition

/-- Where an object is: in memory of the program, or stored in a registry. -/
inductive Location (α : Type) where
  | program (address : α)
  | stored (address : α)
  deriving DecidableEq

/-- `static_entity`.  The members are null in an object that was moved out of. -/
structure StaticEntity (ρ : Type) where
  registry : Option ρ
  id : Option Entity
  flags : UInt8

namespace StaticEntity

/-- `static_entity_flags::move_constructed` -/
def moveConstructed : UInt8 :=
  0b00000001

/-- The default values of the members. -/
def null {ρ : Type} : StaticEntity ρ :=
  ⟨none, none, 0⟩

end StaticEntity

/-- What a registry knows about static entities: the live entities, their `self_component`s and
the objects that are stored in it. -/
structure StaticEntityRegistry (α : Type) where
  pool : EntityPool
  selfComponent : Entity → Option (Location α)
  staticEntities : Option Entity → Option (Location α)

/-- All registries, and the objects that are alive. -/
structure StaticEntities (ρ α : Type) where
  registries : ρ → StaticEntityRegistry α
  objects : Location α → Option (StaticEntity ρ)

/-- The calls of a program.  Entities may also be created without a static entity. -/
inductive StaticEntityAction (ρ α : Type) where
  | createEntity (registry : ρ) (index : Nat)
  | construct (registry : ρ) (address : α) (index : Nat)
  | moveConstruct (address : α) (other : Location α)
  | moveAssign (target other : Location α)
  | storeStaticEntity (registry : ρ) (entity : Location α) (address : α)
  | destroyEntity (registry : ρ) (entity : Entity)
  | destruct (address : α)
  deriving DecidableEq

namespace StaticEntities

variable {ρ α : Type}

/-- Registries without entities, and no objects. -/
def initial : StaticEntities ρ α :=
  ⟨fun _ => ⟨EntityPool.empty, fun _ => none, fun _ => none⟩, fun _ => none⟩

/-- The live entities of a registry. -/
def live (state : StaticEntities ρ α) (registry : ρ) : List Entity :=
  (state.registries registry).pool.entities

/-- The pointer in the `self_component` of an entity. -/
def self (state : StaticEntities ρ α) (registry : ρ) (entity : Entity) : Option (Location α) :=
  (state.registries registry).selfComponent entity

/-- The object owns the entity. -/
def Owns (state : StaticEntities ρ α) (location : Location α) (registry : ρ)
    (entity : Entity) : Prop :=
  ∃ object, state.objects location = some object ∧ object.registry = some registry ∧
    object.id = some entity

section Calls

variable [DecidableEq ρ] [DecidableEq α]

omit [DecidableEq α] in
/-- Change one registry. -/
def setRegistry (state : StaticEntities ρ α) (registry : ρ)
    (changed : StaticEntityRegistry α) : StaticEntities ρ α :=
  { state with registries := Function.update state.registries registry changed }

omit [DecidableEq ρ] in
/-- Write to the members of an object, or begin or end its lifetime. -/
def setObject (state : StaticEntities ρ α) (location : Location α)
    (object : Option (StaticEntity ρ)) : StaticEntities ρ α :=
  { state with objects := Function.update state.objects location object }

omit [DecidableEq α] in
/-- `registry::create_entity` -/
def createEntity (state : StaticEntities ρ α) (registry : ρ) (index : Nat) :
    Option (StaticEntities ρ α) :=
  ((state.registries registry).pool.create index).map fun pool =>
    state.setRegistry registry { state.registries registry with pool := pool }

/-- `registry::destroy_entity`: an object that is stored for the entity is destroyed, and then
the entity with its components. -/
def destroyEntity (state : StaticEntities ρ α) (registry : ρ) (entity : Entity) :
    Option (StaticEntities ρ α) :=
  let owner := state.registries registry
  (owner.pool.destroy entity).map fun pool =>
    { registries := Function.update state.registries registry
        { pool := pool
          selfComponent := Function.update owner.selfComponent entity none
          staticEntities := Function.update owner.staticEntities (some entity) none }
      objects := fun location =>
        if owner.staticEntities (some entity) = some location then none
        else state.objects location }

omit [DecidableEq α] in
/-- `set(self_component { this })`, which is for a live entity. -/
def setSelf (state : StaticEntities ρ α) (location : Location α) (registry : ρ)
    (entity : Entity) : Option (StaticEntities ρ α) :=
  let owner := state.registries registry
  if entity ∈ owner.pool.entities then
    some (state.setRegistry registry
      { owner with
        selfComponent := Function.update owner.selfComponent entity (some location) })
  else none

/-- `static_entity::static_entity(registry&)` -/
def construct (state : StaticEntities ρ α) (registry : ρ) (address : α) (index : Nat) :
    Option (StaticEntities ρ α) :=
  let entity := (state.registries registry).pool.fresh index
  (state.createEntity registry index).bind fun created =>
    (created.setObject (.program address) (some ⟨some registry, some entity, 0⟩)).setSelf
      (.program address) registry entity

/-- The start of `static_entity::operator=`: the entity that is overwritten is destroyed. -/
def overwrite (state : StaticEntities ρ α) (object : StaticEntity ρ) :
    Option (StaticEntities ρ α) :=
  match object.id with
  | some entity => object.registry.bind fun registry => state.destroyEntity registry entity
  | none => some state

/-- The assignment of the members, after which the entity points to its new owner. -/
def takeOver (state : StaticEntities ρ α) (target : Location α) (other : StaticEntity ρ) :
    Option (StaticEntities ρ α) :=
  let assigned := state.setObject target
    (some ⟨other.registry, other.id, other.flags ||| StaticEntity.moveConstructed⟩)
  match other.id with
  | some entity => other.registry.bind fun registry => assigned.setSelf target registry entity
  | none => some assigned

/-- `other.id = entt::null` -/
def release (state : StaticEntities ρ α) (other : Location α) : Option (StaticEntities ρ α) :=
  (state.objects other).map fun object =>
    state.setObject other (some { object with id := none })

/-- `static_entity::operator=(static_entity&&)`.  Both objects must still be alive once the
entity that is overwritten is destroyed. -/
def moveAssign (state : StaticEntities ρ α) (target other : Location α) :
    Option (StaticEntities ρ α) := do
  let overwritten ← state.objects target
  let cleared ← state.overwrite overwritten
  let _ ← cleared.objects target
  let moved ← cleared.objects other
  let taken ← cleared.takeOver target moved
  taken.release other

/-- `static_entity::static_entity(static_entity&&)` -/
def moveConstruct (state : StaticEntities ρ α) (target other : Location α) :
    Option (StaticEntities ρ α) :=
  (state.setObject target (some StaticEntity.null)).moveAssign target other

/-- `registry::store_static_entity`: the object is moved into a new one, which is dropped if
there is one for its identifier already. -/
def storeStaticEntity (state : StaticEntities ρ α) (registry : ρ) (entity : Location α)
    (address : α) : Option (StaticEntities ρ α) := do
  let object ← state.objects entity
  let moved ← state.moveConstruct (.stored address) entity
  let owner := moved.registries registry
  if (owner.staticEntities object.id).isSome then
    return moved.setObject (.stored address) none
  else
    return moved.setRegistry registry
      { owner with
        staticEntities :=
          Function.update owner.staticEntities object.id (some (.stored address)) }

omit [DecidableEq ρ] [DecidableEq α] in
/-- What a program has to see to: new objects are put where none is, new entities get a free
index, and the objects and entities of a call exist. -/
def Callable (state : StaticEntities ρ α) : StaticEntityAction ρ α → Prop
  | .createEntity registry index => ∀ entity ∈ state.live registry, entity.index ≠ index
  | .construct registry address index =>
      state.objects (.program address) = none ∧
        ∀ entity ∈ state.live registry, entity.index ≠ index
  | .moveConstruct address other =>
      state.objects (.program address) = none ∧ (state.objects other).isSome = true
  | .moveAssign target other =>
      (state.objects target).isSome = true ∧ (state.objects other).isSome = true
  | .storeStaticEntity _ entity address =>
      state.objects (.stored address) = none ∧ (state.objects entity).isSome = true
  | .destroyEntity registry entity => entity ∈ state.live registry
  | .destruct address => (state.objects (.program address)).isSome = true

instance (state : StaticEntities ρ α) (action : StaticEntityAction ρ α) :
    Decidable (state.Callable action) :=
  match action with
  | .createEntity registry index =>
      inferInstanceAs (Decidable (∀ entity ∈ state.live registry, entity.index ≠ index))
  | .construct registry address index =>
      inferInstanceAs (Decidable (state.objects (.program address) = none ∧
        ∀ entity ∈ state.live registry, entity.index ≠ index))
  | .moveConstruct address other =>
      inferInstanceAs (Decidable (state.objects (.program address) = none ∧
        (state.objects other).isSome = true))
  | .moveAssign target other =>
      inferInstanceAs (Decidable ((state.objects target).isSome = true ∧
        (state.objects other).isSome = true))
  | .storeStaticEntity _ entity address =>
      inferInstanceAs (Decidable (state.objects (.stored address) = none ∧
        (state.objects entity).isSome = true))
  | .destroyEntity registry entity => inferInstanceAs (Decidable (entity ∈ state.live registry))
  | .destruct address =>
      inferInstanceAs (Decidable ((state.objects (.program address)).isSome = true))

/-- The code of a call. -/
def perform (state : StaticEntities ρ α) : StaticEntityAction ρ α → Option (StaticEntities ρ α)
  | .createEntity registry index => state.createEntity registry index
  | .construct registry address index => state.construct registry address index
  | .moveConstruct address other => state.moveConstruct (.program address) other
  | .moveAssign target other => state.moveAssign target other
  | .storeStaticEntity registry entity address => state.storeStaticEntity registry entity address
  | .destroyEntity registry entity => state.destroyEntity registry entity
  | .destruct address => some (state.setObject (.program address) none)

/-- One call of a program.  There is no next state where the code uses an object after it was
destroyed, or an entity that is not alive. -/
def step : Step (StaticEntities ρ α) (StaticEntityAction ρ α) := fun state action =>
  if state.Callable action then state.perform action else none

end Calls

/-! ## Ownership -/

/-- A live entity has at most one owner, and points to it. -/
def SingleOwners (state : StaticEntities ρ α) : Prop :=
  ∀ registry, ∀ entity ∈ state.live registry,
    (∀ first second, state.Owns first registry entity → state.Owns second registry entity →
      first = second) ∧
    ∀ owner, state.Owns owner registry entity → state.self registry entity = some owner

/-- No entity is destroyed except those that an object owned. -/
def DestroysOnly (state next : StaticEntities ρ α) (target : Location α) : Prop :=
  ∀ registry, ∀ entity ∈ state.live registry, entity ∉ next.live registry →
    state.Owns target registry entity

variable {state next : StaticEntities ρ α}

/-! ## The invariant -/

/-- The entity was handed out by the registry before. -/
def Issued (state : StaticEntities ρ α) (registry : ρ) (entity : Entity) : Prop :=
  entity.version < (state.registries registry).pool.nextVersion entity.index

/-- Live entities point back to every object that owns them. -/
structure Inv (state : StaticEntities ρ α) : Prop where
  linked : ∀ location registry entity, state.Owns location registry entity →
    entity ∈ state.live registry → state.self registry entity = some location
  issued : ∀ location registry entity, state.Owns location registry entity →
    state.Issued registry entity
  registered : ∀ location object, state.objects location = some object →
    object.id.isSome = true → object.registry.isSome = true

theorem inv_initial : (initial : StaticEntities ρ α).Inv where
  linked location registry entity := by simp [Owns, initial]
  issued location registry entity := by simp [Owns, initial]
  registered location object := by simp [initial]

/-- So that no two objects own the same one. -/
theorem Inv.singleOwners (inv : state.Inv) : state.SingleOwners := by
  intro registry entity mem
  constructor
  · intro first second firstOwns secondOwns
    have firstLinked := inv.linked first registry entity firstOwns mem
    have secondLinked := inv.linked second registry entity secondOwns mem
    exact Option.some.inj (firstLinked.symm.trans secondLinked)
  · intro owner owns
    exact inv.linked owner registry entity owns mem

/-- An object that knows an identifier owns that entity in some registry. -/
theorem Inv.owns (inv : state.Inv) {location : Location α} {object : StaticEntity ρ}
    {entity : Entity} (objectEq : state.objects location = some object)
    (idEq : object.id = some entity) :
    ∃ registry, object.registry = some registry ∧ state.Owns location registry entity := by
  have registered := inv.registered location object objectEq (by rw [idEq]; rfl)
  rcases Option.isSome_iff_exists.mp registered with ⟨registry, registryEq⟩
  exact ⟨registry, registryEq, object, objectEq, registryEq, idEq⟩

/-- The invariant is about what objects own, and the entities they own. -/
theorem Inv.of_owns (inv : state.Inv)
    (owned : ∀ location registry entity, next.Owns location registry entity →
      state.Owns location registry entity)
    (still : ∀ location registry entity, next.Owns location registry entity →
      entity ∈ next.live registry → entity ∈ state.live registry)
    (self_eq : ∀ location registry entity, next.Owns location registry entity →
      entity ∈ next.live registry → next.self registry entity = state.self registry entity)
    (issued : ∀ registry entity, state.Issued registry entity → next.Issued registry entity)
    (registered : ∀ location object, next.objects location = some object →
      object.id.isSome = true → object.registry.isSome = true) : next.Inv := by
  constructor
  · intro location registry entity owns mem
    rw [self_eq location registry entity owns mem]
    exact inv.linked location registry entity (owned _ _ _ owns) (still _ _ _ owns mem)
  · intro location registry entity owns
    exact issued registry entity (inv.issued location registry entity (owned _ _ _ owns))
  · exact registered

section Steps

variable [DecidableEq ρ] [DecidableEq α] {location target other : Location α} {registry : ρ}
  {entity : Entity}

/-! ### Destroying -/

/-- Everything the destruction of an entity does. -/
theorem destroyEntity_eq_some (destroyed : state.destroyEntity registry entity = some next) :
    (∀ owner any, any ∈ next.live owner ↔
        any ∈ state.live owner ∧ (owner = registry → any ≠ entity)) ∧
      (∀ owner any, (owner = registry → any ≠ entity) →
        next.self owner any = state.self owner any) ∧
      (∀ owner any, next.Issued owner any ↔ state.Issued owner any) ∧
      ∀ location, next.objects location =
        if (state.registries registry).staticEntities (some entity) = some location then none
        else state.objects location := by
  rcases Option.map_eq_some_iff.mp destroyed with ⟨pool, poolEq, rfl⟩
  have versionEq := (EntityPool.destroy_eq_some poolEq).2.2
  refine ⟨?_, ?_, ?_, fun _ => rfl⟩
  · intro owner any
    by_cases owner_eq : owner = registry
    · subst owner_eq
      simp only [live, Function.update_self, forall_const]
      rw [EntityPool.mem_destroy_iff poolEq]
      exact and_comm
    · simp [live, owner_eq]
  · intro owner any elsewhere
    by_cases owner_eq : owner = registry
    · subst owner_eq
      simp only [self, Function.update_self]
      exact Function.update_of_ne (elsewhere rfl) _ _
    · simp [self, Function.update_of_ne owner_eq]
  · intro owner any
    by_cases owner_eq : owner = registry
    · subst owner_eq
      simp [Issued, versionEq]
    · simp [Issued, Function.update_of_ne owner_eq]

@[simp]
theorem isSome_destroyEntity_iff :
    (state.destroyEntity registry entity).isSome = true ↔ entity ∈ state.live registry := by
  rw [destroyEntity, Option.isSome_map, EntityPool.destroy, live]
  split
  · rename_i mem
    exact iff_of_true rfl mem
  · rename_i absent
    exact iff_of_false Bool.false_ne_true absent

theorem objects_of_destroyEntity (destroyed : state.destroyEntity registry entity = some next)
    {object : StaticEntity ρ} (objectEq : next.objects location = some object) :
    state.objects location = some object := by
  rw [(destroyEntity_eq_some destroyed).2.2.2] at objectEq
  split at objectEq
  · cases objectEq
  · exact objectEq

theorem owns_of_destroyEntity (destroyed : state.destroyEntity registry entity = some next)
    {owner : ρ} {any : Entity} (owns : next.Owns location owner any) :
    state.Owns location owner any := by
  rcases owns with ⟨object, objectEq, members⟩
  exact ⟨object, objects_of_destroyEntity destroyed objectEq, members⟩

theorem Inv.destroyEntity (inv : state.Inv)
    (destroyed : state.destroyEntity registry entity = some next) : next.Inv := by
  rcases destroyEntity_eq_some destroyed with ⟨live_iff, self_eq, issued_iff, _⟩
  apply inv.of_owns
  · exact fun _ _ _ owns => owns_of_destroyEntity destroyed owns
  · exact fun _ owner any _ mem => ((live_iff owner any).mp mem).1
  · exact fun _ owner any _ mem => self_eq owner any ((live_iff owner any).mp mem).2
  · exact fun owner any => (issued_iff owner any).mpr
  · intro location object objectEq
    exact inv.registered location object (objects_of_destroyEntity destroyed objectEq)

/-! ### Moving -/

omit [DecidableEq ρ] in
/-- The lifetime of an object that owns nothing begins, or that of an object ends. -/
theorem Inv.setObject (inv : state.Inv) (location : Location α)
    {object : Option (StaticEntity ρ)} (empty : ∀ written ∈ object, written.id = none) :
    (state.setObject location object).Inv := by
  have before : ∀ {any : Location α} {written : StaticEntity ρ},
      (state.setObject location object).objects any = some written →
        written.id.isSome = true → state.objects any = some written := by
    intro any written writtenEq full
    simp only [StaticEntities.setObject, Function.update_apply] at writtenEq
    split at writtenEq
    · rw [empty written writtenEq] at full
      cases full
    · exact writtenEq
  apply inv.of_owns
  · rintro any owner held ⟨written, writtenEq, registryEq, idEq⟩
    exact ⟨written, before writtenEq (by rw [idEq]; rfl), registryEq, idEq⟩
  · exact fun _ _ _ _ mem => mem
  · exact fun _ _ _ _ _ => rfl
  · exact fun _ _ => id
  · exact fun any written writtenEq full =>
      inv.registered any written (before writtenEq full) full

omit [DecidableEq α] in
/-- Everything setting the pointer of an entity does. -/
theorem setSelf_eq_some (linked : state.setSelf location registry entity = some next) :
    entity ∈ state.live registry ∧ next.objects = state.objects ∧
      (∀ owner, next.live owner = state.live owner) ∧
      (∀ owner any, next.Issued owner any ↔ state.Issued owner any) ∧
      ∀ owner any, next.self owner any =
        if owner = registry ∧ any = entity then some location else state.self owner any := by
  rcases Option.ite_none_right_eq_some.mp linked with ⟨mem, nextEq⟩
  cases nextEq
  refine ⟨mem, rfl, ?_, ?_, ?_⟩
  · intro owner
    by_cases owner_eq : owner = registry
    · subst owner_eq
      simp [live, setRegistry]
    · simp [live, setRegistry, owner_eq]
  · intro owner any
    by_cases owner_eq : owner = registry
    · subst owner_eq
      simp [Issued, setRegistry]
    · simp [Issued, setRegistry, owner_eq]
  · intro owner any
    by_cases owner_eq : owner = registry
    · subst owner_eq
      simp [self, setRegistry, Function.update_apply]
    · simp [self, setRegistry, owner_eq]

/-- Everything the assignment of the members does. -/
theorem takeOver_eq_some {object : StaticEntity ρ}
    (taken : state.takeOver target object = some next) :
    next.objects = (state.setObject target
        (some ⟨object.registry, object.id,
          object.flags ||| StaticEntity.moveConstructed⟩)).objects ∧
      (∀ owner, next.live owner = state.live owner) ∧
      (∀ owner any, next.Issued owner any ↔ state.Issued owner any) ∧
      ∀ owner any, next.self owner any =
        if object.registry = some owner ∧ object.id = some any then some target
        else state.self owner any := by
  unfold takeOver at taken
  cases idEq : object.id with
  | none =>
      rw [idEq] at taken
      cases taken
      exact ⟨rfl, fun _ => rfl, fun _ _ => Iff.rfl, fun _ _ => by simp; rfl⟩
  | some entity =>
      rw [idEq] at taken
      rcases Option.bind_eq_some_iff.mp taken with ⟨registry, registryEq, linked⟩
      rcases setSelf_eq_some linked with ⟨_, objects_eq, live_eq, issued_iff, self_eq⟩
      refine ⟨objects_eq, live_eq, issued_iff, ?_⟩
      intro owner any
      rw [self_eq, registryEq]
      simp only [Option.some.injEq, eq_comm]
      rfl

/-- A dead or empty object takes over what another one owns. -/
theorem Inv.takeOver (inv : state.Inv) {object : StaticEntity ρ} {taken : StaticEntities ρ α}
    (objectEq : state.objects other = some object)
    (takenEq : state.takeOver target object = some taken)
    (nextEq : taken.release other = some next) : next.Inv := by
  rcases takeOver_eq_some takenEq with ⟨objects_eq, live_eq, issued_iff, self_eq⟩
  rcases Option.map_eq_some_iff.mp nextEq with ⟨left, leftEq, rfl⟩
  -- What an object owns now, it or the object that was moved owned before.
  have origin : ∀ {location written},
      (taken.setObject other (some { left with id := none })).objects location = some written →
        written.id.isSome = true → (location = target ∧ written.registry = object.registry ∧
          written.id = object.id) ∨ (location ≠ target ∧ location ≠ other ∧
            state.objects location = some written) := by
    intro location written writtenEq full
    simp only [StaticEntities.setObject, objects_eq, Function.update_apply] at writtenEq
    split at writtenEq
    · cases writtenEq
      cases full
    · rename_i notOther
      split at writtenEq
      · rename_i isTarget
        cases writtenEq
        exact Or.inl ⟨isTarget, rfl, rfl⟩
      · rename_i notTarget
        exact Or.inr ⟨notTarget, notOther, writtenEq⟩
  have owned : ∀ {location owner any},
      (taken.setObject other (some { left with id := none })).Owns location owner any →
        (location = target ∧ object.registry = some owner ∧ object.id = some any) ∨
          (location ≠ target ∧ location ≠ other ∧ state.Owns location owner any) := by
    rintro location owner any ⟨written, writtenEq, registryEq, idEq⟩
    rcases origin writtenEq (by rw [idEq]; rfl) with
      ⟨isTarget, registry_eq, id_eq⟩ | ⟨notTarget, notOther, before⟩
    · exact Or.inl ⟨isTarget, registry_eq.symm.trans registryEq, id_eq.symm.trans idEq⟩
    · exact Or.inr ⟨notTarget, notOther, written, before, registryEq, idEq⟩
  constructor
  · intro location owner any owns mem
    have after := self_eq owner any
    rcases owned owns with ⟨rfl, registryEq, idEq⟩ | ⟨_, notOther, before⟩
    · rw [if_pos ⟨registryEq, idEq⟩] at after
      exact after
    · have linked := inv.linked location owner any before (live_eq owner ▸ mem)
      rw [if_neg] at after
      · exact after.trans linked
      · rintro ⟨registryEq, idEq⟩
        have otherOwns : state.Owns other owner any := ⟨object, objectEq, registryEq, idEq⟩
        have otherLinked := inv.linked other owner any otherOwns (live_eq owner ▸ mem)
        exact notOther (Option.some.inj (linked.symm.trans otherLinked))
  · intro location owner any owns
    apply (issued_iff owner any).mpr
    rcases owned owns with ⟨_, registryEq, idEq⟩ | ⟨_, _, before⟩
    · exact inv.issued other owner any ⟨object, objectEq, registryEq, idEq⟩
    · exact inv.issued location owner any before
  · intro location written writtenEq full
    rcases origin writtenEq full with ⟨_, registry_eq, id_eq⟩ | ⟨_, _, before⟩
    · rw [registry_eq]
      exact inv.registered other object objectEq (id_eq ▸ full)
    · exact inv.registered location written before full

theorem moveAssign_eq_some (moved : state.moveAssign target other = some next) :
    ∃ overwritten cleared object taken, state.objects target = some overwritten ∧
      state.overwrite overwritten = some cleared ∧
      (cleared.objects target).isSome = true ∧ cleared.objects other = some object ∧
      cleared.takeOver target object = some taken ∧ taken.release other = some next := by
  simp only [moveAssign, Option.bind_eq_bind, Option.bind_eq_some_iff] at moved
  rcases moved with ⟨overwritten, overwrittenEq, cleared, clearedEq, still, stillEq, object,
    objectEq, taken, takenEq, nextEq⟩
  exact ⟨overwritten, cleared, object, taken, overwrittenEq, clearedEq, by rw [stillEq]; rfl,
    objectEq, takenEq, nextEq⟩

theorem Inv.overwrite (inv : state.Inv) {overwritten : StaticEntity ρ}
    (clearedEq : state.overwrite overwritten = some next) : next.Inv := by
  unfold StaticEntities.overwrite at clearedEq
  split at clearedEq
  · rcases Option.bind_eq_some_iff.mp clearedEq with ⟨registry, _, destroyed⟩
    exact inv.destroyEntity destroyed
  · cases clearedEq
    exact inv

/-- Assigning to an object keeps the invariant. -/
theorem Inv.moveAssign (inv : state.Inv) (moved : state.moveAssign target other = some next) :
    next.Inv := by
  rcases moveAssign_eq_some moved with ⟨overwritten, cleared, object, taken, _, clearedEq, _,
    objectEq, takenEq, nextEq⟩
  exact (inv.overwrite clearedEq).takeOver objectEq takenEq nextEq

/-- The only entity that is destroyed is the one the target owned. -/
theorem destroysOnly_moveAssign (moved : state.moveAssign target other = some next) :
    state.DestroysOnly next target := by
  rcases moveAssign_eq_some moved with ⟨overwritten, cleared, object, taken, overwrittenEq,
    clearedEq, _, _, takenEq, nextEq⟩
  intro owner any mem gone
  rcases Option.map_eq_some_iff.mp nextEq with ⟨left, _, rfl⟩
  have goneCleared : any ∉ cleared.live owner := by
    rw [← (takeOver_eq_some takenEq).2.1]
    exact gone
  unfold overwrite at clearedEq
  split at clearedEq
  · rename_i entity idEq
    rcases Option.bind_eq_some_iff.mp clearedEq with ⟨registry, registryEq, destroyed⟩
    have notKept := mt ((destroyEntity_eq_some destroyed).1 owner any).mpr goneCleared
    rw [not_and, Classical.not_imp, not_ne_iff] at notKept
    rcases notKept mem with ⟨rfl, rfl⟩
    exact ⟨overwritten, overwrittenEq, registryEq, idEq⟩
  · cases clearedEq
    exact absurd mem goneCleared

/-! ### Which moves are defined -/

omit [DecidableEq ρ] [DecidableEq α] in
/-- The entity that the object owns is alive, if it owns one. -/
def Usable (state : StaticEntities ρ α) (location : Location α) : Prop :=
  ∀ registry entity, state.Owns location registry entity → entity ∈ state.live registry

omit [DecidableEq ρ] [DecidableEq α] in
/-- Both objects are usable, the target does not lose what it is to be given, and none of the
objects is stored for the entity that the target owns. -/
def Movable (state : StaticEntities ρ α) (target other : Location α) : Prop :=
  state.Usable target ∧ state.Usable other ∧
    ∀ registry entity, state.Owns target registry entity →
      target ≠ other ∧
        (state.registries registry).staticEntities (some entity) ≠ some target ∧
        (state.registries registry).staticEntities (some entity) ≠ some other

omit [DecidableEq ρ] [DecidableEq α] in
theorem usable_of_id_eq_none {object : StaticEntity ρ}
    (objectEq : state.objects location = some object) (idEq : object.id = none) :
    state.Usable location := by
  rintro owner any ⟨same, sameEq, _, anyEq⟩
  rw [objectEq] at sameEq
  cases sameEq
  rw [idEq] at anyEq
  cases anyEq

omit [DecidableEq ρ] [DecidableEq α] in
theorem usable_iff_of_owns (owns : state.Owns location registry entity) :
    state.Usable location ↔ entity ∈ state.live registry := by
  constructor
  · intro usable
    exact usable registry entity owns
  · rintro mem owner any ⟨object, objectEq, ownerEq, anyEq⟩
    rcases owns with ⟨same, sameEq, registryEq, idEq⟩
    rw [objectEq] at sameEq
    cases sameEq
    cases registryEq.symm.trans ownerEq
    cases idEq.symm.trans anyEq
    exact mem

omit [DecidableEq α] in
@[simp]
theorem isSome_setSelf_iff :
    (state.setSelf location registry entity).isSome = true ↔ entity ∈ state.live registry := by
  rw [setSelf, live]
  split
  · rename_i mem
    exact iff_of_true rfl mem
  · rename_i absent
    exact iff_of_false Bool.false_ne_true absent

/-- The entity that is taken over has to be alive. -/
theorem Inv.isSome_takeOver_iff (inv : state.Inv) {object : StaticEntity ρ}
    (objectEq : state.objects other = some object) :
    (state.takeOver target object).isSome = true ↔ state.Usable other := by
  unfold StaticEntities.takeOver
  cases idEq : object.id with
  | none => exact iff_of_true rfl (usable_of_id_eq_none objectEq idEq)
  | some entity =>
      rcases inv.owns objectEq idEq with ⟨registry, registryEq, owns⟩
      simp only [registryEq, Option.bind_some]
      exact isSome_setSelf_iff.trans (usable_iff_of_owns owns).symm

/-- The entity that is overwritten has to be alive. -/
theorem Inv.isSome_overwrite_iff (inv : state.Inv) {overwritten : StaticEntity ρ}
    (overwrittenEq : state.objects target = some overwritten) :
    (state.overwrite overwritten).isSome = true ↔ state.Usable target := by
  unfold StaticEntities.overwrite
  cases idEq : overwritten.id with
  | none => exact iff_of_true rfl (usable_of_id_eq_none overwrittenEq idEq)
  | some entity =>
      rcases inv.owns overwrittenEq idEq with ⟨registry, registryEq, owns⟩
      simp only [registryEq, Option.bind_some]
      exact isSome_destroyEntity_iff.trans (usable_iff_of_owns owns).symm

/-- What overwriting an object leaves of the objects and the entities. -/
theorem Inv.overwrite_spec (inv : state.Inv) {overwritten : StaticEntity ρ}
    (overwrittenEq : state.objects target = some overwritten)
    (clearedEq : state.overwrite overwritten = some next) :
    (∀ location, next.objects location = state.objects location ∨
        next.objects location = none ∧ ∃ registry entity, state.Owns target registry entity ∧
          (state.registries registry).staticEntities (some entity) = some location) ∧
      (∀ location registry entity, state.Owns target registry entity →
        (state.registries registry).staticEntities (some entity) = some location →
          next.objects location = none) ∧
      ∀ registry entity, entity ∈ next.live registry ↔
        entity ∈ state.live registry ∧ ¬state.Owns target registry entity := by
  unfold StaticEntities.overwrite at clearedEq
  cases idEq : overwritten.id with
  | none =>
      rw [idEq] at clearedEq
      cases clearedEq
      have nothing : ∀ registry entity, ¬state.Owns target registry entity := by
        rintro registry entity ⟨same, sameEq, _, anyEq⟩
        rw [overwrittenEq] at sameEq
        cases sameEq
        rw [idEq] at anyEq
        cases anyEq
      refine ⟨fun _ => Or.inl rfl, ?_, ?_⟩
      · intro location registry entity owns
        exact absurd owns (nothing registry entity)
      · intro registry entity
        exact (and_iff_left (nothing registry entity)).symm
  | some held =>
      rcases inv.owns overwrittenEq idEq with ⟨holder, holderEq, owns⟩
      rw [idEq, holderEq] at clearedEq
      have only : ∀ registry entity, state.Owns target registry entity ↔
          registry = holder ∧ entity = held := by
        intro registry entity
        constructor
        · rintro ⟨same, sameEq, registryEq, anyEq⟩
          rw [overwrittenEq] at sameEq
          cases sameEq
          cases holderEq.symm.trans registryEq
          cases idEq.symm.trans anyEq
          exact ⟨rfl, rfl⟩
        · rintro ⟨rfl, rfl⟩
          exact owns
      rcases destroyEntity_eq_some clearedEq with ⟨live_iff, _, _, objects_eq⟩
      refine ⟨?_, ?_, ?_⟩
      · intro location
        rw [objects_eq]
        split
        · rename_i stored
          exact Or.inr ⟨rfl, holder, held, owns, stored⟩
        · exact Or.inl rfl
      · intro location registry entity targetOwns stored
        rcases (only registry entity).mp targetOwns with ⟨rfl, rfl⟩
        rw [objects_eq, if_pos stored]
      · intro registry entity
        rw [live_iff, only, not_and]

/-- A move is defined just for movable objects. -/
theorem Inv.isSome_moveAssign_iff (inv : state.Inv)
    (targetAlive : (state.objects target).isSome = true)
    (otherAlive : (state.objects other).isSome = true) :
    (state.moveAssign target other).isSome = true ↔ state.Movable target other := by
  rcases Option.isSome_iff_exists.mp targetAlive with ⟨overwritten, overwrittenEq⟩
  constructor
  · intro defined
    rcases Option.isSome_iff_exists.mp defined with ⟨next, moved⟩
    rcases moveAssign_eq_some moved with ⟨same, cleared, object, taken, sameEq, clearedEq,
      targetLeft, objectEq, takenEq, _⟩
    cases overwrittenEq.symm.trans sameEq
    rcases inv.overwrite_spec overwrittenEq clearedEq with ⟨kept, lost, live_iff⟩
    have usable := ((inv.overwrite clearedEq).isSome_takeOver_iff objectEq).mp
      (by rw [takenEq]; rfl)
    have otherKept : cleared.objects other = state.objects other := by
      rcases kept other with same | ⟨gone, _⟩
      · exact same
      · rw [gone] at objectEq
        cases objectEq
    have otherOwns : ∀ registry entity, state.Owns other registry entity →
        cleared.Owns other registry entity := by
      intro registry entity owns
      rw [Owns, otherKept]
      exact owns
    refine ⟨(inv.isSome_overwrite_iff overwrittenEq).mp (by rw [clearedEq]; rfl), ?_, ?_⟩
    · intro registry entity owns
      exact ((live_iff registry entity).mp (usable registry entity (otherOwns _ _ owns))).1
    · intro registry entity owns
      refine ⟨?_, ?_, ?_⟩
      · rintro rfl
        have stillLive := usable registry entity (otherOwns _ _ owns)
        exact ((live_iff registry entity).mp stillLive).2 owns
      · intro stored
        rw [lost target registry entity owns stored] at targetLeft
        cases targetLeft
      · intro stored
        rw [lost other registry entity owns stored] at objectEq
        cases objectEq
  · rintro ⟨targetUsable, otherUsable, apart⟩
    rcases Option.isSome_iff_exists.mp
      ((inv.isSome_overwrite_iff overwrittenEq).mpr targetUsable) with ⟨cleared, clearedEq⟩
    rcases inv.overwrite_spec overwrittenEq clearedEq with ⟨kept, _, live_iff⟩
    have targetKept : cleared.objects target = state.objects target := by
      rcases kept target with same | ⟨_, registry, entity, owns, stored⟩
      · exact same
      · exact absurd stored (apart registry entity owns).2.1
    have otherKept : cleared.objects other = state.objects other := by
      rcases kept other with same | ⟨_, registry, entity, owns, stored⟩
      · exact same
      · exact absurd stored (apart registry entity owns).2.2
    rcases Option.isSome_iff_exists.mp otherAlive with ⟨object, objectEq⟩
    have clearedUsable : cleared.Usable other := by
      intro registry entity owns
      rw [Owns, otherKept] at owns
      have mem := otherUsable registry entity owns
      refine (live_iff registry entity).mpr ⟨mem, ?_⟩
      intro targetOwns
      exact (apart registry entity targetOwns).1
        ((inv.singleOwners registry entity mem).1 target other targetOwns owns)
    have takes : (cleared.takeOver target object).isSome = true :=
      ((inv.overwrite clearedEq).isSome_takeOver_iff (otherKept.trans objectEq)).mpr clearedUsable
    rcases Option.isSome_iff_exists.mp takes with ⟨taken, takenEq⟩
    have left : (taken.objects other).isSome = true := by
      rw [(takeOver_eq_some takenEq).1]
      simp only [StaticEntities.setObject, Function.update_apply]
      split
      · rfl
      · rw [otherKept, objectEq]
        rfl
    simp only [StaticEntities.moveAssign, Option.bind_eq_bind, overwrittenEq, Option.bind_some,
      clearedEq, targetKept, otherKept, objectEq, takenEq]
    rw [release, Option.isSome_map]
    exact left

/-! ### Creating -/

omit [DecidableEq α] in
/-- Everything the creation of an entity does. -/
theorem createEntity_eq_some {index : Nat}
    (created : state.createEntity registry index = some next) :
    next.objects = state.objects ∧
      (state.registries registry).pool.fresh index ∈ next.live registry ∧
      (∀ owner any, state.Issued owner any → any ∈ next.live owner → any ∈ state.live owner) ∧
      (∀ owner any, next.self owner any = state.self owner any) ∧
      (∀ owner any, state.Issued owner any → next.Issued owner any) ∧
      next.Issued registry ((state.registries registry).pool.fresh index) := by
  rcases Option.map_eq_some_iff.mp created with ⟨pool, poolEq, rfl⟩
  have entitiesEq := (EntityPool.create_eq_some poolEq).2.1
  have versionEq := (EntityPool.create_eq_some poolEq).2.2
  refine ⟨rfl, ?_, ?_, ?_, ?_, ?_⟩
  · simp [live, setRegistry, entitiesEq]
  · intro owner any issued mem
    by_cases owner_eq : owner = registry
    · subst owner_eq
      simp only [live, setRegistry, Function.update_self] at mem
      exact EntityPool.mem_of_mem_create poolEq issued mem
    · simpa [live, setRegistry, owner_eq] using mem
  · intro owner any
    by_cases owner_eq : owner = registry
    · subst owner_eq
      simp [self, setRegistry]
    · simp [self, setRegistry, owner_eq]
  · intro owner any issued
    by_cases owner_eq : owner = registry
    · subst owner_eq
      simp only [Issued, setRegistry, Function.update_self]
      exact EntityPool.issued_create poolEq issued
    · simpa [Issued, setRegistry, owner_eq] using issued
  · simp [Issued, setRegistry, versionEq, EntityPool.fresh]

omit [DecidableEq α] in
theorem isSome_createEntity {index : Nat}
    (free : ∀ entity ∈ state.live registry, entity.index ≠ index) :
    (state.createEntity registry index).isSome = true := by
  rw [createEntity, Option.isSome_map, EntityPool.create, dif_pos]
  · rfl
  · intro taken
    rcases List.mem_map.mp taken with ⟨entity, mem, index_eq⟩
    exact free entity mem index_eq

omit [DecidableEq α] in
theorem Inv.createEntity (inv : state.Inv) {index : Nat}
    (created : state.createEntity registry index = some next) : next.Inv := by
  rcases createEntity_eq_some created with ⟨objects_eq, _, old, self_eq, issued, _⟩
  have owned : ∀ location owner any, next.Owns location owner any →
      state.Owns location owner any := by
    intro location owner any owns
    rw [Owns, objects_eq] at owns
    exact owns
  apply inv.of_owns owned
  · intro location owner any owns mem
    exact old owner any (inv.issued location owner any (owned _ _ _ owns)) mem
  · exact fun _ owner any _ _ => self_eq owner any
  · exact issued
  · intro location object objectEq
    rw [objects_eq] at objectEq
    exact inv.registered location object objectEq

/-- Everything the construction of an object does: a new entity that nothing owned is given to
the object. -/
theorem construct_eq_some {address : α} {index : Nat}
    (constructed : state.construct registry address index = some next) :
    ∃ created, state.createEntity registry index = some created ∧
      (created.setObject (.program address) (some ⟨some registry,
        some ((state.registries registry).pool.fresh index), 0⟩)).setSelf (.program address)
          registry ((state.registries registry).pool.fresh index) = some next :=
  Option.bind_eq_some_iff.mp constructed

theorem Inv.construct (inv : state.Inv) {address : α} {index : Nat}
    (constructed : state.construct registry address index = some next) : next.Inv := by
  rcases construct_eq_some constructed with ⟨created, createdEq, linkedEq⟩
  have createdInv := inv.createEntity createdEq
  rcases createEntity_eq_some createdEq with ⟨objects_eq, _, _, _, issued, freshIssued⟩
  rcases setSelf_eq_some linkedEq with ⟨_, nextObjects, live_eq, issued_iff, self_eq⟩
  generalize freshEq : (state.registries registry).pool.fresh index = fresh at *
  have notOwned : ∀ location, ¬state.Owns location registry fresh := by
    intro location owns
    have issued := inv.issued location registry fresh owns
    rw [Issued, ← freshEq] at issued
    exact Nat.lt_irrefl _ issued
  have origin : ∀ {location object}, next.objects location = some object →
      (location = .program address ∧ object.registry = some registry ∧
        object.id = some fresh) ∨ state.objects location = some object := by
    intro location object objectEq
    simp only [nextObjects, StaticEntities.setObject, Function.update_apply, objects_eq] at objectEq
    split at objectEq
    · rename_i isNew
      cases objectEq
      exact Or.inl ⟨isNew, rfl, rfl⟩
    · exact Or.inr objectEq
  have owned : ∀ {location owner any}, next.Owns location owner any →
      (location = .program address ∧ owner = registry ∧ any = fresh) ∨
        state.Owns location owner any := by
    rintro location owner any ⟨object, objectEq, ownerEq, anyEq⟩
    rcases origin objectEq with ⟨isNew, registryEq, idEq⟩ | old
    · cases registryEq.symm.trans ownerEq
      cases idEq.symm.trans anyEq
      exact Or.inl ⟨isNew, rfl, rfl⟩
    · exact Or.inr ⟨object, old, ownerEq, anyEq⟩
  constructor
  · intro location owner any owns mem
    rw [self_eq]
    rcases owned owns with ⟨rfl, rfl, rfl⟩ | before
    · rw [if_pos ⟨rfl, rfl⟩]
    · rw [if_neg]
      · apply createdInv.linked location owner any _ (live_eq owner ▸ mem)
        rw [Owns, objects_eq]
        exact before
      · rintro ⟨rfl, rfl⟩
        exact notOwned location before
  · intro location owner any owns
    apply (issued_iff owner any).mpr
    rcases owned owns with ⟨_, rfl, rfl⟩ | before
    · exact freshIssued
    · exact issued owner any (inv.issued location owner any before)
  · intro location object objectEq full
    rcases origin objectEq with ⟨_, registryEq, _⟩ | old
    · rw [registryEq]
      rfl
    · exact inv.registered location object old full

theorem isSome_construct {address : α} {index : Nat}
    (free : ∀ entity ∈ state.live registry, entity.index ≠ index) :
    (state.construct registry address index).isSome = true := by
  rcases Option.isSome_iff_exists.mp (isSome_createEntity free) with ⟨created, createdEq⟩
  rw [StaticEntities.construct, createdEq, Option.bind_some]
  apply isSome_setSelf_iff.mpr
  exact (createEntity_eq_some createdEq).2.1

/-! ### Constructing by moving -/

theorem Inv.moveConstruct (inv : state.Inv)
    (moved : state.moveConstruct target other = some next) : next.Inv :=
  Inv.moveAssign (inv.setObject target (by rintro _ ⟨rfl⟩; rfl)) moved

/-- A new object can be given everything that is usable. -/
theorem Inv.isSome_moveConstruct_iff (inv : state.Inv) (unused : state.objects target = none)
    (otherAlive : (state.objects other).isSome = true) :
    (state.moveConstruct target other).isSome = true ↔ state.Usable other := by
  have other_ne : other ≠ target := by
    rintro rfl
    rw [unused] at otherAlive
    cases otherAlive
  have begun : (state.setObject target (some StaticEntity.null)).Inv :=
    inv.setObject target (by rintro _ ⟨rfl⟩; rfl)
  have targetNew : (state.setObject target (some StaticEntity.null)).objects target =
      some StaticEntity.null := Function.update_self _ _ _
  have otherKept : (state.setObject target (some StaticEntity.null)).objects other =
      state.objects other := Function.update_of_ne other_ne _ _
  have nothing : ∀ registry entity,
      ¬(state.setObject target (some StaticEntity.null)).Owns target registry entity := by
    rintro registry entity ⟨object, objectEq, _, idEq⟩
    rw [targetNew] at objectEq
    cases objectEq
    cases idEq
  have same : (state.setObject target (some StaticEntity.null)).Usable other ↔
      state.Usable other := by
    simp only [Usable, Owns, otherKept]
    exact Iff.rfl
  apply (begun.isSome_moveAssign_iff (by rw [targetNew]; rfl) (by rwa [otherKept])).trans
  rw [Movable, same]
  constructor
  · exact fun movable => movable.2.1
  · intro usable
    exact ⟨fun registry entity owns => absurd owns (nothing registry entity), usable,
      fun registry entity owns => absurd owns (nothing registry entity)⟩

theorem storeStaticEntity_eq_some {address : α}
    (stored : state.storeStaticEntity registry other address = some next) :
    ∃ object moved, state.objects other = some object ∧
      state.moveConstruct (.stored address) other = some moved ∧
      (next = moved.setObject (.stored address) none ∨
        next = moved.setRegistry registry
          { moved.registries registry with
            staticEntities := Function.update (moved.registries registry).staticEntities
              object.id (some (.stored address)) }) := by
  simp only [storeStaticEntity, Option.bind_eq_bind, Option.bind_eq_some_iff] at stored
  rcases stored with ⟨object, objectEq, moved, movedEq, nextEq⟩
  refine ⟨object, moved, objectEq, movedEq, ?_⟩
  split at nextEq
  · exact Or.inl (Option.some.inj nextEq).symm
  · exact Or.inr (Option.some.inj nextEq).symm

theorem isSome_storeStaticEntity_iff {address : α}
    (otherAlive : (state.objects other).isSome = true) :
    (state.storeStaticEntity registry other address).isSome = true ↔
      (state.moveConstruct (.stored address) other).isSome = true := by
  rcases Option.isSome_iff_exists.mp otherAlive with ⟨object, objectEq⟩
  simp only [storeStaticEntity, Option.bind_eq_bind, objectEq, Option.bind_some]
  cases state.moveConstruct (.stored address) other with
  | none => exact Iff.rfl
  | some moved =>
      rw [Option.bind_some]
      split
      · exact Iff.rfl
      · exact Iff.rfl

theorem Inv.storeStaticEntity (inv : state.Inv) {address : α}
    (stored : state.storeStaticEntity registry other address = some next) : next.Inv := by
  rcases storeStaticEntity_eq_some stored with ⟨object, moved, _, movedEq, rfl | rfl⟩
  · exact (inv.moveConstruct movedEq).setObject _ (by simp)
  · -- Which objects are stored has no part in the invariant.
    have live_eq : ∀ owner, (moved.setRegistry registry
        { moved.registries registry with
          staticEntities := Function.update (moved.registries registry).staticEntities
            object.id (some (.stored address)) }).live owner = moved.live owner := by
      intro owner
      by_cases owner_eq : owner = registry
      · subst owner_eq
        simp [live, setRegistry]
      · simp [live, setRegistry, owner_eq]
    apply (inv.moveConstruct movedEq).of_owns
    · exact fun _ _ _ owns => owns
    · exact fun _ owner _ _ mem => live_eq owner ▸ mem
    · intro location owner any _ _
      by_cases owner_eq : owner = registry
      · subst owner_eq
        simp [self, setRegistry]
      · simp [self, setRegistry, owner_eq]
    · intro owner any issued
      by_cases owner_eq : owner = registry
      · subst owner_eq
        simpa [Issued, setRegistry] using issued
      · simpa [Issued, setRegistry, owner_eq] using issued
    · exact (inv.moveConstruct movedEq).registered

/-! ### Runs -/

/-- Every call keeps the invariant. -/
theorem Inv.step (inv : state.Inv) {action : StaticEntityAction ρ α}
    (stepEq : step state action = some next) : next.Inv := by
  rcases Option.ite_none_right_eq_some.mp stepEq with ⟨_, performed⟩
  cases action with
  | createEntity registry index => exact inv.createEntity performed
  | construct registry address index => exact inv.construct performed
  | moveConstruct address other => exact inv.moveConstruct performed
  | moveAssign target other => exact inv.moveAssign performed
  | storeStaticEntity registry entity address => exact inv.storeStaticEntity performed
  | destroyEntity registry entity => exact inv.destroyEntity performed
  | destruct address =>
      cases performed
      exact inv.setObject _ (by simp)

end Steps

/-- A call does what its code says, and a move assignment destroys no entity that the target
did not own. -/
def Defined [DecidableEq ρ] [DecidableEq α] (state : StaticEntities ρ α)
    (action : StaticEntityAction ρ α) : Prop :=
  state.Callable action → ∃ next, step state action = some next ∧
    ∀ target other, action = .moveAssign target other → state.DestroysOnly next target

/-- In all states of a run live entities have single owners, and all calls are defined. -/
def SingleOwnersThroughout [DecidableEq ρ] [DecidableEq α]
    (actions : List (StaticEntityAction ρ α)) : Prop :=
  ∀ before after middle, actions = before ++ after →
    run step (initial : StaticEntities ρ α) before = some middle →
      middle.SingleOwners ∧ ∀ action later, after = action :: later → middle.Defined action

/-- What is moved is usable, and what is assigned to survives that its entity is destroyed. -/
def Intact (state : StaticEntities ρ α) : StaticEntityAction ρ α → Prop
  | .moveConstruct _ other => state.Usable other
  | .moveAssign target other => state.Movable target other
  | .storeStaticEntity _ entity _ => state.Usable entity
  | .createEntity .. | .construct .. | .destroyEntity .. | .destruct _ => True

variable [DecidableEq ρ] [DecidableEq α]

/-- A call is defined exactly where it is intact. -/
theorem Inv.defined_iff (inv : state.Inv) (action : StaticEntityAction ρ α) :
    state.Defined action ↔ (state.Callable action → state.Intact action) := by
  apply forall_congr'
  intro callable
  have stepEq : StaticEntities.step state action = state.perform action := if_pos callable
  have reduced : (∃ next, StaticEntities.step state action = some next ∧ ∀ target other,
      action = .moveAssign target other → state.DestroysOnly next target) ↔
        (state.perform action).isSome = true := by
    rw [stepEq, Option.isSome_iff_exists]
    constructor
    · rintro ⟨next, performed, _⟩
      exact ⟨next, performed⟩
    · rintro ⟨next, performed⟩
      refine ⟨next, performed, ?_⟩
      rintro target other rfl
      exact destroysOnly_moveAssign performed
  rw [reduced]
  cases action with
  | createEntity registry index => exact iff_of_true (isSome_createEntity callable) trivial
  | construct registry address index => exact iff_of_true (isSome_construct callable.2) trivial
  | moveConstruct address other => exact inv.isSome_moveConstruct_iff callable.1 callable.2
  | moveAssign target other => exact inv.isSome_moveAssign_iff callable.1 callable.2
  | storeStaticEntity registry entity address =>
      exact (isSome_storeStaticEntity_iff callable.2).trans
        (inv.isSome_moveConstruct_iff callable.1 callable.2)
  | destroyEntity registry entity =>
      exact iff_of_true (isSome_destroyEntity_iff.mpr callable) trivial
  | destruct address => exact iff_of_true rfl trivial

/-- Ownership is single throughout a run just if every call is intact. -/
theorem singleOwnersThroughout_iff (actions : List (StaticEntityAction ρ α)) :
    SingleOwnersThroughout actions ↔
      Guarded step (fun state action => state.Callable action → state.Intact action)
        (initial : StaticEntities ρ α) actions := by
  apply safe_throughout_iff_guarded _ _ inv_initial inv_initial.singleOwners
  · exact fun state action next inv stepEq => inv.step stepEq
  · intro state action inv _
    rw [inv.defined_iff]
    apply and_iff_left_of_imp
    intro _ next stepEq
    exact (inv.step stepEq).singleOwners

/-- A run comes to a call for which the code has no next state. -/
theorem not_throughout_of_stuck {before : List (StaticEntityAction ρ α)}
    {action : StaticEntityAction ρ α}
    (stuck : (run step initial before).map (fun middle =>
      (decide (middle.Callable action), (middle.step action).isSome)) = some (true, false)) :
    ¬SingleOwnersThroughout (before ++ [action]) := by
  intro throughout
  rcases Option.map_eq_some_iff.mp stuck with ⟨middle, runEq, found⟩
  rw [Prod.mk.injEq, decide_eq_true_eq] at found
  rcases found with ⟨callable, undefined⟩
  rcases (throughout before [action] middle rfl runEq).2 action [] rfl callable with
    ⟨next, stepEq, _⟩
  rw [stepEq] at undefined
  cases undefined

/-- When a stored static entity is assigned another one, it is destroyed before its members are
assigned.  When a static entity is assigned itself, its entity is. -/
theorem destroyed_in_assignment :
    ¬SingleOwnersThroughout
        ([.construct () 0 0, .storeStaticEntity () (.program 0) 1, .construct () 2 1,
          .moveAssign (.stored 1) (.program 2)] : List (StaticEntityAction Unit Nat)) ∧
      ¬SingleOwnersThroughout
        ([.construct () 0 0, .moveAssign (.program 0) (.program 0)] :
          List (StaticEntityAction Unit Nat)) := by
  constructor
  · exact @not_throughout_of_stuck Unit Nat _ _
      [.construct () 0 0, .storeStaticEntity () (.program 0) 1, .construct () 2 1] _ (by decide)
  · exact @not_throughout_of_stuck Unit Nat _ _ [.construct () 0 0] _ (by decide)

end StaticEntities

end VoxelEngine.Ecs
