import VoxelEngine.Ecs.ChangeValidator
import VoxelEngine.Transition.Run
import Mathlib.Data.Finset.Insert
import Mathlib.Data.Finset.Erase
import Mathlib.Data.List.Perm.Basic

/-!
# Component callbacks and events

The registry calls the callbacks of a component and dispatches an event when it adds or
removes the component.  What is called and dispatched is recorded in order, so that a
listener and the callbacks can be compared with what the registry stores.
-/

namespace VoxelEngine.Ecs

open VoxelEngine.ClientServer
open VoxelEngine.Transition

/-- `component_tags`: what the component types provide. -/
structure ComponentTags where
  hasAddedCallback : TypeHash → Bool
  hasRemovedCallback : TypeHash → Bool
  isRemovable : TypeHash → Bool

/-- A callback that was called or an event that was dispatched. -/
inductive Notice (V : Type) where
  | onComponentAdded (type : TypeHash) (entity : Entity)
  | onComponentRemoved (type : TypeHash) (entity : Entity)
  | entityCreated (entity : Entity)
  | entityDestroyed (entity : Entity)
  | componentCreated (type : TypeHash) (entity : Entity) (component : V)
  | componentDestroyed (type : TypeHash) (entity : Entity) (component : V)

variable {V : Type}

/-! ## The registry -/

namespace Lifecycle

variable (tags : ComponentTags)

/-- Neither entities nor components. -/
def emptyRegistry : Registry V :=
  ⟨EntityPool.empty, fun _ _ => none⟩

/-- Store a component that was not there before. -/
def emplace (registry : Registry V) (type : TypeHash) (entity : Entity) (component : V) :
    Registry V × List (Notice V) :=
  (registry.place type entity (some component),
    (if tags.hasAddedCallback type then [.onComponentAdded type entity] else []) ++
      [.componentCreated type entity component])

/-- The components of a new entity, which have to be of different types. -/
def emplaceAll (entity : Entity) :
    List (TypeHash × V) → Registry V → Option (Registry V × List (Notice V))
  | [], registry => some (registry, [])
  | (type, component) :: rest, registry =>
      if (registry.component type entity).isSome then none
      else
        let emplaced := emplace tags registry type entity component
        (emplaceAll entity rest emplaced.1).map fun result =>
          (result.1, emplaced.2 ++ result.2)

/-- `registry::create_entity_common` -/
def createEntityCommon (registry : Registry V) (entity : Entity)
    (components : List (TypeHash × V)) : Option (Registry V × List (Notice V)) :=
  (emplaceAll tags entity components registry).map fun result =>
    (result.1, .entityCreated entity :: result.2)

/-- `registry::create_entity` -/
def createEntity (registry : Registry V) (index : Nat) (components : List (TypeHash × V)) :
    Option (Registry V × List (Notice V)) := do
  let pool ← registry.pool.create index
  createEntityCommon tags { registry with pool := pool } (registry.pool.fresh index) components

/-- `registry::create_entity_with_id` -/
def createEntityWithId (registry : Registry V) (id : Entity) (index : Nat)
    (components : List (TypeHash × V)) : Option (Registry V × List (Notice V)) := do
  let created ← registry.pool.createWithId id index
  createEntityCommon tags { registry with pool := created.2 } created.1 components

/-- `registry::set_component`: a component that is there already is replaced. -/
def setComponent (registry : Registry V) (type : TypeHash) (entity : Entity) (component : V) :
    Option (Registry V × List (Notice V)) :=
  if entity ∈ registry.pool.entities then
    if (registry.component type entity).isSome then
      some (registry.place type entity (some component), [])
    else some (emplace tags registry type entity component)
  else none

/-- `registry::remove_component`, for component types that can be removed. -/
def removeComponent (registry : Registry V) (type : TypeHash) (entity : Entity) :
    Option (Registry V × List (Notice V)) :=
  match registry.component type entity with
  | some component =>
      if tags.isRemovable type then
        some (registry.place type entity none,
          (if tags.hasRemovedCallback type then [.onComponentRemoved type entity] else []) ++
            [.componentDestroyed type entity component])
      else none
  | none => none

/-- The callbacks and events for the components of a view: first all callbacks. -/
def removalNotices (registry : Registry V) (type : TypeHash) (view : List Entity) :
    List (Notice V) :=
  (if tags.hasRemovedCallback type then view.map (Notice.onComponentRemoved type) else []) ++
    view.filterMap fun entity =>
      (registry.component type entity).map (Notice.componentDestroyed type entity)

/-- `registry::remove_all_components` for a view of entities with the component. -/
def removeAllComponentsIn (registry : Registry V) (type : TypeHash) (view : List Entity) :
    Option (Registry V × List (Notice V)) :=
  if tags.isRemovable type ∧ view.Nodup ∧
      ∀ entity ∈ view, (registry.component type entity).isSome = true then
    some ({ registry with
        component := Function.update registry.component type fun entity =>
          if entity ∈ view then none else registry.component type entity },
      removalNotices tags registry type view)
  else none

/-- The entities with a component of the type. -/
def holders (registry : Registry V) (type : TypeHash) : List Entity :=
  registry.pool.entities.filter fun entity => (registry.component type entity).isSome

/-- `registry::remove_all_components` without a view, given the order in which the view of
the component type is enumerated. -/
def removeAllComponents (registry : Registry V) (type : TypeHash) (order : List Entity) :
    Option (Registry V × List (Notice V)) :=
  if tags.isRemovable type ∧ order.Perm (holders registry type) then
    some ({ registry with
        component := Function.update registry.component type fun _ => none },
      removalNotices tags registry type order)
  else none

/-- `registry::destroy_entity`: the storage drops the components of the entity. -/
def destroyEntity (registry : Registry V) (entity : Entity) :
    Option (Registry V × List (Notice V)) :=
  (registry.pool.destroy entity).map fun pool =>
    ({ pool := pool
       component := fun type other =>
         if other = entity then none else registry.component type other },
      [.entityDestroyed entity])

end Lifecycle

/-! ## Runs -/

/-- The calls that add and remove components. -/
inductive LifecycleAction (V : Type) where
  | createEntity (index : Nat) (components : List (TypeHash × V))
  | createEntityWithId (id : Entity) (index : Nat) (components : List (TypeHash × V))
  | setComponent (type : TypeHash) (entity : Entity) (component : V)
  | removeComponent (type : TypeHash) (entity : Entity)
  | removeAllComponents (type : TypeHash) (order : List Entity)
  | removeAllComponentsIn (type : TypeHash) (view : List Entity)
  | destroyEntity (entity : Entity)

/-- A registry together with what was called and dispatched so far. -/
structure Lifecycle (V : Type) where
  registry : Registry V
  log : List (Notice V)

namespace Lifecycle

/-- Nothing happened yet. -/
def start : Lifecycle V :=
  ⟨emptyRegistry, []⟩

/-- What an action does to the registry, and what it calls and dispatches. -/
def perform (tags : ComponentTags) (registry : Registry V) :
    LifecycleAction V → Option (Registry V × List (Notice V))
  | .createEntity index components => createEntity tags registry index components
  | .createEntityWithId id index components =>
      createEntityWithId tags registry id index components
  | .setComponent type entity component => setComponent tags registry type entity component
  | .removeComponent type entity => removeComponent tags registry type entity
  | .removeAllComponents type order => removeAllComponents tags registry type order
  | .removeAllComponentsIn type view => removeAllComponentsIn tags registry type view
  | .destroyEntity entity => destroyEntity registry entity

/-- The transition relation of a registry that keeps a log. -/
def step (tags : ComponentTags) : Step (Lifecycle V) (LifecycleAction V)
  | state, action =>
      (perform tags state.registry action).map fun result =>
        ⟨result.1, state.log ++ result.2⟩

/-- A listener keeps a set of pairs. -/
def observe (held : Finset (TypeHash × Entity)) : Notice V → Finset (TypeHash × Entity)
  | .componentCreated type entity _ => insert (type, entity) held
  | .componentDestroyed type entity _ => held.erase (type, entity)
  | _ => held

/-- The pairs that the listener holds. -/
def held (log : List (Notice V)) : Finset (TypeHash × Entity) :=
  log.foldl observe ∅

/-- The notice is a call of `on_component_added` for the pair. -/
def isAdded (type : TypeHash) (entity : Entity) : Notice V → Bool
  | .onComponentAdded other at_ => other == type && at_ == entity
  | _ => false

/-- The notice is a call of `on_component_removed` for the pair. -/
def isRemoved (type : TypeHash) (entity : Entity) : Notice V → Bool
  | .onComponentRemoved other at_ => other == type && at_ == entity
  | _ => false

/-- What was noticed about a pair fits whether it is stored: the listener holds it if it is,
and if its type has both callbacks, then `on_component_removed` was called once for each call
of `on_component_added`, except for the component that is still stored. -/
structure TrackedAt (tags : ComponentTags) (type : TypeHash) (entity : Entity)
    (log : List (Notice V)) (stored : Bool) : Prop where
  holds : (type, entity) ∈ held log ↔ stored = true
  calledOnce : tags.hasAddedCallback type = true → tags.hasRemovedCallback type = true →
    log.countP (isAdded type entity) =
      log.countP (isRemoved type entity) + if stored then 1 else 0

/-- The log fits the registry. -/
def Tracked (tags : ComponentTags) (state : Lifecycle V) : Prop :=
  ∀ type entity,
    TrackedAt tags type entity state.log (state.registry.component type entity).isSome

/-- An entity is only destroyed when it has no components. -/
def DestroysBare (state : Lifecycle V) : LifecycleAction V → Prop
  | .destroyEntity entity => ∀ type, state.registry.component type entity = none
  | _ => True

/-- Only live entities have components. -/
def Sound (state : Lifecycle V) : Prop :=
  ∀ type entity, (state.registry.component type entity).isSome = true →
    entity ∈ state.registry.pool.entities

/-! ## What is noticed about one pair -/

/-- The notice is about the component of this type at this entity. -/
def about (type : TypeHash) (entity : Entity) : Notice V → Bool
  | .onComponentAdded other at_ | .onComponentRemoved other at_ |
    .componentCreated other at_ _ | .componentDestroyed other at_ _ =>
      other == type && at_ == entity
  | .entityCreated _ | .entityDestroyed _ => false

variable {tags : ComponentTags} {type : TypeHash} {entity : Entity} {log notices : List (Notice V)}

/-- Whether the listener holds a pair only depends on the notices about it. -/
theorem mem_foldl_observe {before other : Finset (TypeHash × Entity)}
    (same : (type, entity) ∈ before ↔ (type, entity) ∈ other) :
    (type, entity) ∈ notices.foldl observe before ↔
      (type, entity) ∈ (notices.filter (about type entity)).foldl observe other := by
  induction notices generalizing before other with
  | nil => exact same
  | cons notice rest ih =>
      rw [List.foldl_cons, List.filter_cons]
      by_cases isAbout : about type entity notice = true
      · rw [if_pos isAbout, List.foldl_cons]
        apply ih
        cases notice <;> simp [observe, same]
      · rw [if_neg isAbout]
        apply ih
        rw [← same]
        cases notice with
        | componentCreated created at_ value =>
            have ne : (type, entity) ≠ (created, at_) := by
              rintro ⟨⟩
              simp [about] at isAbout
            simp only [observe, Finset.mem_insert, ne, false_or]
        | componentDestroyed destroyed at_ value =>
            have ne : (type, entity) ≠ (destroyed, at_) := by
              rintro ⟨⟩
              simp [about] at isAbout
            simp only [observe, Finset.mem_erase, ne, ne_eq, not_false_eq_true, true_and]
        | _ => rfl

@[simp]
theorem countP_isAdded (type : TypeHash) (entity : Entity) (notices : List (Notice V)) :
    notices.countP (isAdded type entity) =
    (notices.filter (about type entity)).countP (isAdded type entity) := by
  rw [List.countP_filter]
  apply List.countP_congr
  intro notice _
  cases notice <;> simp [isAdded, about]

@[simp]
theorem countP_isRemoved (type : TypeHash) (entity : Entity) (notices : List (Notice V)) :
    notices.countP (isRemoved type entity) =
    (notices.filter (about type entity)).countP (isRemoved type entity) := by
  rw [List.countP_filter]
  apply List.countP_congr
  intro notice _
  cases notice <;> simp [isRemoved, about]

/-- How a call changes what is stored for a pair, and what is noticed about it. -/
inductive PairChange (tags : ComponentTags) (type : TypeHash) (entity : Entity) :
    Option V → List (Notice V) → Option V → Prop where
  | kept {before after notices} (same : before.isSome = after.isSome)
      (silent : notices.filter (about type entity) = []) :
      PairChange tags type entity before notices after
  | created {component notices}
      (noted : notices.filter (about type entity) =
        (if tags.hasAddedCallback type then [.onComponentAdded type entity] else []) ++
          [.componentCreated type entity component]) :
      PairChange tags type entity none notices (some component)
  | removed {component notices}
      (noted : notices.filter (about type entity) =
        (if tags.hasRemovedCallback type then [.onComponentRemoved type entity] else []) ++
          [.componentDestroyed type entity component]) :
      PairChange tags type entity (some component) notices none

/-- Such changes keep the log fitting. -/
theorem TrackedAt.change {before after : Option V}
    (tracked : TrackedAt tags type entity log before.isSome)
    (change : PairChange tags type entity before notices after) :
    TrackedAt tags type entity (log ++ notices) after.isSome := by
  have holds : (type, entity) ∈ held (log ++ notices) ↔
      (type, entity) ∈ (notices.filter (about type entity)).foldl observe (held log) := by
    rw [held, List.foldl_append]
    exact mem_foldl_observe Iff.rfl
  have added := countP_isAdded type entity notices
  have removed := countP_isRemoved type entity notices
  constructor
  · rw [holds]
    cases change with
    | kept same silent =>
        rw [silent, ← same]
        exact tracked.holds
    | created noted =>
        rw [noted]
        cases tags.hasAddedCallback type <;> simp [observe]
    | removed noted =>
        rw [noted]
        cases tags.hasRemovedCallback type <;> simp [observe]
  · intro hasAdded hasRemoved
    have once := tracked.calledOnce hasAdded hasRemoved
    rw [List.countP_append, List.countP_append, added, removed]
    cases change with
    | kept same silent =>
        rw [silent, ← same]
        simpa using once
    | created noted =>
        rw [noted]
        simpa [hasAdded, isAdded, isRemoved] using once
    | removed noted =>
        rw [noted]
        simpa [hasRemoved, isAdded, isRemoved] using once

/-! ## What the calls do -/

variable {registry next : Registry V}

/-- Only the notices about the pair count. -/
theorem PairChange.of_filter_eq {before after : Option V} {other : List (Notice V)}
    (change : PairChange tags type entity before notices after)
    (same : other.filter (about type entity) = notices.filter (about type entity)) :
    PairChange tags type entity before other after := by
  cases change with
  | kept stays silent => exact PairChange.kept stays (same.trans silent)
  | created noted => exact PairChange.created (same.trans noted)
  | removed noted => exact PairChange.removed (same.trans noted)

theorem about_of_ne {other : TypeHash} {at_ : Entity} (ne : (type, entity) ≠ (other, at_)) :
    (other == type && at_ == entity) = false := by
  rw [Bool.and_eq_false_iff, beq_eq_false_iff_ne, beq_eq_false_iff_ne]
  by_contra both
  rw [not_or, not_not, not_not] at both
  exact ne (Prod.ext both.1.symm both.2.symm)

variable (tags registry) in
/-- Storing a component does not concern other pairs. -/
theorem emplace_of_ne {placed : TypeHash} {at_ : Entity} (component : V)
    (ne : (type, entity) ≠ (placed, at_)) :
    (emplace tags registry placed at_ component).1.component type entity =
        registry.component type entity ∧
      (emplace tags registry placed at_ component).2.filter (about type entity) = [] := by
  constructor
  · exact Registry.place_component_of_ne registry _ ne
  · rw [emplace]
    split <;> simp [about, about_of_ne ne]

variable (tags registry type entity) in
theorem emplace_self (component : V) :
    PairChange tags type entity none (emplace tags registry type entity component).2
      ((emplace tags registry type entity component).1.component type entity) := by
  rw [emplace, Registry.place_component_self]
  apply PairChange.created
  split <;> simp [about]

/-- A component that is stored already is not one of the components of a new entity. -/
theorem emplaceAll_of_stored {at_ : Entity} {components : List (TypeHash × V)}
    (emplaced : emplaceAll tags at_ components registry = some (next, notices))
    (stored : (registry.component type entity).isSome = true) :
    next.component type entity = registry.component type entity ∧
      notices.filter (about type entity) = [] := by
  induction components generalizing registry notices with
  | nil =>
      cases emplaced
      exact ⟨rfl, rfl⟩
  | cons first rest ih =>
      rw [emplaceAll] at emplaced
      split at emplaced
      · cases emplaced
      · rename_i absent
        have ne : (type, entity) ≠ (first.1, at_) := by
          rintro ⟨⟩
          exact absent stored
        rcases Option.map_eq_some_iff.mp emplaced with ⟨⟨final, later⟩, restEq, pair_eq⟩
        cases pair_eq
        rcases emplace_of_ne tags registry first.2 ne with
          ⟨same, silent⟩
        rcases ih restEq (same ▸ stored) with ⟨laterSame, laterSilent⟩
        refine ⟨laterSame.trans same, ?_⟩
        rw [List.filter_append, silent, laterSilent, List.append_nil]

theorem emplaceAll_change {at_ : Entity} {components : List (TypeHash × V)}
    (emplaced : emplaceAll tags at_ components registry = some (next, notices)) :
    PairChange tags type entity (registry.component type entity) notices
      (next.component type entity) := by
  induction components generalizing registry notices with
  | nil =>
      cases emplaced
      exact PairChange.kept rfl rfl
  | cons first rest ih =>
      rw [emplaceAll] at emplaced
      split at emplaced
      · cases emplaced
      · rename_i absent
        rcases Option.map_eq_some_iff.mp emplaced with ⟨⟨final, later⟩, restEq, pair_eq⟩
        cases pair_eq
        by_cases pair_eq : (type, entity) = (first.1, at_)
        · cases pair_eq
          have self := emplace_self tags first.1 entity registry first.2
          have stored : ((emplace tags registry first.1 entity first.2).1.component first.1
              entity).isSome = true := by
            simp [emplace]
          rw [Option.not_isSome_iff_eq_none.mp absent]
          rcases emplaceAll_of_stored restEq stored with ⟨same, silent⟩
          rw [same]
          apply self.of_filter_eq
          rw [List.filter_append, silent, List.append_nil]
        · rcases emplace_of_ne tags registry first.2 pair_eq with
            ⟨same, silent⟩
          have change := ih restEq
          rw [same] at change
          apply change.of_filter_eq
          rw [List.filter_append, silent, List.nil_append]

/-- A new entity only gains components. -/
theorem createEntityCommon_change {at_ : Entity} {components : List (TypeHash × V)}
    (created : createEntityCommon tags registry at_ components = some (next, notices)) :
    PairChange tags type entity (registry.component type entity) notices
      (next.component type entity) := by
  rcases Option.map_eq_some_iff.mp created with ⟨⟨final, later⟩, emplaced, pair_eq⟩
  cases pair_eq
  exact (emplaceAll_change emplaced).of_filter_eq rfl

theorem setComponent_change {placed : TypeHash} {at_ : Entity} {component : V}
    (set : setComponent tags registry placed at_ component = some (next, notices)) :
    PairChange tags type entity (registry.component type entity) notices
      (next.component type entity) := by
  rw [setComponent] at set
  split at set
  · split at set
    · rename_i stored
      cases set
      by_cases pair_eq : (type, entity) = (placed, at_)
      · cases pair_eq
        exact PairChange.kept (by simp [stored]) rfl
      · rw [Registry.place_component_of_ne registry _ pair_eq]
        exact PairChange.kept rfl rfl
    · rename_i absent
      rcases Prod.ext_iff.mp (Option.some.inj set) with ⟨rfl, rfl⟩
      by_cases pair_eq : (type, entity) = (placed, at_)
      · cases pair_eq
        rw [Option.not_isSome_iff_eq_none.mp absent]
        exact emplace_self tags type entity registry component
      · rcases emplace_of_ne tags registry component pair_eq with
          ⟨same, silent⟩
        rw [same]
        exact PairChange.kept rfl silent
  · cases set

theorem removeComponent_change {taken : TypeHash} {at_ : Entity}
    (removed : removeComponent tags registry taken at_ = some (next, notices)) :
    PairChange tags type entity (registry.component type entity) notices
      (next.component type entity) := by
  rw [removeComponent] at removed
  cases stored : registry.component taken at_ with
  | none => simp [stored] at removed
  | some component =>
      simp only [stored] at removed
      split at removed
      · cases removed
        by_cases pair_eq : (type, entity) = (taken, at_)
        · cases pair_eq
          rw [stored, Registry.place_component_self]
          apply PairChange.removed
          split <;> simp [about]
        · rw [Registry.place_component_of_ne registry _ pair_eq]
          apply PairChange.kept rfl
          split <;> simp [about, about_of_ne pair_eq]
      · cases removed

/-- What concerns an entity in a loop over a view without repetitions. -/
theorem filter_flatMap_view (type : TypeHash) (entity : Entity) {view : List Entity}
    (nodup : view.Nodup) (visit : Entity → List (Notice V))
    (others : ∀ visited, visited ≠ entity → (visit visited).filter (about type entity) = []) :
    (view.flatMap visit).filter (about type entity) =
      if entity ∈ view then (visit entity).filter (about type entity) else [] := by
  induction view with
  | nil => rfl
  | cons first rest ih =>
      rw [List.nodup_cons] at nodup
      rw [List.flatMap_cons, List.filter_append, ih nodup.2]
      by_cases first_eq : first = entity
      · subst first_eq
        simp [nodup.1]
      · rw [others first first_eq, List.nil_append]
        simp [Ne.symm first_eq]

/-- Each entity of a view is called and announced once. -/
theorem filter_removalNotices (tags : ComponentTags) (registry : Registry V) (type : TypeHash)
    (entity : Entity) {view : List Entity} (nodup : view.Nodup) :
    (removalNotices tags registry type view).filter (about type entity) =
      if entity ∈ view then
        (if tags.hasRemovedCallback type then [.onComponentRemoved type entity] else []) ++
          ((registry.component type entity).map
            (Notice.componentDestroyed type entity)).toList
      else [] := by
  have called := filter_flatMap_view type entity nodup
    (fun visited => [Notice.onComponentRemoved (V := V) type visited])
    (by
      intro visited ne
      simp [about, ne])
  have announced := filter_flatMap_view type entity nodup
    (fun visited => ((registry.component type visited).map
      (Notice.componentDestroyed type visited)).toList)
    (by
      intro visited ne
      cases registry.component type visited <;> simp [about, ne])
  rw [removalNotices, List.filter_append, List.filterMap_eq_flatMap_toList, announced]
  split
  · rw [List.map_eq_flatMap, called]
    by_cases mem : entity ∈ view
    · cases registry.component type entity <;> simp [mem, about]
    · simp [mem]
  · by_cases mem : entity ∈ view
    · cases registry.component type entity <;> simp [mem, about]
    · simp [mem]

theorem filter_removalNotices_of_ne {taken : TypeHash} (ne : taken ≠ type) (view : List Entity) :
    (removalNotices tags registry taken view).filter (about type entity) = [] := by
  apply List.filter_eq_nil_iff.mpr
  intro notice mem
  rw [removalNotices, List.mem_append] at mem
  rcases mem with called | announced
  · split at called
    · rcases List.mem_map.mp called with ⟨visited, _, rfl⟩
      simp [about, ne]
    · cases called
  · rcases List.mem_filterMap.mp announced with ⟨visited, _, noticeEq⟩
    rcases Option.map_eq_some_iff.mp noticeEq with ⟨component, _, rfl⟩
    simp [about, ne]

/-- Removing the components of a view changes just the pairs in it. -/
theorem removal_change {taken : TypeHash} {view : List Entity} (nodup : view.Nodup)
    (stored : ∀ visited ∈ view, (registry.component taken visited).isSome = true)
    (cleared : ∀ visited, next.component taken visited =
      if visited ∈ view then none else registry.component taken visited)
    (others : ∀ other, other ≠ taken → next.component other = registry.component other) :
    PairChange tags type entity (registry.component type entity)
      (removalNotices tags registry taken view) (next.component type entity) := by
  by_cases type_eq : taken = type
  · subst type_eq
    have noted := filter_removalNotices tags registry taken entity nodup
    rw [cleared]
    by_cases mem : entity ∈ view
    · rcases Option.isSome_iff_exists.mp (stored entity mem) with ⟨component, component_eq⟩
      rw [if_pos mem, component_eq]
      rw [if_pos mem, component_eq] at noted
      exact PairChange.removed noted
    · rw [if_neg mem]
      rw [if_neg mem] at noted
      exact PairChange.kept rfl noted
  · rw [others type (Ne.symm type_eq)]
    exact PairChange.kept rfl (filter_removalNotices_of_ne type_eq view)

theorem removeAllComponentsIn_change {taken : TypeHash} {view : List Entity}
    (removed : removeAllComponentsIn tags registry taken view = some (next, notices)) :
    PairChange tags type entity (registry.component type entity) notices
      (next.component type entity) := by
  rw [removeAllComponentsIn, Option.ite_none_right_eq_some] at removed
  rcases removed with ⟨⟨_, nodup, stored⟩, result_eq⟩
  rcases Prod.ext_iff.mp (Option.some.inj result_eq) with ⟨rfl, rfl⟩
  apply removal_change nodup stored
  · intro visited
    simp
  · intro other other_ne
    exact Function.update_of_ne other_ne _ _

theorem mem_holders {visited : Entity} : visited ∈ holders registry type ↔
    visited ∈ registry.pool.entities ∧ (registry.component type visited).isSome = true := by
  rw [holders, List.mem_filter]

theorem removeAllComponents_change {taken : TypeHash} {order : List Entity}
    (sound : ∀ visited, (registry.component taken visited).isSome = true →
      visited ∈ registry.pool.entities)
    (removed : removeAllComponents tags registry taken order = some (next, notices)) :
    PairChange tags type entity (registry.component type entity) notices
      (next.component type entity) := by
  rw [removeAllComponents, Option.ite_none_right_eq_some] at removed
  rcases removed with ⟨⟨_, permuted⟩, result_eq⟩
  rcases Prod.ext_iff.mp (Option.some.inj result_eq) with ⟨rfl, rfl⟩
  have mem_order : ∀ visited,
      visited ∈ order ↔ (registry.component taken visited).isSome = true := by
    intro visited
    rw [permuted.mem_iff, mem_holders]
    exact ⟨And.right, fun stored => ⟨sound visited stored, stored⟩⟩
  apply removal_change
  · rw [permuted.nodup_iff]
    exact registry.pool.nodup.filter _
  · exact fun visited mem => (mem_order visited).mp mem
  · intro visited
    by_cases mem : visited ∈ order
    · simp [mem]
    · have absent : registry.component taken visited = none :=
        Option.not_isSome_iff_eq_none.mp fun stored => mem ((mem_order visited).mpr stored)
      simp [absent]
  · intro other other_ne
    exact Function.update_of_ne other_ne _ _

theorem destroyEntity_eq_some {destroyed : Entity}
    (destroyEq : destroyEntity registry destroyed = some (next, notices)) :
    notices = [.entityDestroyed destroyed] ∧
      (∀ other, other ∈ next.pool.entities ↔
        other ≠ destroyed ∧ other ∈ registry.pool.entities) ∧
      ∀ type entity, next.component type entity =
        if entity = destroyed then none else registry.component type entity := by
  rcases Option.map_eq_some_iff.mp destroyEq with ⟨pool, poolEq, pair_eq⟩
  cases pair_eq
  exact ⟨rfl, fun other => EntityPool.mem_destroy_iff poolEq, fun _ _ => rfl⟩

/-- Every call but the destruction of an entity with components accounts for what it does. -/
theorem perform_change {action : LifecycleAction V} {log : List (Notice V)}
    (sound : Sound ⟨registry, log⟩) (bare : DestroysBare ⟨registry, log⟩ action)
    (performed : perform tags registry action = some (next, notices)) (type : TypeHash)
    (entity : Entity) :
    PairChange tags type entity (registry.component type entity) notices
      (next.component type entity) := by
  cases action with
  | createEntity index components =>
      rcases Option.bind_eq_some_iff.mp performed with ⟨pool, _, created⟩
      have changed : PairChange tags type entity
          (Registry.component ⟨pool, registry.component⟩ type entity) notices
          (next.component type entity) := createEntityCommon_change created
      exact changed
  | createEntityWithId id index components =>
      rcases Option.bind_eq_some_iff.mp performed with ⟨pool, _, created⟩
      have changed : PairChange tags type entity
          (Registry.component ⟨pool.2, registry.component⟩ type entity) notices
          (next.component type entity) := createEntityCommon_change created
      exact changed
  | setComponent placed at_ component => exact setComponent_change performed
  | removeComponent taken at_ => exact removeComponent_change performed
  | removeAllComponents taken order => exact removeAllComponents_change (sound taken) performed
  | removeAllComponentsIn taken view => exact removeAllComponentsIn_change performed
  | destroyEntity destroyed =>
      rcases destroyEntity_eq_some performed with ⟨rfl, _, cleared⟩
      rw [cleared]
      split
      · rename_i entity_eq
        rw [entity_eq, bare type]
        exact PairChange.kept rfl rfl
      · exact PairChange.kept rfl rfl

/-! ## Only live entities have components -/

theorem emplaceAll_sound {at_ : Entity} {components : List (TypeHash × V)}
    (emplaced : emplaceAll tags at_ components registry = some (next, notices)) :
    next.pool = registry.pool ∧ ∀ type entity, (next.component type entity).isSome = true →
      entity = at_ ∨ (registry.component type entity).isSome = true := by
  induction components generalizing registry notices with
  | nil =>
      cases emplaced
      exact ⟨rfl, fun _ _ => Or.inr⟩
  | cons first rest ih =>
      rw [emplaceAll] at emplaced
      split at emplaced
      · cases emplaced
      · rcases Option.map_eq_some_iff.mp emplaced with ⟨⟨final, later⟩, restEq, pair_eq⟩
        cases pair_eq
        rcases ih restEq with ⟨pool_eq, stored⟩
        refine ⟨pool_eq, ?_⟩
        intro type entity isStored
        rcases stored type entity isStored with entity_eq | placed
        · exact Or.inl entity_eq
        · by_cases pair_eq : (type, entity) = (first.1, at_)
          · exact Or.inl (Prod.mk.inj pair_eq).2
          · rw [(emplace_of_ne tags registry first.2 pair_eq).1] at placed
            exact Or.inr placed

/-- The new entity is alive, and so are those that were. -/
theorem createEntityCommon_sound {pool : EntityPool} {at_ : Entity}
    {components : List (TypeHash × V)}
    (sound : ∀ type entity, (registry.component type entity).isSome = true →
      entity ∈ registry.pool.entities)
    (added : pool.entities = at_ :: registry.pool.entities)
    (created : createEntityCommon tags { registry with pool := pool } at_ components =
      some (next, notices)) :
    ∀ type entity, (next.component type entity).isSome = true →
      entity ∈ next.pool.entities := by
  rcases Option.map_eq_some_iff.mp created with ⟨⟨final, later⟩, emplaced, pair_eq⟩
  cases pair_eq
  rcases emplaceAll_sound emplaced with ⟨pool_eq, stored⟩
  intro type entity isStored
  rw [pool_eq, added, List.mem_cons]
  exact (stored type entity isStored).imp_right (sound type entity)

theorem place_sound {placed : TypeHash} {at_ : Entity} {value : Option V}
    (sound : ∀ type entity, (registry.component type entity).isSome = true →
      entity ∈ registry.pool.entities)
    (live : value.isSome = true → at_ ∈ registry.pool.entities) :
    ∀ type entity, ((registry.place placed at_ value).component type entity).isSome = true →
      entity ∈ registry.pool.entities := by
  intro type entity isStored
  by_cases pair_eq : (type, entity) = (placed, at_)
  · cases pair_eq
    rw [Registry.place_component_self] at isStored
    exact live isStored
  · rw [Registry.place_component_of_ne registry _ pair_eq] at isStored
    exact sound type entity isStored

/-- Taking components of one type away leaves no others. -/
theorem column_sound {taken : TypeHash} {column : Entity → Option V}
    (sound : ∀ type entity, (registry.component type entity).isSome = true →
      entity ∈ registry.pool.entities)
    (fewer : ∀ entity, (column entity).isSome = true →
      (registry.component taken entity).isSome = true) :
    ∀ type entity, (Function.update registry.component taken column type entity).isSome = true →
      entity ∈ registry.pool.entities := by
  intro type entity isStored
  by_cases type_eq : type = taken
  · subst type_eq
    rw [Function.update_self] at isStored
    exact sound type entity (fewer entity isStored)
  · rw [Function.update_of_ne type_eq] at isStored
    exact sound type entity isStored

theorem perform_sound {action : LifecycleAction V}
    (sound : ∀ type entity, (registry.component type entity).isSome = true →
      entity ∈ registry.pool.entities)
    (performed : perform tags registry action = some (next, notices)) :
    ∀ type entity, (next.component type entity).isSome = true →
      entity ∈ next.pool.entities := by
  cases action with
  | createEntity index components =>
      rcases Option.bind_eq_some_iff.mp performed with ⟨pool, poolEq, created⟩
      exact createEntityCommon_sound sound (EntityPool.create_eq_some poolEq).2.1 created
  | createEntityWithId id index components =>
      rcases Option.bind_eq_some_iff.mp performed with ⟨pool, poolEq, created⟩
      exact createEntityCommon_sound sound (EntityPool.createWithId_eq_some poolEq) created
  | setComponent placed at_ component =>
      rw [perform, setComponent, Option.ite_none_right_eq_some] at performed
      rcases performed with ⟨live, performed⟩
      split at performed
      all_goals
        rcases Prod.ext_iff.mp (Option.some.inj performed) with ⟨rfl, rfl⟩
        exact place_sound sound fun _ => live
  | removeComponent taken at_ =>
      rw [perform, removeComponent] at performed
      cases stored : registry.component taken at_ with
      | none => simp [stored] at performed
      | some component =>
          simp only [stored, Option.ite_none_right_eq_some] at performed
          rcases Prod.ext_iff.mp (Option.some.inj performed.2) with ⟨rfl, rfl⟩
          exact place_sound sound nofun
  | removeAllComponents taken order =>
      rw [perform, removeAllComponents, Option.ite_none_right_eq_some] at performed
      rcases Prod.ext_iff.mp (Option.some.inj performed.2) with ⟨rfl, rfl⟩
      exact column_sound sound nofun
  | removeAllComponentsIn taken view =>
      rw [perform, removeAllComponentsIn, Option.ite_none_right_eq_some] at performed
      rcases Prod.ext_iff.mp (Option.some.inj performed.2) with ⟨rfl, rfl⟩
      apply column_sound sound
      intro entity isStored
      split at isStored
      · cases isStored
      · exact isStored
  | destroyEntity destroyed =>
      rcases destroyEntity_eq_some performed with ⟨-, alive, cleared⟩
      intro type entity isStored
      rw [cleared] at isStored
      split at isStored
      · cases isStored
      · rename_i entity_ne
        exact (alive entity).mpr ⟨entity_ne, sound type entity isStored⟩

/-! ## Runs of calls -/

theorem sound_start : Sound (start : Lifecycle V) := by
  intro type entity stored
  cases stored

theorem tracked_start : Tracked tags (start : Lifecycle V) :=
  fun _ _ => ⟨by simp [held, start, emptyRegistry], fun _ _ => rfl⟩

variable {state final : Lifecycle V} {action : LifecycleAction V}

theorem step_eq_some (stepEq : step tags state action = some final) :
    ∃ notices, perform tags state.registry action = some (final.registry, notices) ∧
      final.log = state.log ++ notices := by
  rcases Option.map_eq_some_iff.mp stepEq with ⟨⟨next, notices⟩, performed, state_eq⟩
  cases state_eq
  exact ⟨notices, performed, rfl⟩

theorem sound_step (sound : Sound state) (stepEq : step tags state action = some final) :
    Sound final := by
  rcases step_eq_some stepEq with ⟨notices, performed, -⟩
  exact perform_sound sound performed

/-- A call keeps the log fitting if and only if it does not destroy components with their
entity. -/
theorem tracked_step_iff (sound : Sound state) (tracked : Tracked tags state)
    (stepEq : step tags state action = some final) :
    Tracked tags final ↔ DestroysBare state action := by
  rcases step_eq_some stepEq with ⟨notices, performed, log_eq⟩
  constructor
  · intro after
    cases action with
    | destroyEntity destroyed =>
        rcases destroyEntity_eq_some performed with ⟨rfl, -, cleared⟩
        intro type
        have before_holds := (tracked type destroyed).holds
        have after_holds := (after type destroyed).holds
        -- The listener hears nothing about the components.
        rw [cleared, if_pos rfl, log_eq, held, List.foldl_append] at after_holds
        rw [← Option.not_isSome_iff_eq_none, ← before_holds]
        intro stillHeld
        cases after_holds.mp stillHeld
    | _ => trivial
  · intro bare type entity
    rw [log_eq]
    have sound_here : Sound ⟨state.registry, state.log⟩ := sound
    exact (tracked type entity).change (perform_change sound_here bare performed type entity)

/-- For every sequence of calls: the log fits the registry after each of them if and only if
no entity is destroyed that still has components. -/
theorem tracked_iff_destroysBare (tags : ComponentTags) (actions : List (LifecycleAction V))
    (final : Lifecycle V) (runEq : run (step tags) start actions = some final) :
    (∀ before after middle, actions = before ++ after →
        run (step tags) start before = some middle → Tracked tags middle) ↔
      Guarded (step tags) DestroysBare start actions :=
  throughout_iff_guarded (fun _ _ _ sound stepEq => sound_step sound stepEq)
    (fun _ _ _ sound tracked stepEq => tracked_step_iff sound tracked stepEq)
    sound_start tracked_start runEq

/-- All component types have both callbacks and can be removed. -/
def allTags : ComponentTags :=
  ⟨fun _ => true, fun _ => true, fun _ => true⟩

/-- Components come and go in all possible ways before their entities are destroyed. -/
def tidyCalls : List (LifecycleAction Bool) :=
  [.createEntity 0 [(5, true), (6, false)], .createEntityWithId ⟨1, 7⟩ 2 [(5, false)],
    .createEntityWithId ⟨1, 3⟩ 2 [], .setComponent 5 ⟨2, 0⟩ true, .setComponent 5 ⟨0, 0⟩ false,
    .removeAllComponentsIn 5 [⟨2, 0⟩], .removeAllComponents 5 [⟨0, 0⟩, ⟨1, 7⟩],
    .removeComponent 6 ⟨0, 0⟩, .destroyEntity ⟨0, 0⟩]

theorem tracked_tidyCalls :
    ∃ final, run (step allTags) start tidyCalls = some final ∧ final.log.length = 20 ∧
      ((∀ before after middle, tidyCalls = before ++ after →
          run (step allTags) start before = some middle → Tracked allTags middle) ↔
        Guarded (step allTags) DestroysBare start tidyCalls) := by
  rcases Option.map_eq_some_iff.mp (by decide +kernel :
    (run (step allTags) start tidyCalls).map (fun final => final.log.length) = some 20) with
    ⟨final, runEq, length_eq⟩
  exact ⟨final, runEq, length_eq, tracked_iff_destroysBare allTags tidyCalls final runEq⟩

/-- A component whose entity is destroyed is neither called nor announced. -/
theorem destroyed_untracked :
    ∃ final : Lifecycle Bool, run (step allTags) start
        [.createEntity 0 [(5, true)], .destroyEntity ⟨0, 0⟩] = some final ∧
      final.registry.component 5 ⟨0, 0⟩ = none ∧ (5, ⟨0, 0⟩) ∈ held final.log ∧
      final.log.countP (isAdded 5 ⟨0, 0⟩) = 1 ∧ final.log.countP (isRemoved 5 ⟨0, 0⟩) = 0 ∧
      ¬Tracked allTags final := by
  refine ⟨_, rfl, rfl, by decide, rfl, rfl, ?_⟩
  intro tracked
  have once := (tracked 5 ⟨0, 0⟩).calledOnce rfl rfl
  exact absurd once (by decide)

end Lifecycle

end VoxelEngine.Ecs
